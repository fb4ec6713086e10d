import FaultInjection.Proofs.Fault.Options

/-!
# Looking a flag up among the arguments

A flag is looked up by its name among all arguments, the values included.  A value that equals the
name and stands ahead of the flag shadows it (`Shadowed`): the search stops there, and gives the
name of the flag that follows.  Otherwise the search gives the value of the flag
(`argumentAfter_of_clear`).  Only a text of the fault can shadow a flag, since no number, rate or
duration is written like a flag (`mem_texts_of_shadowed`).  Together this says when a flag reads
back (`readsBack_iff`).
-/

namespace FaultInjection

open Number Text

/-! ## Values that shadow a flag -/

/-- Among `options`, the first argument that equals the name of `flag` is the value of another flag,
and `rest` comes after that value. -/
inductive Shadowed (flag : Flag) :
    (options rest : List (Flag × String)) → Prop where
  | here {other : Flag} {rest : List (Flag × String)} :
      other ≠ flag → Shadowed flag ((other, flag.name) :: rest) rest
  | later {o : Flag × String} {options rest : List (Flag × String)} :
      o.1 ≠ flag → o.2 ≠ flag.name → Shadowed flag options rest →
      Shadowed flag (o :: options) rest

namespace Shadowed

variable {flag : Flag} {options rest : List (Flag × String)}

/-- The flag itself can only come after the value that shadows it. -/
theorem lookup_eq (h : Shadowed flag options rest) : options.lookup flag = rest.lookup flag := by
  induction h with
  | here hother => rw [List.lookup_cons, beq_false_of_ne hother.symm]
  | later hflag _ _ ih => rw [List.lookup_cons, beq_false_of_ne hflag.symm, ih]

theorem exists_mem (h : Shadowed flag options rest) : ∃ other, (other, flag.name) ∈ options := by
  induction h with
  | @here other _ _ => exact ⟨other, List.mem_cons_self⟩
  | later _ _ _ ih =>
      obtain ⟨other, hmem⟩ := ih
      exact ⟨other, List.mem_cons_of_mem _ hmem⟩

end Shadowed

namespace Command

variable {flag : Flag} {options rest : List (Flag × String)}

/-- One flag with its value either ends the search or is passed over. -/
theorem argumentAfter_cons (o : Flag × String) (options : List (Flag × String)) :
    argumentAfter flag.name (optionArgs (o :: options)) =
      if o.1 = flag then some o.2
      else if o.2 = flag.name then options.head?.map (·.1.name)
      else argumentAfter flag.name (optionArgs options) := by
  have hname : o.1.name = flag.name ↔ o.1 = flag := ⟨Flag.name_injective, congrArg Flag.name⟩
  have hhead : (optionArgs options).head? = options.head?.map (·.1.name) := by
    cases options <;> rfl
  rw [optionArgs_cons, argumentAfter, argumentAfter, hhead]
  simp only [hname, List.head?_cons]

theorem argumentAfter_of_shadowed (h : Shadowed flag options rest) :
    argumentAfter flag.name (optionArgs options) = rest.head?.map (·.1.name) := by
  induction h with
  | here hother => rw [argumentAfter_cons, if_neg hother, if_pos rfl]
  | later hflag hvalue _ ih => rw [argumentAfter_cons, if_neg hflag, if_neg hvalue, ih]

theorem argumentAfter_of_clear (h : ∀ rest, ¬ Shadowed flag options rest) :
    argumentAfter flag.name (optionArgs options) = options.lookup flag := by
  induction options with
  | nil => rfl
  | cons o options ih =>
      rw [argumentAfter_cons]
      by_cases hflag : o.1 = flag
      · subst hflag
        rw [if_pos rfl, List.lookup_cons_self]
      · -- A value that equals the name would be one that shadows the flag.
        have hvalue : o.2 ≠ flag.name := by
          intro hvalue
          apply h options
          have hpair : o = (o.1, flag.name) := Prod.ext rfl hvalue
          rw [hpair]
          exact .here hflag
        rw [if_neg hflag, if_neg hvalue, List.lookup_cons, beq_false_of_ne (Ne.symm hflag)]
        exact ih fun rest hrest => h rest (.later hflag hvalue hrest)

/-- The name of the program and that of the protocol are not names of flags. -/
theorem flag?_name (c : Command) (flag : Flag) :
    c.flag? flag.name = argumentAfter flag.name (optionArgs c.options) := by
  have hprogram : program ≠ flag.name := by cases flag <;> decide
  have hprotocol : c.protocol.name ≠ flag.name := by
    cases c.protocol <;> cases flag <;> decide
  rw [flag?, args_eq, argumentAfter, if_neg hprogram, argumentAfter, if_neg hprotocol]

end Command

/-! ## Values that are not written like a flag -/

namespace Flag

/-- The name of a flag is a hyphen and a character that is not a digit. -/
theorem exists_name (flag : Flag) : ∃ c, isDigit c = false ∧ flag.name.toList = ['-', c] := by
  cases flag <;> exact ⟨_, by decide, rfl⟩

/-- A text that starts with a digit is not the name of a flag. -/
theorem ne_name_of_isDigit {text : List Char} {c : Char} (flag : Flag)
    (h : text.head? = some c) (hc : isDigit c = true) : String.ofList text ≠ flag.name := by
  intro heq
  obtain ⟨_, -, hname⟩ := flag.exists_name
  have htext : text = flag.name.toList := by rw [← heq, String.toList_ofList]
  rw [htext, hname] at h
  have hhyphen : c = '-' := (Option.some.inj h).symm
  rw [hhyphen] at hc
  exact absurd hc (by decide)

end Flag

/-- A numeral starts with a digit, whatever follows it. -/
theorem exists_head?_decimal (n : Nat) (rest : List Char) :
    ∃ c, (decimal n ++ rest).head? = some c ∧ isDigit c = true := by
  obtain ⟨c, digits, hdecimal⟩ := List.exists_cons_of_ne_nil (decimal_ne_nil n)
  have hmem : c ∈ decimal n := by
    rw [hdecimal]
    exact List.mem_cons_self
  exact ⟨c, by rw [hdecimal]; rfl, isDigit_of_mem_decimal hmem⟩

theorem decimalText_ne_name (n : Nat) (flag : Flag) : decimalText n ≠ flag.name := by
  obtain ⟨c, hhead, hdigit⟩ := exists_head?_decimal n []
  rw [List.append_nil] at hhead
  exact flag.ne_name_of_isDigit hhead hdigit

theorem signedText_ne_name (n : Int) (flag : Flag) : signedText n ≠ flag.name := by
  unfold signedText signedDecimal
  split
  · -- A minus sign is a hyphen too, but then a digit follows.
    intro heq
    obtain ⟨c, hc, hname⟩ := flag.exists_name
    have htext : '-' :: decimal n.natAbs = ['-', c] := by
      rw [← hname, ← heq, String.toList_ofList]
    have hmem : c ∈ decimal n.natAbs := by
      rw [List.tail_eq_of_cons_eq htext]
      exact List.mem_singleton_self c
    rw [isDigit_of_mem_decimal hmem] at hc
    cases hc
  · exact decimalText_ne_name n.natAbs flag

theorem Duration.text_ne_name (d : Duration) (flag : Flag) : d.text ≠ flag.name := by
  have htext : d.text = String.ofList (decimal d.count ++ d.unit.symbol.toList) := by
    rw [Duration.text, decimalText, String.ofList_append, String.ofList_toList]
  obtain ⟨c, hhead, hdigit⟩ := exists_head?_decimal d.count d.unit.symbol.toList
  rw [htext]
  exact flag.ne_name_of_isDigit hhead hdigit

/-- A decimal without an exponent starts with a digit, be it a zero before the point. -/
theorem exists_head?_positionalText (n : Nat) (before : Int) :
    ∃ c, (positionalText false (decimal n) before).head? = some c ∧ isDigit c = true := by
  unfold positionalText
  split
  · exact ⟨'0', rfl, by decide⟩
  · next hbefore =>
    split
    · rw [List.append_assoc]
      exact exists_head?_decimal n _
    · have hpos : before.toNat ≠ 0 := by omega
      obtain ⟨c, hhead, hdigit⟩ := exists_head?_decimal n []
      rw [List.append_nil] at hhead
      refine ⟨c, ?_, hdigit⟩
      rw [List.head?_append, List.head?_take, if_neg hpos, hhead]
      rfl

theorem text_ne_name_of_isPositive {x : Binary64} (h : x.isPositive = true) (flag : Flag) :
    x.text ≠ flag.name := by
  cases x with
  | nan => cases h
  | infinite negative =>
      cases negative with
      | true => cases h
      | false => cases flag <;> decide
  | finite negative m q =>
      cases negative with
      | true => cases h
      | false =>
          obtain ⟨c, hhead, hdigit⟩ := exists_head?_positionalText
            (if m = 0 then (0, 0) else shortest m q).1
            ((decimal (if m = 0 then (0, 0) else shortest m q).1).length
              + (if m = 0 then (0, 0) else shortest m q).2)
          exact flag.ne_name_of_isDigit hhead hdigit

/-! ## When a flag reads back -/

/-- Looking a flag up by its name gives its value, and nothing if the flag is not there. -/
def Command.ReadsBack (c : Command) (flag : Flag) : Prop :=
  ∀ value, c.flag? flag.name = some value ↔ (flag, value) ∈ c.options

/-- The text that an answer carries. -/
def Answer.text : Answer → String
  | .http _ body => body
  | .grpc _ message => message

namespace Fault

/-- The values that are texts of the fault rather than numbers. -/
def texts (f : Fault Duration) : List String := [f.answer.text, withCommas f.exclude, f.iface]

variable {f : Fault Duration} {duration : Duration} {c : Command}

/-- Only a text of the fault can be written like a flag. -/
theorem mem_texts_of_written? {other flag : Flag}
    (h : f.written? duration other = some flag.name) : flag.name ∈ f.texts := by
  cases other <;> simp only [written?, Option.ite_none_left_eq_some,
    Option.ite_none_right_eq_some, Option.some.injEq] at h
  case duration => exact absurd h (duration.text_ne_name flag)
  case averageDelay => exact absurd h.2 (f.averageDelay.text_ne_name flag)
  case delayVariation => exact absurd h.2 (f.delayVariation.text_ne_name flag)
  case errorRate => exact absurd h.2 (text_ne_name_of_isPositive h.1 flag)
  case port => exact absurd h.2 (decimalText_ne_name _ flag)
  case proxyPort => exact absurd h.2 (decimalText_ne_name _ flag)
  case exclude => simp [texts, h.2]
  case iface => simp [texts, h.2]
  all_goals
    obtain ⟨-, hanswer⟩ := h
    cases hcase : f.answer <;> simp only [hcase, Answer.written?, reduceCtorEq,
      Option.ite_none_left_eq_some, Option.some.injEq] at hanswer
  case errorCode => exact absurd hanswer (decimalText_ne_name _ flag)
  case status => exact absurd hanswer (signedText_ne_name _ flag)
  all_goals simp [texts, hcase, Answer.text, hanswer.2]

theorem mem_texts_of_shadowed {flag : Flag} {rest : List (Flag × String)}
    (h : Shadowed flag (f.options duration) rest) : flag.name ∈ f.texts := by
  obtain ⟨other, hmem⟩ := h.exists_mem
  exact mem_texts_of_written? (mem_options_iff.mp hmem)

/-- A flag reads back **exactly if** no value shadows it, or what follows that value happens to be
what was written for the flag.  So it does where no text of the fault is the name of the flag. -/
theorem readsBack_iff (h : f.command duration = .ok c) (flag : Flag) :
    (c.ReadsBack flag ↔
      ∀ rest, Shadowed flag c.options rest → rest.head?.map (·.1.name) = rest.lookup flag) ∧
      (flag.name ∉ f.texts → c.ReadsBack flag) := by
  obtain ⟨-, rfl⟩ := command_eq_ok_iff.mp h
  -- No flag comes twice, so that its values are what looking it up among the flags gives.
  have hmem : ∀ value, (flag, value) ∈ f.options duration ↔
      (f.options duration).lookup flag = some value := by
    intro value
    rw [lookup_options, mem_options_iff]
  have hiff : (Command.mk f.protocol (f.options duration)).ReadsBack flag ↔
      ∀ rest, Shadowed flag (f.options duration) rest →
        rest.head?.map (·.1.name) = rest.lookup flag := by
    unfold Command.ReadsBack
    rw [Command.flag?_name]
    simp only [hmem]
    constructor
    · intro hreads rest hrest
      rw [← Command.argumentAfter_of_shadowed hrest, ← hrest.lookup_eq]
      exact Option.ext hreads
    · intro hrest value
      by_cases hshadowed : ∃ rest, Shadowed flag (f.options duration) rest
      · obtain ⟨rest, hsh⟩ := hshadowed
        rw [Command.argumentAfter_of_shadowed hsh, hrest rest hsh, hsh.lookup_eq]
      · rw [Command.argumentAfter_of_clear (not_exists.mp hshadowed)]
  refine ⟨hiff, fun htexts => hiff.mpr fun rest hrest => ?_⟩
  exact absurd (mem_texts_of_shadowed hrest) htexts

/-- A fault whose body is written like the flag of the port, which is not set. -/
def misread : Fault Duration where
  averageDelay := .zero
  delayVariation := .zero
  errorRate := .ofDecimal false 5 (-1)
  answer := .http 500 "-t"
  exclude := []
  port := 0
  proxyPort := 0
  iface := "eth0"

/-- The command that applies it for a second. -/
def misreadCommand : Command where
  protocol := .http
  options := [(.duration, "1s"), (.errorRate, "0.5"), (.errorCode, "500"), (.errorBody, "-t"),
    (.iface, "eth0")]

theorem command_misread : misread.command (.ofSecs 1) = .ok misreadCommand := by decide +kernel

/-- The interface is read back, and the port, which is not set, is not. -/
theorem misread_readsBack :
    misreadCommand.ReadsBack .iface ∧ ¬ misreadCommand.ReadsBack .port := by
  obtain ⟨-, hiface⟩ := readsBack_iff command_misread .iface
  obtain ⟨hport, -⟩ := readsBack_iff command_misread .port
  have hshadowed : Shadowed .port misreadCommand.options [(.iface, "eth0")] :=
    .later (by decide) (by decide) <| .later (by decide) (by decide) <|
      .later (by decide) (by decide) <| .here (by decide)
  exact ⟨hiface (by decide), fun hreads => absurd (hport.mp hreads _ hshadowed) (by decide)⟩

/-- Looking the flag of the port up gives the name of another flag, though no port is set. -/
theorem not_readsBack :
    ¬ ∀ (f : Fault Duration) (duration : Duration) (c : Command), f.command duration = .ok c →
      ∀ flag, c.ReadsBack flag := by
  intro h
  have hport := h misread (.ofSecs 1) misreadCommand command_misread .port "-i"
  exact absurd hport (by decide)

end Fault

end FaultInjection
