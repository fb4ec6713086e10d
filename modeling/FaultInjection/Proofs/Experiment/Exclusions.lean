import FaultInjection.Proofs.Experiment.Variables
import FaultInjection.Proofs.Fault.Options
import FaultInjection.Proofs.Fault.Verdicts

/-!
# What experiments from variables leave alone

The list of what is left alone is cut from the text of a variable, checked, and then written into
one argument of the command.  Whatever that text is, cutting leaves only entries that pass the
check, and the argument cuts into the same entries again.  So the check never refuses such an
experiment, and the agent leaves alone what the variable lists (`applied_of_ofVariables`).
-/

namespace FaultInjection

open Number Text

/-! ## Flags among the arguments -/

/-- Arguments in pairs, of which one is a name with a value. -/
inductive Paired (name value : String) : List String → Prop
  | here (rest : List String) : Paired name value (name :: value :: rest)
  | later (other found : String) {rest : List String} :
      Paired name value rest → Paired name value (other :: found :: rest)

/-- **A command emits a flag** with a value: the two make a pair among the arguments that follow the
program and the protocol.  A value that is written like a flag is none. -/
def Command.Emits (c : Command) (name value : String) : Prop := Paired name value (c.args.drop 2)

theorem paired_cons_iff {name value other found : String} {rest : List String} :
    Paired name value (other :: found :: rest) ↔
      other = name ∧ found = value ∨ Paired name value rest := by
  constructor
  · intro h
    cases h with
    | here => exact Or.inl ⟨rfl, rfl⟩
    | later _ _ hrest => exact Or.inr hrest
  · rintro (⟨rfl, rfl⟩ | hrest)
    · exact .here rest
    · exact .later other found hrest

theorem paired_optionArgs_iff {flag : Flag} {value : String} {options : List (Flag × String)} :
    Paired flag.name value (Command.optionArgs options) ↔ (flag, value) ∈ options := by
  induction options with
  | nil =>
      constructor
      · rintro ⟨⟩
      · intro h
        exact absurd h List.not_mem_nil
  | cons o options ih =>
      have hname : o.1.name = flag.name ↔ o.1 = flag := ⟨Flag.name_injective, congrArg Flag.name⟩
      rw [Command.optionArgs_cons, paired_cons_iff, ih, hname, List.mem_cons, eq_comm (b := o),
        Prod.ext_iff]

/-- A flag is emitted with the values that the command has for it. -/
theorem Command.emits_iff {c : Command} {flag : Flag} {value : String} :
    c.Emits flag.name value ↔ (flag, value) ∈ c.options := by
  rw [Emits, args_eq, ← paired_optionArgs_iff]
  rfl

namespace Experiment

/-! ## What can be wrong -/

/-- The fault of an experiment, described by its protocol. -/
def spec (e : Experiment) : FaultSpec := .ofFault e.timedFault

theorem spec_command (e : Experiment) (duration : Duration) :
    e.spec.command duration = e.timedFault.command duration := by
  rw [FaultSpec.command_eq, spec, FaultSpec.toFault_ofFault]

/-- **What is wrong with an experiment**, apart from what it leaves alone. -/
inductive Wrong (e : Experiment) : Fault.Defect → Prop
  /-- It lasts for no time. -/
  | duration : e.durationSecs = 0 → Wrong e .noDuration
  /-- The error rate is not finite, or it is no share. -/
  | errorRate : (¬ ∃ r, e.fault.errorRate.value? = some r ∧ 0 ≤ r ∧ r ≤ 1) →
      Wrong e (.errorRate e.fault.errorRate)
  /-- The variation is more than the delay. -/
  | variation : e.fault.averageDelay < e.fault.delayVariation →
      Wrong e (.variation (.ofMillis e.fault.delayVariation.toNat)
        (.ofMillis e.fault.averageDelay.toNat))
  /-- There are errors of HTTP requests without a code. -/
  | errorCode {body : String} : e.fault.answer = .http 0 body → e.fault.errorRate.Positive →
      Wrong e .noErrorCode

/-- What is wrong is a condition that does not hold, if no entry is improper. -/
theorem wrong_iff {e : Experiment} (hentries : ∀ entry ∈ e.fault.exclude, Fault.ProperEntry entry)
    {defect : Fault.Defect} : Wrong e defect ↔ ∃ condition : Fault.Condition,
      ¬ condition.Holds e.timedFault e.duration ∧ condition.Blames e.timedFault defect := by
  have hduration : e.durationSecs = 0 ↔ ¬ 0 < e.duration.nanos := by
    rw [← UInt64.toNat_inj]
    show e.durationSecs.toNat = 0 ↔ ¬ 0 < e.durationSecs.toNat * 1000000000
    omega
  have hdelays : e.fault.averageDelay < e.fault.delayVariation ↔
      ¬ e.timedFault.delayVariation.nanos ≤ e.timedFault.averageDelay.nanos := by
    rw [UInt64.lt_iff_toNat_lt]
    show e.fault.averageDelay.toNat < e.fault.delayVariation.toNat ↔
      ¬ e.fault.delayVariation.toNat * 1000000 ≤ e.fault.averageDelay.toNat * 1000000
    omega
  constructor
  · intro h
    cases h with
    | duration h => exact ⟨.lasting, hduration.mp h, rfl⟩
    | errorRate h => exact ⟨.rate, h, rfl⟩
    | variation h => exact ⟨.delays, hdelays.mp h, rfl⟩
    | errorCode hanswer hpositive =>
        exact ⟨.code, fun h => h 0 _ hanswer hpositive rfl, rfl⟩
  · rintro ⟨condition, hnot, hblames⟩
    cases condition with
    | lasting =>
        cases hblames
        exact .duration (hduration.mpr hnot)
    | rate =>
        cases hblames
        exact .errorRate hnot
    | delays =>
        cases hblames
        exact .variation (hdelays.mpr hnot)
    | entries => exact absurd hentries hnot
    | code =>
        cases hblames
        simp only [Fault.Condition.Holds, not_forall, not_not] at hnot
        obtain ⟨_, _, hanswer, hpositive, rfl⟩ := hnot
        exact .errorCode hanswer hpositive

/-! ## What is listed -/

theorem pieces_ne_nil_iff {s : List Char} :
    pieces s ≠ [] ↔ ∃ part ∈ splitAt ',' s, ¬ Blank part := by
  simp only [pieces, ne_eq, List.filter_eq_nil_iff, List.forall_mem_map, decide_eq_true_eq,
    trim_eq_nil_iff, not_forall, not_not, exists_prop]

/-- Whatever a text is, what it lists can be told apart in a list with commas. -/
theorem properEntry_of_mem_listed {text entry : String} (h : entry ∈ listed text) :
    Fault.ProperEntry entry := by
  obtain ⟨piece, hpiece, rfl⟩ := List.mem_map.mp h
  have hne : piece ≠ [] := of_decide_eq_true (List.mem_filter.mp hpiece).2
  refine ⟨?_, ?_⟩
  · simpa using hne
  · rw [String.toList_ofList]
    exact not_mem_of_mem_pieces hpiece

/-- What is listed survives being written with commas. -/
theorem splitAt_withCommas_listed {text : String} (h : listed text ≠ []) :
    splitAt ',' (withCommas (listed text)).toList = pieces text.toList := by
  rw [splitAt_withCommas h fun entry hentry => (properEntry_of_mem_listed hentry).2, listed,
    List.map_map]
  simp

/-! ## What the agent is told -/

/-- **What becomes of an experiment from variables.** -/
structure Applied (vars : Variables) (e : Experiment) : Prop where
  /-- There is no command exactly if something is wrong, -/
  refused : (∃ defect, e.spec.command e.duration = .error defect) ↔ ∃ defect, Wrong e defect
  /-- and then it is something that is wrong that is reported, -/
  wrong : ∀ defect, e.spec.command e.duration = .error defect → Wrong e defect
  /-- which never is what is left alone. -/
  entries : ∀ entry, e.spec.command e.duration ≠ .error (.excludeEntry entry)
  /-- Otherwise the flag of what is left alone is there exactly if the variable lists something, -/
  listed : ∀ c, e.spec.command e.duration = .ok c →
    ((∃ value, c.Emits "-x" value) ↔
      ∃ part ∈ splitAt ',' ((vars "EXCLUDE").getD "").toList, ¬ Blank part)
  /-- and its value lists the same. -/
  same : ∀ c, e.spec.command e.duration = .ok c → ∀ value, c.Emits "-x" value →
    splitAt ',' value.toList = pieces ((vars "EXCLUDE").getD "").toList
  /-- There is no flag that no variable is for. -/
  absent : ∀ c, e.spec.command e.duration = .ok c →
    ∀ name ∈ ["-b", "-m", "-i"], ∀ value, ¬ c.Emits name value

section

variable {vars : Variables} {e : Experiment} {c : Command}

theorem emits_iff_written? (hc : e.spec.command e.duration = .ok c) {flag : Flag} {value : String} :
    c.Emits flag.name value ↔ e.timedFault.written? e.duration flag = some value := by
  rw [spec_command] at hc
  obtain ⟨-, rfl⟩ := Fault.command_eq_ok_iff.mp hc
  rw [Command.emits_iff, Fault.mem_options_iff]

theorem emits_exclude_iff (h : DescribedBy vars e) (hc : e.spec.command e.duration = .ok c)
    {value : String} : c.Emits "-x" value ↔
      listed ((vars "EXCLUDE").getD "") ≠ [] ∧
        value = withCommas (listed ((vars "EXCLUDE").getD "")) := by
  have hleft : e.timedFault.exclude = listed ((vars "EXCLUDE").getD "") := h.left
  have hwritten : c.Emits Flag.exclude.name value ↔
      e.timedFault.written? e.duration .exclude = some value := emits_iff_written? hc
  rw [Fault.written?, hleft, Option.ite_none_left_eq_some, Option.some.injEq,
    eq_comm (b := value)] at hwritten
  exact hwritten

/-- An answer that is named has no text. -/
theorem NamesAnswer.written?_eq_none {answer : Answer} (h : NamesAnswer vars answer) {flag : Flag}
    (hflag : flag = .errorBody ∨ flag = .message) : answer.written? flag = none := by
  cases answer with
  | http code body =>
      obtain ⟨-, -, rfl⟩ := h
      rcases hflag with rfl | rfl <;> rfl
  | grpc status message =>
      obtain ⟨-, -, rfl⟩ := h
      rcases hflag with rfl | rfl <;> rfl

theorem written?_eq_none (h : DescribedBy vars e) {flag : Flag}
    (hflag : flag = .errorBody ∨ flag = .message ∨ flag = .iface) :
    e.timedFault.written? e.duration flag = none := by
  have hanswer : ∀ flag, flag = .errorBody ∨ flag = .message →
      e.timedFault.answer.written? flag = none := fun _ => h.answer.written?_eq_none
  rcases hflag with rfl | rfl | rfl
  · simp [Fault.written?, hanswer]
  · simp [Fault.written?, hanswer]
  · exact if_pos h.iface

/-- **Experiments from variables** are never refused for what they leave alone, and they leave alone
what the variable lists. -/
theorem applied_of_ofVariables (h : ofVariables vars = .ok e) : Applied vars e := by
  have hdescribed : DescribedBy vars e := ofVariables_eq_ok_iff.mp h
  have hentries : ∀ entry ∈ e.fault.exclude, Fault.ProperEntry entry := by
    rw [hdescribed.left]
    exact fun entry => properEntry_of_mem_listed
  have hrefused : ∀ defect, e.spec.command e.duration = .error defect ↔
      Fault.Condition.order.findSome? (·.defect? e.timedFault e.duration) = some defect := by
    intro defect
    rw [spec_command, Fault.command_eq_error_iff, Fault.defect?_eq_findSome?]
  have hwrong : ∀ defect, e.spec.command e.duration = .error defect → Wrong e defect := by
    intro defect hdefect
    obtain ⟨condition, -, hcondition⟩ :=
      List.exists_of_findSome?_eq_some ((hrefused defect).mp hdefect)
    exact (wrong_iff hentries).mpr
      ⟨condition, (condition.defect?_eq_some_iff defect).mp hcondition⟩
  refine ⟨⟨?_, ?_⟩, hwrong, ?_, ?_, ?_, ?_⟩
  · rintro ⟨defect, hdefect⟩
    exact ⟨defect, hwrong defect hdefect⟩
  · -- What is wrong is not always what is reported, but then something else is.
    rintro ⟨defect, hdefect⟩
    obtain ⟨condition, hnot, -⟩ := (wrong_iff hentries).mp hdefect
    cases hc : e.spec.command e.duration with
    | error other => exact ⟨other, rfl⟩
    | ok c =>
        rw [spec_command] at hc
        have hnone := Fault.defect?_eq_none_iff_forall.mp (Fault.command_eq_ok_iff.mp hc).1
        exact absurd (condition.defect?_eq_none_iff.mp (hnone condition)) hnot
  · intro entry hentry
    cases hwrong _ hentry
  · intro c hc
    simp only [emits_exclude_iff hdescribed hc, exists_and_left, exists_eq, and_true]
    rw [← pieces_ne_nil_iff, Ne, Ne, listed, List.map_eq_nil_iff]
  · intro c hc value hvalue
    obtain ⟨hlisted, rfl⟩ := (emits_exclude_iff hdescribed hc).mp hvalue
    exact splitAt_withCommas_listed hlisted
  · intro c hc name hname value hvalue
    have hflag : ∃ flag : Flag, flag.name = name ∧
        (flag = .errorBody ∨ flag = .message ∨ flag = .iface) := by
      simp only [List.mem_cons, List.not_mem_nil, or_false] at hname
      rcases hname with rfl | rfl | rfl
      · exact ⟨.errorBody, rfl, Or.inl rfl⟩
      · exact ⟨.message, rfl, Or.inr (Or.inl rfl)⟩
      · exact ⟨.iface, rfl, Or.inr (Or.inr rfl)⟩
    obtain ⟨flag, rfl, hnone⟩ := hflag
    rw [emits_iff_written? hc, written?_eq_none hdescribed hnone] at hvalue
    cases hvalue

end

/-- Variables with a list that holds blanks, empty parts, and a text like a flag. -/
def oddVariables : Variables
  | "EXCLUDE" => some " -b ,, /a b=1,\t"
  | "ERROR_RATE" => some " 0.5"
  | "ERROR_CODE" => some "500"
  | _ => none

/-- What they describe. -/
def oddExperiment : Experiment where
  scope := ""
  select := .empty
  exclude := .empty
  injectTimeoutSecs := 0
  agentImage := Agent.defaultImage
  durationSecs := 30
  fault := {
    averageDelay := 0
    delayVariation := 0
    errorRate := .ofDecimal false 5 (-1)
    answer := .http 500 ""
    exclude := ["-b", "/a b=1"]
    port := 0
    proxyPort := 0
    iface := "" }

theorem applied_oddExperiment : Applied oddVariables oddExperiment :=
  applied_of_ofVariables (by decide +kernel)

end Experiment

end FaultInjection
