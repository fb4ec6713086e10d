import FaultInjection.Proofs.Number.Reading
import FaultInjection.Proofs.Results
import Mathlib.Data.List.Basic

/-!
# Literals

The texts that spell a number.  An integer of a range is spelt by digits with an optional sign
(`IntegerLiteral`), and a floating-point number by a decimal, whose point and exponent may be
missing, or by a word (`RealLiteral`).  The readers accept exactly these texts, and give the number
that they stand for (`readInteger_eq_ok_iff`, `readBinary64_eq_some_iff`).
-/

namespace FaultInjection.Number

/-! ## Integers -/

/-- **The literals of a range**, with the integers that they stand for.  A minus sign is there only
where the range has negative numbers. -/
inductive IntegerLiteral (range : IntegerRange) : List Char → ℤ → Prop
  | bare {digits : List Char} : digits ≠ [] → Digits digits →
      digitsValue 0 digits ≤ range.greatest → IntegerLiteral range digits (digitsValue 0 digits)
  | plus {digits : List Char} : digits ≠ [] → Digits digits →
      digitsValue 0 digits ≤ range.greatest →
      IntegerLiteral range ('+' :: digits) (digitsValue 0 digits)
  | minus {digits : List Char} : digits ≠ [] → Digits digits → range.below ≠ 0 →
      digitsValue 0 digits ≤ range.below →
      IntegerLiteral range ('-' :: digits) (-digitsValue 0 digits)

variable {range range' : IntegerRange} {s : List Char} {n : ℤ}

theorem IntegerLiteral.contains (h : IntegerLiteral range s n) : range.Contains n := by
  cases h with
  | bare _ _ hbound | plus _ _ hbound => constructor <;> omega
  | minus _ _ _ hbound => constructor <;> omega

/-- Digits without a minus sign are read as their value. -/
theorem map_readDigits_eq_ok_iff {bound : ℕ} {overflow : IntegerFault} {f : ℕ → ℤ} :
    (readDigits 10 bound overflow 0 s).map f = .ok n ↔
      Digits s ∧ digitsValue 0 s ≤ bound ∧ f (digitsValue 0 s) = n := by
  simp only [map_eq_ok_iff, readDigits_eq_ok_iff (Nat.zero_le bound)]
  constructor
  · rintro ⟨_, ⟨hdigits, hbound, rfl⟩, hn⟩
    exact ⟨hdigits, hbound, hn⟩
  · rintro ⟨hdigits, hbound, hn⟩
    exact ⟨_, ⟨hdigits, hbound, rfl⟩, hn⟩

/-- A number is made an integer before it is negated. -/
theorem map_neg_eq {ε : Type} (x : Except ε ℕ) :
    Except.map (fun m : ℤ => -m) (do return ((← x : ℕ) : ℤ)) =
      Except.map (fun m : ℕ => -(m : ℤ)) x := by
  cases x <;> rfl

/-- **Literals of a range** are read, as the integers that they stand for, and nothing else is. -/
theorem readInteger_eq_ok_iff : readInteger 10 range s = .ok n ↔ IntegerLiteral range s n := by
  constructor
  · intro h
    unfold readInteger at h
    split at h
    · cases h
    · cases h
    · cases h
    · next r hr =>
      obtain ⟨hdigits, hbound, rfl⟩ := map_readDigits_eq_ok_iff.mp h
      exact .plus (fun hnil => hr (by rw [hnil])) hdigits hbound
    · next r hr =>
      split at h
      · cases h
      · next hbelow =>
        rw [map_neg_eq] at h
        obtain ⟨hdigits, hbound, rfl⟩ := map_readDigits_eq_ok_iff.mp h
        exact .minus (fun hnil => hr (by rw [hnil])) hdigits hbelow hbound
    · next hnil _ _ _ _ =>
      obtain ⟨hdigits, hbound, rfl⟩ := map_readDigits_eq_ok_iff.mp h
      exact .bare hnil hdigits hbound
  · intro h
    cases h with
    | bare hne hdigits hbound =>
        obtain ⟨c, digits, rfl⟩ := List.exists_cons_of_ne_nil hne
        rw [readInteger_of_isDigit (hdigits c List.mem_cons_self)]
        exact map_readDigits_eq_ok_iff.mpr ⟨hdigits, hbound, rfl⟩
    | plus hne hdigits hbound =>
        obtain ⟨c, digits, rfl⟩ := List.exists_cons_of_ne_nil hne
        exact map_readDigits_eq_ok_iff.mpr ⟨hdigits, hbound, rfl⟩
    | minus hne hdigits hbelow hbound =>
        rw [readInteger_minus hne hbelow, map_neg_eq]
        exact map_readDigits_eq_ok_iff.mpr ⟨hdigits, hbound, rfl⟩

/-! ## Other ranges -/

/-- A number that is read from digits is within every bound that it does not pass. -/
theorem readDigits_of_le {base bound bound' acc m : ℕ} {overflow overflow' : IntegerFault}
    (hbase : 1 ≤ base) (h : readDigits base bound overflow acc s = .ok m) (hm : m ≤ bound') :
    acc ≤ m ∧ readDigits base bound' overflow' acc s = .ok m := by
  induction s generalizing acc with
  | nil =>
      cases h
      exact ⟨Nat.le_refl m, rfl⟩
  | cons c s ih =>
      rw [readDigits] at h ⊢
      cases hd : digitValue? base c with
      | none =>
          rw [hd] at h
          cases h
      | some d =>
          simp only [hd] at h ⊢
          split at h
          · obtain ⟨hle, hread⟩ := ih h
            have hacc : acc ≤ acc * base := Nat.le_mul_of_pos_right acc hbase
            exact ⟨by omega, by rw [if_pos (by omega), hread]⟩
          · cases h

/-- A number is read in every range that holds it, if a minus sign is not refused. -/
theorem readInteger_of_contains {base : ℕ} (hbase : 1 ≤ base)
    (h : readInteger base range s = .ok n) (hn : range'.Contains n)
    (hsign : s.head? = some '-' → range'.below ≠ 0) : readInteger base range' s = .ok n := by
  have hdigits : ∀ {bound bound' : ℕ} {overflow overflow' : IntegerFault} {t : List Char}
      {f : ℕ → ℤ}, (readDigits base bound overflow 0 t).map f = .ok n →
      (∀ m, f m = n → m ≤ bound') → (readDigits base bound' overflow' 0 t).map f = .ok n := by
    intro bound bound' overflow overflow' t f hread hbound
    obtain ⟨m, hm, hf⟩ := map_eq_ok_iff.mp hread
    exact map_eq_ok_iff.mpr ⟨m, (readDigits_of_le hbase hm (hbound m hf)).2, hf⟩
  have hofNat : ∀ m : ℕ, Int.ofNat m = n → m ≤ range'.greatest := by
    rintro m rfl
    exact Int.ofNat_le.mp hn.2
  unfold readInteger at h ⊢
  split at h
  · cases h
  · cases h
  · cases h
  · exact hdigits h hofNat
  · split at h
    · cases h
    · rw [if_neg (hsign rfl)]
      rw [map_neg_eq] at h ⊢
      refine hdigits h fun m hm => ?_
      have := hn.1
      omega
  · exact hdigits h hofNat

theorem IntegerLiteral.of_contains (h : IntegerLiteral range s n) (hn : range'.Contains n)
    (hsign : s.head? = some '-' → range'.below ≠ 0) : IntegerLiteral range' s n :=
  readInteger_eq_ok_iff.mp
    (readInteger_of_contains (by decide) (readInteger_eq_ok_iff.mpr h) hn hsign)

/-! ## Floating-point numbers -/

/-- A sign that may be missing, and whether it is a minus sign. -/
inductive Sign : List Char → Bool → Prop
  | missing : Sign [] false
  | plus : Sign ['+'] false
  | minus : Sign ['-'] true

/-- The power of ten that ends a decimal, which may be missing. -/
inductive ExponentLiteral : List Char → ℤ → Prop
  | missing : ExponentLiteral [] 0
  | marked {mark : Char} {sign digits : List Char} {negative : Bool} :
      mark = 'e' ∨ mark = 'E' → Sign sign negative → digits ≠ [] → Digits digits →
      ExponentLiteral (mark :: (sign ++ digits))
        (if negative then -digitsValue 0 digits else digitsValue 0 digits)

/-- A decimal without a sign: digits before and after a point, of which some must be there, and a
power of ten.  Its number is rounded to the nearest floating-point number. -/
inductive DecimalLiteral (negative : Bool) : List Char → Binary64 → Prop
  | intro {whole point fraction exponent : List Char} {e : ℤ} :
      Digits whole → Digits fraction → whole ++ fraction ≠ [] →
      point = ['.'] ∨ point = [] ∧ fraction = [] → ExponentLiteral exponent e →
      DecimalLiteral negative (whole ++ (point ++ (fraction ++ exponent)))
        (.ofDecimal negative (digitsValue 0 (whole ++ fraction)) (e - fraction.length))

/-- **The literals of floating-point numbers**: a word in any case, or a decimal, after a sign. -/
inductive RealLiteral : List Char → Binary64 → Prop
  | infinity {sign word : List Char} {negative : Bool} : Sign sign negative →
      String.ofList (word.map Char.toLower) = "inf" ∨
        String.ofList (word.map Char.toLower) = "infinity" →
      RealLiteral (sign ++ word) (.infinite negative)
  | nan {sign word : List Char} {negative : Bool} : Sign sign negative →
      String.ofList (word.map Char.toLower) = "nan" → RealLiteral (sign ++ word) .nan
  | decimal {sign body : List Char} {negative : Bool} {x : Binary64} : Sign sign negative →
      DecimalLiteral negative body x → RealLiteral (sign ++ body) x

theorem exists_sign (s : List Char) :
    ∃ sign, Sign sign (splitSign s).1 ∧ s = sign ++ (splitSign s).2 := by
  unfold splitSign
  split
  · exact ⟨['-'], .minus, rfl⟩
  · exact ⟨['+'], .plus, rfl⟩
  · exact ⟨[], .missing, rfl⟩

/-- A sign ends where no second one follows. -/
theorem splitSign_append {sign : List Char} {negative : Bool} (h : Sign sign negative)
    (hs : s.head? ≠ some '-' ∧ s.head? ≠ some '+') : splitSign (sign ++ s) = (negative, s) := by
  cases h with
  | plus | minus => rfl
  | missing =>
      rw [List.nil_append]
      unfold splitSign
      split <;> simp_all

/-- Digits do not begin with a sign. -/
theorem Digits.head?_ne_sign {digits : List Char} (h : Digits digits) :
    digits.head? ≠ some '-' ∧ digits.head? ≠ some '+' := by
  constructor
  all_goals
    intro hhead
    have hdigit := h _ (List.mem_of_mem_head? hhead)
    exact absurd hdigit (by decide)

theorem splitDigits_spec (s : List Char) :
    Digits (splitDigits s).1 ∧ s = (splitDigits s).1 ++ (splitDigits s).2 :=
  ⟨fun _ hc => List.all_eq_true.mp List.all_takeWhile _ hc,
    List.takeWhile_append_dropWhile.symm⟩

theorem readExponent_eq_some_iff {e : ℤ} : readExponent s = some e ↔ ExponentLiteral s e := by
  constructor
  · intro h
    cases s with
    | nil =>
        cases h
        exact .missing
    | cons c r =>
        obtain ⟨sign, hsign, hr⟩ := exists_sign r
        obtain ⟨hdigits, hrest⟩ := splitDigits_spec (splitSign r).2
        simp only [readExponent] at h
        split at h
        · next hmark =>
          split at h
          · cases h
          · next hnot =>
            obtain ⟨hne, hend⟩ := not_or.mp hnot
            rw [not_not.mp hend, List.append_nil] at hrest
            rw [← hrest] at hne hdigits h
            rw [hr, ← Option.some.inj h]
            exact .marked hmark hsign hne hdigits
        · cases h
  · intro h
    cases h with
    | missing => rfl
    | @marked mark sign digits negative hmark hsign hne hdigits =>
        have hsplit : splitDigits digits = (digits, []) := by
          have hend : ∀ c ∈ ([] : List Char).head?, isDigit c = false := fun c hc => by cases hc
          have h := splitDigits_append hdigits hend
          rwa [List.append_nil] at h
        simp [readExponent, hmark, splitSign_append hsign hdigits.head?_ne_sign, hsplit, hne]

/-- What ends a decimal is no digit and no point. -/
theorem ExponentLiteral.head? {e : ℤ} {c : Char} (h : ExponentLiteral s e) (hc : c ∈ s.head?) :
    isDigit c = false ∧ c ≠ '.' := by
  cases h with
  | missing => cases hc
  | marked hmark =>
      cases hc
      rcases hmark with rfl | rfl <;> decide

/-- The digits after the point, if there is one, and the text after them. -/
def splitFraction : List Char → List Char × List Char
  | '.' :: r => splitDigits r
  | r => ([], r)

theorem readDecimal_eq (negative : Bool) (s : List Char) : readDecimal negative s =
    if (splitDigits s).1 = [] ∧ (splitFraction (splitDigits s).2).1 = [] then none
    else (readExponent (splitFraction (splitDigits s).2).2).map fun e =>
      .ofDecimal negative (digitsValue 0 ((splitDigits s).1 ++ (splitFraction (splitDigits s).2).1))
        (e - (splitFraction (splitDigits s).2).1.length) := rfl

theorem splitFraction_spec (s : List Char) : Digits (splitFraction s).1 ∧
    ∃ point, (point = ['.'] ∨ point = [] ∧ (splitFraction s).1 = []) ∧
      s = point ++ ((splitFraction s).1 ++ (splitFraction s).2) := by
  unfold splitFraction
  split
  · next r =>
    obtain ⟨hdigits, hr⟩ := splitDigits_spec r
    exact ⟨hdigits, ['.'], Or.inl rfl, congrArg ('.' :: ·) hr⟩
  · exact ⟨fun c hc => absurd hc List.not_mem_nil, [], Or.inr ⟨rfl, rfl⟩, rfl⟩

theorem splitFraction_append {point fraction exponent : List Char} (hfraction : Digits fraction)
    (hpoint : point = ['.'] ∨ point = [] ∧ fraction = [])
    (hexponent : ∀ c ∈ exponent.head?, isDigit c = false ∧ c ≠ '.') :
    splitFraction (point ++ (fraction ++ exponent)) = (fraction, exponent) := by
  rcases hpoint with rfl | ⟨rfl, rfl⟩
  · exact splitDigits_append hfraction fun c hc => (hexponent c hc).1
  · rw [List.nil_append, List.nil_append]
    unfold splitFraction
    split
    · exact absurd rfl (hexponent '.' rfl).2
    · rfl

/-- **Decimals** are read, as the nearest floating-point number, and nothing else is. -/
theorem readDecimal_eq_some_iff {negative : Bool} {x : Binary64} :
    readDecimal negative s = some x ↔ DecimalLiteral negative s x := by
  rw [readDecimal_eq]
  constructor
  · intro h
    obtain ⟨hwhole, hs⟩ := splitDigits_spec s
    obtain ⟨hfraction, point, hpoint, hrest⟩ := splitFraction_spec (splitDigits s).2
    rw [Option.ite_none_left_eq_some, Option.map_eq_some_iff] at h
    obtain ⟨hne, e, he, rfl⟩ := h
    rw [← List.append_eq_nil_iff] at hne
    have hdecimal : DecimalLiteral negative _ _ :=
      .intro hwhole hfraction hne hpoint (readExponent_eq_some_iff.mp he)
    rwa [← hrest, ← hs] at hdecimal
  · rintro ⟨hwhole, hfraction, hne, hpoint, hexponent⟩
    rename_i whole point fraction exponent e
    have hend := fun c hc => hexponent.head? (c := c) hc
    have hrest : ∀ c ∈ (point ++ (fraction ++ exponent)).head?, isDigit c = false := by
      intro c hc
      rcases hpoint with rfl | ⟨rfl, rfl⟩
      · cases hc
        decide
      · exact (hend c hc).1
    rw [splitDigits_append hwhole hrest, splitFraction_append hfraction hpoint hend,
      readExponent_eq_some_iff.mpr hexponent, if_neg (mt List.append_eq_nil_iff.mpr hne)]
    rfl

/-! ## Words -/

theorem toLower_of_isDigit {c : Char} (h : isDigit c = true) : c.toLower = c := by
  simp only [isDigit, Bool.and_eq_true, decide_eq_true_eq] at h
  unfold Char.toLower
  rw [dif_neg]
  rintro ⟨hlow, -⟩
  have : 65 ≤ c.toNat := hlow
  omega

/-- A decimal begins with a digit or with a point. -/
theorem DecimalLiteral.exists_cons {negative : Bool} {x : Binary64}
    (h : DecimalLiteral negative s x) : ∃ c r, s = c :: r ∧ (isDigit c = true ∨ c = '.') := by
  obtain ⟨hwhole, hfraction, hne, hpoint, -⟩ := h
  rename_i whole point fraction exponent e
  cases whole with
  | cons c whole => exact ⟨c, _, rfl, Or.inl (hwhole c List.mem_cons_self)⟩
  | nil =>
      rcases hpoint with rfl | ⟨-, rfl⟩
      · exact ⟨'.', _, rfl, Or.inr rfl⟩
      · exact absurd rfl hne

/-- A word begins with one of two letters. -/
theorem exists_cons_of_word (h : String.ofList (s.map Char.toLower) ∈ ["inf", "infinity", "nan"]) :
    ∃ c r, s = c :: r ∧ (c.toLower = 'i' ∨ c.toLower = 'n') := by
  have hhead : ∀ word ∈ ["inf", "infinity", "nan"],
      word.toList.head? = some 'i' ∨ word.toList.head? = some 'n' := by decide
  have hs := hhead _ h
  rw [String.toList_ofList] at hs
  cases s with
  | nil => simp at hs
  | cons c r => exact ⟨c, r, rfl, by simpa using hs⟩

/-- So a decimal is no word, -/
theorem DecimalLiteral.not_word {negative : Bool} {x : Binary64}
    (h : DecimalLiteral negative s x) :
    String.ofList (s.map Char.toLower) ∉ ["inf", "infinity", "nan"] := by
  intro hword
  obtain ⟨c, r, rfl, hc⟩ := h.exists_cons
  obtain ⟨_, _, hcons, hletter⟩ := exists_cons_of_word hword
  cases hcons
  rcases hc with hc | rfl
  · rw [toLower_of_isDigit hc] at hletter
    rcases hletter with rfl | rfl <;> cases hc
  · revert hletter
    decide

/-- and neither of them begins with a sign. -/
theorem DecimalLiteral.head?_ne_sign {negative : Bool} {x : Binary64}
    (h : DecimalLiteral negative s x) : s.head? ≠ some '-' ∧ s.head? ≠ some '+' := by
  obtain ⟨c, r, rfl, hc⟩ := h.exists_cons
  constructor
  all_goals
    rintro ⟨⟩
    revert hc
    decide

theorem head?_ne_sign_of_word
    (h : String.ofList (s.map Char.toLower) ∈ ["inf", "infinity", "nan"]) :
    s.head? ≠ some '-' ∧ s.head? ≠ some '+' := by
  obtain ⟨c, r, rfl, hc⟩ := exists_cons_of_word h
  constructor
  all_goals
    rintro ⟨⟩
    revert hc
    decide

theorem readBinary64_eq (s : List Char) : readBinary64 s =
    if String.ofList ((splitSign s).2.map Char.toLower) = "inf" ∨
        String.ofList ((splitSign s).2.map Char.toLower) = "infinity" then
      some (.infinite (splitSign s).1)
    else if String.ofList ((splitSign s).2.map Char.toLower) = "nan" then some .nan
    else readDecimal (splitSign s).1 (splitSign s).2 := by
  unfold readBinary64
  simp only
  split <;> simp_all

/-- **Literals of floating-point numbers** are read, as what they stand for, and nothing else is. -/
theorem readBinary64_eq_some_iff {x : Binary64} : readBinary64 s = some x ↔ RealLiteral s x := by
  rw [readBinary64_eq]
  constructor
  · intro h
    obtain ⟨sign, hsign, hs⟩ := exists_sign s
    rw [hs]
    split at h
    · next hword =>
      rw [← Option.some.inj h]
      exact .infinity hsign hword
    · split at h
      · next hword =>
        rw [← Option.some.inj h]
        exact .nan hsign hword
      · exact .decimal hsign (readDecimal_eq_some_iff.mp h)
  · intro h
    cases h with
    | infinity hsign hword =>
        rw [splitSign_append hsign (head?_ne_sign_of_word _), if_pos hword]
        rcases hword with hword | hword <;> rw [hword] <;> decide
    | nan hsign hword =>
        rw [splitSign_append hsign (head?_ne_sign_of_word (by rw [hword]; decide)), hword]
        rfl
    | decimal hsign hdecimal =>
        have hword := hdecimal.not_word
        simp only [List.mem_cons, List.not_mem_nil, or_false, not_or] at hword
        rw [splitSign_append hsign hdecimal.head?_ne_sign]
        simp only [hword, or_self, if_false]
        exact readDecimal_eq_some_iff.mpr hdecimal

end FaultInjection.Number
