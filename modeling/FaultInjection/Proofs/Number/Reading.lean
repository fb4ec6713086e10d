import FaultInjection.Duration
import FaultInjection.Number.Bounded
import FaultInjection.Number.Literal
import Mathlib.Data.Int.Notation
import Mathlib.Data.Nat.Notation

/-!
# Numbers read back

Reading undoes writing: the numeral of an integer reads as that integer in every range that holds it
(`readInteger_signedDecimal`), and the exact text of a duration, read as a number of units, as that
duration (`read?_text`).
-/

namespace FaultInjection

namespace Number

/-! ## Integers -/

/-- More digits do not make a value smaller. -/
theorem le_digitsValue (acc : ℕ) (s : List Char) : acc ≤ digitsValue acc s := by
  induction s generalizing acc with
  | nil => exact Nat.le_refl acc
  | cons c s ih =>
      have hstep : digitsValue acc (c :: s) =
          digitsValue (10 * acc + (digitValue? 10 c).getD 0) s := rfl
      have := ih (10 * acc + (digitValue? 10 c).getD 0)
      omega

/-- Some characters that are all digits. -/
def Digits (s : List Char) : Prop := ∀ c ∈ s, isDigit c = true

/-- A character has a value exactly if it is a digit. -/
theorem isSome_digitValue? (c : Char) : (digitValue? 10 c).isSome = isDigit c := by
  rw [Bool.eq_iff_iff]
  simp only [digitValue?, isDigit, Bool.and_eq_true, decide_eq_true_eq]
  constructor
  · intro h
    refine Decidable.byContradiction fun hout => ?_
    rw [if_neg hout, if_neg] at h
    · cases h
    · split
      · omega
      · split <;> omega
  · intro h
    rw [if_pos h, if_pos (by omega)]
    rfl

theorem digitsValue_cons {acc d : ℕ} {c : Char} {s : List Char} (h : digitValue? 10 c = some d) :
    digitsValue acc (c :: s) = digitsValue (acc * 10 + d) s := by
  show digitsValue (10 * acc + (digitValue? 10 c).getD 0) s = _
  rw [h, Option.getD_some, Nat.mul_comm]

/-- **Digits** and nothing else are read, as their value, as long as that is within the bound. -/
theorem readDigits_eq_ok_iff {bound acc n : ℕ} {overflow : IntegerFault} {s : List Char}
    (hacc : acc ≤ bound) : readDigits 10 bound overflow acc s = .ok n ↔
      Digits s ∧ digitsValue acc s ≤ bound ∧ digitsValue acc s = n := by
  induction s generalizing acc with
  | nil => simp [readDigits, Digits, digitsValue, hacc]
  | cons c s ih =>
      rw [Digits, List.forall_mem_cons, ← isSome_digitValue?, readDigits]
      cases hd : digitValue? 10 c with
      | none => simp
      | some d =>
          rw [digitsValue_cons hd]
          simp only [Option.isSome_some, true_and]
          split
          · next hle => exact ih hle
          · next hgt =>
            have := le_digitsValue (acc * 10 + d) s
            constructor
            · intro h
              cases h
            · rintro ⟨-, hbound, -⟩
              omega

theorem readDigits_of_digits {bound : ℕ} {overflow : IntegerFault} {s : List Char}
    (hdigits : Digits s) (hbound : digitsValue 0 s ≤ bound) :
    readDigits 10 bound overflow 0 s = .ok (digitsValue 0 s) :=
  (readDigits_eq_ok_iff (Nat.zero_le bound)).mpr ⟨hdigits, hbound, rfl⟩

/-- A text that begins with a digit has no sign. -/
theorem readInteger_of_isDigit {base : ℕ} {range : IntegerRange} {c : Char} {s : List Char}
    (h : isDigit c = true) : readInteger base range (c :: s) =
      (readDigits base range.greatest .tooLarge 0 (c :: s)).map Int.ofNat := by
  have hplus : c ≠ '+' := by
    rintro rfl
    exact absurd h (by decide)
  have hminus : c ≠ '-' := by
    rintro rfl
    exact absurd h (by decide)
  unfold readInteger
  split <;> simp_all

/-- A text after a minus sign is read as a negative number, where there are such numbers. -/
theorem readInteger_minus {base : ℕ} {range : IntegerRange} {s : List Char} (hne : s ≠ [])
    (hbelow : range.below ≠ 0) : readInteger base range ('-' :: s) =
      (readDigits base range.below .tooSmall 0 s).map fun n => -(n : ℤ) := by
  cases s with
  | nil => exact absurd rfl hne
  | cons c s =>
      show (if range.below = 0 then _ else _) = _
      rw [if_neg hbelow]

theorem digits_decimal (n : ℕ) : Digits (decimal n) := fun _ hc => isDigit_of_mem_decimal hc

/-- **The numeral of an integer** reads as that integer. -/
theorem readInteger_signedDecimal {range : IntegerRange} {n : ℤ} (h : range.Contains n) :
    readInteger 10 range (signedDecimal n) = .ok n := by
  obtain ⟨hlow, hhigh⟩ := h
  have hvalue : digitsValue 0 (decimal n.natAbs) = n.natAbs := digitsValue_decimal _
  by_cases hneg : n < 0
  · rw [signedDecimal, if_pos hneg, readInteger_minus (decimal_ne_nil _) (by omega),
      readDigits_of_digits (digits_decimal _) (by omega), hvalue]
    have hsame : -(n.natAbs : ℤ) = n := by omega
    exact congrArg Except.ok hsame
  · rw [signedDecimal, if_neg hneg]
    have hread : readDigits 10 range.greatest .tooLarge 0 (decimal n.natAbs) = .ok n.natAbs := by
      rw [readDigits_of_digits (digits_decimal _) (by omega), hvalue]
    cases hdigits : decimal n.natAbs with
    | nil => exact absurd hdigits (decimal_ne_nil _)
    | cons c s =>
        have hc : isDigit c = true :=
          isDigit_of_mem_decimal (n := n.natAbs) (hdigits ▸ List.mem_cons_self)
        rw [readInteger_of_isDigit hc, ← hdigits, hread]
        have hsame : (n.natAbs : ℤ) = n := Int.natAbs_of_nonneg (by omega)
        exact congrArg Except.ok hsame

/-- The digits at the start of a text end where something else follows. -/
theorem splitDigits_append {digits rest : List Char} (hdigits : Digits digits)
    (hrest : ∀ c ∈ rest.head?, isDigit c = false) :
    splitDigits (digits ++ rest) = (digits, rest) := by
  have hend : rest.takeWhile isDigit = [] ∧ rest.dropWhile isDigit = rest := by
    cases rest with
    | nil => exact ⟨rfl, rfl⟩
    | cons c rest =>
        have hc : isDigit c = false := hrest c rfl
        simp [hc]
  rw [splitDigits, List.takeWhile_append_of_pos hdigits, List.dropWhile_append_of_pos hdigits,
    hend.1, hend.2, List.append_nil]

end Number

/-! ## Durations -/

namespace Duration

open Number

/-- The unit of a sign. -/
def Measure.ofSymbol? : String → Option Measure
  | "s" => some .seconds
  | "ms" => some .milliseconds
  | "us" => some .microseconds
  | "ns" => some .nanoseconds
  | _ => none

theorem Measure.ofSymbol?_symbol (u : Measure) : ofSymbol? u.symbol = some u := by cases u <;> rfl

/-- The number in front of a sign ends where the sign begins. -/
theorem Measure.isDigit_of_mem_head? {u : Measure} {c : Char} (h : c ∈ u.symbol.toList.head?) :
    isDigit c = false := by
  cases u <;> cases h <;> rfl

/-- A text read as a whole number of units. -/
def read? (s : String) : Option Duration :=
  let (digits, rest) := splitDigits s.toList
  if digits = [] then none
  else (Measure.ofSymbol? (String.ofList rest)).map fun u => ⟨digitsValue 0 digits * u.size⟩

/-- **The exact text of a duration** reads as that duration. -/
theorem read?_text (d : Duration) : read? d.text = some d := by
  have hsplit : splitDigits d.text.toList = (decimal d.count, d.unit.symbol.toList) := by
    rw [text, decimalText, String.toList_append, String.toList_ofList]
    exact splitDigits_append (digits_decimal _) fun c hc => Measure.isDigit_of_mem_head? hc
  simp only [read?, hsplit, if_neg (decimal_ne_nil _), String.ofList_toList,
    Measure.ofSymbol?_symbol, Option.map_some, digitsValue_decimal, count_mul_size]

end Duration

end FaultInjection
