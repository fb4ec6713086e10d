import FaultInjection.Kube.Version
import FaultInjection.Proofs.Number.Literals
import Mathlib.Algebra.Ring.Nat
import Mathlib.Data.Prod.Lex

/-!
# Recent versions

A text states a number if digits stand at its start, and the number is the value of all of them
(`States`).  A version is accepted exactly if both its texts state numbers of thirty-two bits, which
are not before 1.23 in the lexicographic order.  So what follows the digits makes no difference, and
what is later than an accepted version is accepted (`Floored`, `checkVersion_floored`).
-/

namespace FaultInjection.Kube

open Number

/-! ## Numbers at the start -/

/-- **The digits at the start** of a text, which end where something else follows. -/
def StartsWith (s : String) (digits : List Char) : Prop :=
  Digits digits ∧ ∃ rest, s.toList = digits ++ rest ∧ ∀ c ∈ rest.head?, isDigit c = false

/-- **The number that a text states**: the value of the digits at its start, if there are any. -/
def States (s : String) (n : ℕ) : Prop :=
  ∃ digits, StartsWith s digits ∧ digits ≠ [] ∧ digitsValue 0 digits = n

variable {s major minor : String} {digits : List Char} {m n : ℕ}

/-- A text has one start. -/
theorem startsWith_iff : StartsWith s digits ↔ s.toList.takeWhile isDigit = digits := by
  constructor
  · rintro ⟨hdigits, rest, hs, hrest⟩
    rw [hs]
    exact congrArg Prod.fst (splitDigits_append hdigits hrest)
  · rintro rfl
    obtain ⟨hdigits, hs⟩ := splitDigits_spec s.toList
    refine ⟨hdigits, s.toList.dropWhile isDigit, hs, fun c hc => ?_⟩
    have hend := List.head?_dropWhile_not isDigit s.toList
    rw [Option.mem_def.mp hc] at hend
    simpa using hend

theorem states_iff : States s n ↔ s.toList.takeWhile isDigit ≠ [] ∧
    digitsValue 0 (s.toList.takeWhile isDigit) = n := by
  simp only [States, startsWith_iff, exists_eq_left']

/-- A text states one number. -/
theorem States.unique (hm : States s m) (hn : States s n) : m = n :=
  (states_iff.mp hm).2.symm.trans (states_iff.mp hn).2

/-- Digits are read as their value, in a range that holds it. -/
theorem readInteger_eq_ok_iff_of_digits {range : IntegerRange} {z : ℤ} (h : Digits digits) :
    readInteger 10 range digits = .ok z ↔
      digits ≠ [] ∧ digitsValue 0 digits ≤ range.greatest ∧ (digitsValue 0 digits : ℤ) = z := by
  rw [readInteger_eq_ok_iff]
  constructor
  · intro hz
    cases hz with
    | bare hne _ hbound => exact ⟨hne, hbound, rfl⟩
    | plus => exact absurd rfl h.head?_ne_sign.2
    | minus => exact absurd rfl h.head?_ne_sign.1
  · rintro ⟨hne, hbound, rfl⟩
    exact .bare hne h hbound

/-- **The number of a text** is the one that it states, if that has thirty-two bits. -/
theorem leadingNumber_eq_some_iff : leadingNumber s = some n ↔ States s n ∧ n < 2 ^ 32 := by
  have hdigits : Digits (s.toList.takeWhile isDigit) := (splitDigits_spec s.toList).1
  have hgreatest : (IntegerRange.unsigned 32).greatest = 2 ^ 32 - 1 := rfl
  rw [states_iff]
  constructor
  · intro h
    unfold leadingNumber at h
    split at h
    · next z hread =>
      obtain ⟨hne, hbound, rfl⟩ := (readInteger_eq_ok_iff_of_digits hdigits).mp hread
      obtain rfl := Option.some.inj h
      refine ⟨⟨hne, (Int.toNat_natCast _).symm⟩, ?_⟩
      omega
    · cases h
  · rintro ⟨⟨hne, rfl⟩, hlt⟩
    have hread := (readInteger_eq_ok_iff_of_digits hdigits).mpr
      ⟨hne, show _ ≤ (IntegerRange.unsigned 32).greatest by omega, rfl⟩
    simp only [leadingNumber, hread, Int.toNat_natCast]

/-! ## Versions -/

/-- A version is supported from 1.23 on, in the lexicographic order. -/
theorem isSupported_iff : isSupported major minor = true ↔ ∃ m n,
    leadingNumber major = some m ∧ leadingNumber minor = some n ∧ toLex (1, 23) ≤ toLex (m, n) := by
  simp only [Prod.Lex.toLex_le_toLex]
  unfold isSupported
  cases leadingNumber major with
  | none => simp
  | some m =>
      cases leadingNumber minor with
      | none => simp
      | some n => simp [eq_comm (a := 1)]

theorem checkVersion_eq_ok_iff : checkVersion major minor = .ok () ↔ ∃ m n,
    (States major m ∧ m < 2 ^ 32) ∧ (States minor n ∧ n < 2 ^ 32) ∧
      toLex (1, 23) ≤ toLex (m, n) := by
  have hchecked : checkVersion major minor = .ok () ↔ isSupported major minor = true := by
    unfold checkVersion
    cases isSupported major minor <;> simp
  simp only [hchecked, isSupported_iff, leadingNumber_eq_some_iff]

/-- **A floor under versions.**  What becomes of a version that is given in two texts. -/
structure Floored (major minor : String) : Prop where
  /-- It is accepted exactly if both texts state numbers of thirty-two bits, from 1.23 on. -/
  accepted : checkVersion major minor = .ok () ↔ ∃ m n, States major m ∧ States minor n ∧
    m < 2 ^ 32 ∧ n < 2 ^ 32 ∧ (1 < m ∨ m = 1 ∧ 23 ≤ n)
  /-- What follows the digits at the start makes no difference. -/
  suffixed : ∀ {digits digits' : List Char} {major' minor' : String},
    StartsWith major digits → StartsWith major' digits →
    StartsWith minor digits' → StartsWith minor' digits' →
    (checkVersion major minor = .ok () ↔ checkVersion major' minor' = .ok ())
  /-- What is later than an accepted version is accepted, while its numbers have thirty-two bits. -/
  later : checkVersion major minor = .ok () → ∀ {m n m' n' : ℕ} {major' minor' : String},
    States major m → States minor n → States major' m' → States minor' n' →
    m' < 2 ^ 32 → n' < 2 ^ 32 → toLex (m, n) ≤ toLex (m', n') →
    checkVersion major' minor' = .ok ()
  /-- A refusal shows both texts as they are. -/
  refused : ∀ {failure : Failure}, checkVersion major minor = .error failure →
    failure = .version ("v" ++ major ++ "." ++ minor)

/-- **Recent versions**: there is a floor under all of them. -/
theorem checkVersion_floored (major minor : String) : Floored major minor where
  accepted := by
    simp only [checkVersion_eq_ok_iff, Prod.Lex.toLex_le_toLex]
    constructor
    · rintro ⟨m, n, ⟨hmajor, hm⟩, ⟨hminor, hn⟩, hfloor⟩
      exact ⟨m, n, hmajor, hminor, hm, hn, hfloor.imp_right (And.imp_left Eq.symm)⟩
    · rintro ⟨m, n, hmajor, hminor, hm, hn, hfloor⟩
      exact ⟨m, n, ⟨hmajor, hm⟩, ⟨hminor, hn⟩, hfloor.imp_right (And.imp_left Eq.symm)⟩
  suffixed := by
    intro digits digits' major' minor' hmajor hmajor' hminor hminor'
    have hsame : ∀ {s s' : String} {digits : List Char}, StartsWith s digits →
        StartsWith s' digits → ∀ n, States s n ↔ States s' n := by
      intro s s' digits h h' n
      rw [states_iff, states_iff, startsWith_iff.mp h, startsWith_iff.mp h']
    simp only [checkVersion_eq_ok_iff, hsame hmajor hmajor', hsame hminor hminor']
  later := by
    intro h m n m' n' major' minor' hmajor hminor hmajor' hminor' hm hn hle
    obtain ⟨a, b, ⟨ha, -⟩, ⟨hb, -⟩, hfloor⟩ := checkVersion_eq_ok_iff.mp h
    obtain rfl : a = m := ha.unique hmajor
    obtain rfl : b = n := hb.unique hminor
    exact checkVersion_eq_ok_iff.mpr
      ⟨m', n', ⟨hmajor', hm⟩, ⟨hminor', hn⟩, hfloor.trans hle⟩
  refused := by
    intro failure h
    unfold checkVersion at h
    split at h
    · cases h
    · exact (Except.error.inj h).symm

/-- Zeros in front are no digits too many, and neither is what follows the digits. -/
example : checkVersion "0001-rc" "00000000000023+" = .ok () := by decide

/-- Other digits than the ten, a sign and a number that is too great are refused. -/
example : checkVersion "2" "٢٣" = .error (.version "v2.٢٣") ∧
    checkVersion "+2" "0" = .error (.version "v+2.0") ∧
    checkVersion "2" "4294967296" = .error (.version "v2.4294967296") := by decide

end FaultInjection.Kube
