import FaultInjection.Proofs.Number.Literals
import FaultInjection.Proofs.Results
import FaultInjection.Yaml.Atom

/-!
# Spellings of whole numbers

Where nothing is known of a scalar, its text is tried as a number without a minus sign and then as
one with a minus sign, in ranges of two widths (`readWhole`).  Where a number of some range is
expected, its text is read as that.  Both come to the same number, if it is in the range
(`readSigned_of_readWhole`, `readUnsigned_of_readWhole`).  A minus sign must stand in front of a
negative number only, since it is refused where no number is negative.
-/

namespace FaultInjection.Yaml

open Number

variable {range range' : IntegerRange} {s : List Char} {n : ℤ}

/-! ## Marks of bases -/

/-- The bases that have a mark, which is no digit. -/
theorem lookup_markedBases {mark : Char} {base : ℕ} (h : markedBases.lookup mark = some base) :
    isDigit mark = false ∧ 1 ≤ base := by
  simp only [markedBases, List.lookup_cons, List.lookup_nil] at h
  split at h
  · next hx =>
    cases h
    rw [eq_of_beq hx]
    decide
  · split at h
    · next ho =>
      cases h
      rw [eq_of_beq ho]
      decide
    · split at h
      · next hb =>
        cases h
        rw [eq_of_beq hb]
        decide
      · cases h

theorem readMarked_of_contains {negative : Bool} (h : readMarked range negative s = some n)
    (hn : range'.Contains n) (hbelow : negative = true → range'.below ≠ 0) :
    readMarked range' negative s = some n := by
  unfold readMarked at h ⊢
  split at h
  · next mark r =>
    cases hmark : markedBases.lookup mark with
    | none => simp [hmark] at h
    | some base =>
        simp only [hmark] at h ⊢
        split at h
        · cases h
        · next hsign =>
          rw [if_neg hsign]
          rw [toOption_eq_some_iff] at h ⊢
          refine readInteger_of_contains (lookup_markedBases hmark).2 h hn fun hhead => ?_
          cases negative with
          | true => exact hbelow rfl
          | false => simp [startsWithSign, show r.head? = some '-' from hhead] at hsign
  · cases h

theorem head?_of_readMarked {negative : Bool} (h : readMarked range negative s = some n) :
    s.head? = some '0' := by
  unfold readMarked at h
  split at h
  · rfl
  · cases h

/-! ## Decimals -/

variable {digits : List Char}

theorem head?_ne_of_digits (h : Digits digits) {c : Char} (hc : isDigit c = false) :
    digits.head? ≠ some c := by
  intro hhead
  rw [h c (List.mem_of_mem_head? hhead)] at hc
  cases hc

theorem startsWithSign_of_digits (h : Digits digits) : startsWithSign digits = false := by
  have hplus : digits.head? ≠ some '+' := head?_ne_of_digits h (by decide)
  have hminus : digits.head? ≠ some '-' := head?_ne_of_digits h (by decide)
  simp [startsWithSign, hplus, hminus]

/-- There is no mark among digits. -/
theorem lookup_markedBases_of_digits {mark : Char} {r : List Char} (h : Digits ('0' :: mark :: r)) :
    markedBases.lookup mark = none := by
  cases hmark : markedBases.lookup mark with
  | none => rfl
  | some base =>
      have hdigit := h mark (by simp)
      rw [(lookup_markedBases hmark).1] at hdigit
      cases hdigit

theorem hasSignedMark_of_digits (h : Digits digits) : hasSignedMark digits = false := by
  unfold hasSignedMark
  split
  · rw [lookup_markedBases_of_digits h]
    rfl
  · rfl

theorem readMarked_of_digits (h : Digits digits) (range : IntegerRange) (negative : Bool) :
    readMarked range negative digits = none := by
  unfold readMarked
  split
  · rw [lookup_markedBases_of_digits h]
  · rfl

theorem readInteger_of_digits (hne : digits ≠ []) (h : Digits digits)
    (hbound : digitsValue 0 digits ≤ range.greatest) :
    readInteger 10 range digits = .ok (digitsValue 0 digits : ℤ) :=
  readInteger_eq_ok_iff.mpr (.bare hne h hbound)

/-- Decimals are read, but a minus sign is refused where no number is negative. -/
theorem readUnsigned_of_literal (h : IntegerLiteral range s n) (hsign : s.head? ≠ some '-')
    (hpadded : isPaddedNumber s = false) : readUnsigned range s = some n := by
  have hdigits : ∀ {d : List Char}, d ≠ [] → Digits d → digitsValue 0 d ≤ range.greatest →
      (if s.head? = some '+' then s.tail else s) = d →
      readUnsigned range s = some (digitsValue 0 d : ℤ) := by
    intro d hne hd hbound hs
    simp only [readUnsigned, hs, hasSignedMark_of_digits hd, readMarked_of_digits hd,
      startsWithSign_of_digits hd, hpadded, readInteger_of_digits hne hd hbound]
    rfl
  cases h with
  | bare hne hd hbound =>
      exact hdigits hne hd hbound (if_neg (head?_ne_of_digits hd (by decide)))
  | plus hne hd hbound => exact hdigits hne hd hbound rfl
  | minus => exact absurd rfl hsign

theorem readSigned_of_literal (h : IntegerLiteral range s n) (hpadded : isPaddedNumber s = false) :
    readSigned range s = some n := by
  have hread := readInteger_eq_ok_iff.mpr h
  have hdigits : ∀ {d : List Char}, d ≠ [] → Digits d → digitsValue 0 d ≤ range.greatest →
      (if s.head? = some '+' then s.tail else s) = d → s.head? ≠ some '-' →
      readSigned range s = some (digitsValue 0 d : ℤ) := by
    intro d hne hd hbound hs hminus
    simp only [readSigned, hs, startsWithSign_of_digits hd, hasSignedMark_of_digits hd,
      readMarked_of_digits hd, if_neg hminus, hpadded, readInteger_of_digits hne hd hbound,
      Bool.and_false]
    rfl
  cases h with
  | bare hne hd hbound =>
      exact hdigits hne hd hbound (if_neg (head?_ne_of_digits hd (by decide)))
        (head?_ne_of_digits hd (by decide))
  | plus hne hd hbound => exact hdigits hne hd hbound rfl (by simp)
  | @minus d hne hd hbelow hbound =>
      have hunmarked : readMarked range false ('-' :: d) = none := rfl
      have hsigned : hasSignedMark ('-' :: d) = false := rfl
      simp only [readSigned, List.head?_cons, List.tail_cons, Option.some.injEq, Char.reduceEq,
        if_false, if_true, decide_false, Bool.false_and, hunmarked, hsigned,
        readMarked_of_digits hd, hpadded, hread]
      rfl

/-! ## Ways of reading -/

/-- A text without the plus sign in front of it. -/
def unsignedPart (s : List Char) : List Char := if s.head? = some '+' then s.tail else s

/-- A number that is read where none is negative has a mark, or it is a decimal without a minus
sign. -/
theorem readUnsigned_eq_some (h : readUnsigned range s = some n) :
    (hasSignedMark (unsignedPart s) = false ∧ readMarked range false (unsignedPart s) = some n) ∨
      (IntegerLiteral range s n ∧ s.head? ≠ some '-' ∧ isPaddedNumber s = false) := by
  have hpart : (if s.head? = some '+' then s.tail else s) = unsignedPart s := rfl
  simp only [readUnsigned, hpart] at h
  split at h
  · cases h
  · next hsigned =>
    split at h
    · next m hm =>
      cases h
      exact Or.inl ⟨by simpa using hsigned, hm⟩
    · split at h
      · cases h
      · next hno =>
        simp only [Bool.or_eq_true, not_or, Bool.not_eq_true] at hno
        obtain ⟨hstart, hpadded⟩ := hno
        refine Or.inr ?_
        have hliteral := readInteger_eq_ok_iff.mp (toOption_eq_some_iff.mp h)
        unfold unsignedPart at hliteral hstart
        split at hliteral
        · next hplus =>
          -- Behind the plus sign there are digits only.
          obtain ⟨r, rfl⟩ := List.head?_eq_some_iff.mp hplus
          rw [if_pos hplus] at hstart
          cases hliteral with
          | bare hne hd hbound => exact ⟨.plus hne hd hbound, by simp, hpadded⟩
          | plus => cases hstart
          | minus => cases hstart
        · next hplus =>
          rw [if_neg hplus] at hstart
          refine ⟨hliteral, fun hminus => ?_, hpadded⟩
          simp [startsWithSign, hminus] at hstart

/-- A number that is read where it may be negative has a minus sign and a mark, or it is a
decimal. -/
theorem readNegative_eq_some (h : readNegative range s = some n) :
    (∃ r, s = '-' :: r ∧ readMarked range true r = some n) ∨
      (IntegerLiteral range s n ∧ isPaddedNumber s = false) := by
  unfold readNegative at h
  split at h
  · next m hm =>
    cases h
    split at hm
    · next hminus =>
      obtain ⟨r, rfl⟩ := List.head?_eq_some_iff.mp hminus
      exact Or.inl ⟨r, rfl, hm⟩
    · cases hm
  · split at h
    · cases h
    · next hpadded =>
      exact Or.inr ⟨readInteger_eq_ok_iff.mp (toOption_eq_some_iff.mp h), by simpa using hpadded⟩

theorem readWhole_eq_some (h : readWhole s = some n) :
    (∃ range, readUnsigned range s = some n) ∨ ∃ range, readNegative range s = some n := by
  simp only [readWhole, Option.orElse_eq_orElse, Option.orElse_eq_or, Option.or_eq_some_iff] at h
  rcases h with h | ⟨-, h | ⟨-, h | ⟨-, h⟩⟩⟩
  · exact Or.inl ⟨_, h⟩
  · exact Or.inr ⟨_, h⟩
  · exact Or.inl ⟨_, h⟩
  · exact Or.inr ⟨_, h⟩

/-! ## One number -/

/-- **A whole number** that a text stands for is read where a number without sign is expected. -/
theorem readUnsigned_of_readWhole (h : readWhole s = some n) (hn : range.Contains n)
    (hsign : s.head? ≠ some '-') : readUnsigned range s = some n := by
  have hliteral : ∀ {range' : IntegerRange}, IntegerLiteral range' s n →
      isPaddedNumber s = false → readUnsigned range s = some n := fun hliteral hpadded =>
    readUnsigned_of_literal (hliteral.of_contains hn fun hminus => absurd hminus hsign) hsign
      hpadded
  rcases readWhole_eq_some h with ⟨range', h⟩ | ⟨range', h⟩
  · rcases readUnsigned_eq_some h with ⟨hmark, hread⟩ | ⟨h, -, hpadded⟩
    · have hread := readMarked_of_contains hread hn fun hfalse => by cases hfalse
      unfold unsignedPart at hmark hread
      simp only [readUnsigned, hmark, hread]
      rfl
    · exact hliteral h hpadded
  · rcases readNegative_eq_some h with ⟨r, rfl, -⟩ | ⟨h, hpadded⟩
    · exact absurd rfl hsign
    · exact hliteral h hpadded

/-- So it is where a number with sign is expected. -/
theorem readSigned_of_readWhole (h : readWhole s = some n) (hn : range.Contains n)
    (hbelow : range.below ≠ 0) : readSigned range s = some n := by
  have hliteral : ∀ {range' : IntegerRange}, IntegerLiteral range' s n →
      isPaddedNumber s = false → readSigned range s = some n := fun hliteral hpadded =>
    readSigned_of_literal (hliteral.of_contains hn fun _ => hbelow) hpadded
  rcases readWhole_eq_some h with ⟨range', h⟩ | ⟨range', h⟩
  · rcases readUnsigned_eq_some h with ⟨hmark, hread⟩ | ⟨h, -, hpadded⟩
    · have hstart : startsWithSign (unsignedPart s) = false := by
        simp [startsWithSign, head?_of_readMarked hread]
      have hread := readMarked_of_contains hread hn fun hfalse => by cases hfalse
      unfold unsignedPart at hmark hread hstart
      simp only [readSigned, hmark, hread, hstart, Bool.and_false]
      rfl
    · exact hliteral h hpadded
  · rcases readNegative_eq_some h with ⟨r, rfl, hread⟩ | ⟨h, hpadded⟩
    · have hread := readMarked_of_contains hread hn fun _ => hbelow
      have hunmarked : readMarked range false ('-' :: r) = none := rfl
      have hsigned : hasSignedMark ('-' :: r) = false := rfl
      simp only [readSigned, List.head?_cons, List.tail_cons, Option.some.injEq, Char.reduceEq,
        if_false, if_true, decide_false, Bool.false_and, hunmarked, hsigned, hread]
      rfl
    · exact hliteral h hpadded

end FaultInjection.Yaml
