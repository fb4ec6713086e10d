/-!
# Blank characters

The characters that separate words, and the trimming of a text at both ends. A character is blank
when it has the Unicode property `White_Space`; there are twenty-five of them.
-/

namespace FaultInjection.Text

/-! ## The class -/

/-- The characters with the property `White_Space`. -/
def isBlank (c : Char) : Bool :=
  let n := c.toNat
  (9 ≤ n && n ≤ 13) || n == 0x20 || n == 0x85 || n == 0xA0 || n == 0x1680
    || (0x2000 ≤ n && n ≤ 0x200A) || n == 0x2028 || n == 0x2029 || n == 0x202F
    || n == 0x205F || n == 0x3000

/-! ## Trimming -/

/-- The characters after the leading blanks. -/
def trimStart (s : List Char) : List Char := s.dropWhile isBlank

/-- The characters before the trailing blanks. -/
def trimEnd (s : List Char) : List Char := (s.reverse.dropWhile isBlank).reverse

/-- The characters between the leading and the trailing blanks. -/
def trim (s : List Char) : List Char := trimEnd (trimStart s)

/-- `trim` on strings. -/
def trimmed (s : String) : String := String.ofList (trim s.toList)

/-- Only blanks are lost at the front. -/
theorem exists_trimStart (s : List Char) :
    ∃ b, s = b ++ trimStart s ∧ ∀ c ∈ b, isBlank c = true := by
  refine ⟨s.takeWhile isBlank, (List.takeWhile_append_dropWhile).symm, fun c hc => ?_⟩
  exact List.all_eq_true.1 (List.all_takeWhile) c hc

/-- What is left at the front does not start with a blank. -/
theorem head_trimStart {s : List Char} {c : Char} {r : List Char} (h : trimStart s = c :: r) :
    isBlank c = false := by
  have := List.head?_dropWhile_not isBlank s
  rw [show s.dropWhile isBlank = c :: r from h] at this
  simpa using this

end FaultInjection.Text
