import FaultInjection.Text.Blank

/-!
# Pieces of a text

Lists written as one text: cutting at a separator, cutting once, and joining again. The pieces of a
comma-separated list are trimmed, and the blank ones are dropped.
-/

namespace FaultInjection.Text

/-! ## Cutting and joining -/

/-- The parts of a text between the occurrences of a separator; there is always at least one. -/
def splitAt (sep : Char) : List Char → List (List Char)
  | [] => [[]]
  | c :: r =>
    if c = sep then [] :: splitAt sep r
    else
      match splitAt sep r with
      | [] => [[c]]
      | p :: ps => (c :: p) :: ps

/-- The parts put together with the separator between them. -/
def joinWith (sep : Char) : List (List Char) → List Char
  | [] => []
  | [p] => p
  | p :: ps => p ++ sep :: joinWith sep ps

/-- The text before the first occurrence of the separator and the text after it. -/
def cutAt (sep : Char) : List Char → Option (List Char × List Char)
  | [] => none
  | c :: r => if c = sep then some ([], r) else (cutAt sep r).map fun p => (c :: p.1, p.2)

theorem splitAt_ne_nil (sep : Char) (s : List Char) : splitAt sep s ≠ [] := by
  cases s with
  | nil => simp [splitAt]
  | cons c r =>
    unfold splitAt
    split
    · simp
    · split <;> simp

/-- Joining undoes splitting. -/
theorem joinWith_splitAt (sep : Char) (s : List Char) : joinWith sep (splitAt sep s) = s := by
  induction s with
  | nil => rfl
  | cons c r ih =>
    unfold splitAt
    split
    · next h =>
      subst h
      cases hr : splitAt c r with
      | nil => exact absurd hr (splitAt_ne_nil c r)
      | cons p ps => rw [hr] at ih; simp [joinWith, ih]
    · cases hr : splitAt sep r with
      | nil => exact absurd hr (splitAt_ne_nil sep r)
      | cons p ps =>
        rw [hr] at ih
        cases ps with
        | nil => simpa [joinWith] using ih
        | cons q qs => simpa [joinWith] using ih

/-- No part holds the separator. -/
theorem not_mem_of_mem_splitAt {sep : Char} {s p : List Char} (h : p ∈ splitAt sep s) :
    sep ∉ p := by
  induction s generalizing p with
  | nil => simp [splitAt] at h; simp [h]
  | cons c r ih =>
    unfold splitAt at h
    split at h
    · rcases List.mem_cons.1 h with rfl | h
      · simp
      · exact ih h
    · next hc =>
      cases hr : splitAt sep r with
      | nil => exact absurd hr (splitAt_ne_nil sep r)
      | cons q qs =>
        rw [hr] at h
        rcases List.mem_cons.1 h with rfl | h
        · have : sep ∉ q := ih (by rw [hr]; exact List.mem_cons_self)
          simp [this, Ne.symm hc]
        · exact ih (by rw [hr]; exact List.mem_cons_of_mem _ h)

/-- Cutting once loses the separator alone, and the first part does not hold it. -/
theorem cutAt_eq_some_iff {sep : Char} {s a b : List Char} :
    cutAt sep s = some (a, b) ↔ s = a ++ sep :: b ∧ sep ∉ a := by
  induction s generalizing a with
  | nil => simp [cutAt]
  | cons c r ih =>
    unfold cutAt
    split
    · next h =>
      subst h
      cases a with
      | nil => simp [eq_comm]
      | cons d a =>
        simp only [Option.some.injEq, Prod.mk.injEq, List.nil_eq, reduceCtorEq, false_and,
          List.cons_append, List.cons.injEq, List.mem_cons, not_or, false_iff]
        rintro ⟨⟨h, _⟩, h', _⟩
        exact h' h
    · next h =>
      cases a with
      | nil => simp [h]
      | cons d a =>
        simp only [Option.map_eq_some_iff, Prod.mk.injEq, List.cons.injEq, Prod.exists,
          List.cons_append, List.mem_cons, not_or]
        constructor
        · rintro ⟨x, y, hxy, ⟨rfl, rfl⟩, rfl⟩
          obtain ⟨h1, h2⟩ := ih.1 hxy
          exact ⟨⟨rfl, h1⟩, Ne.symm h, h2⟩
        · rintro ⟨⟨rfl, h1⟩, _, h2⟩
          exact ⟨a, b, ih.2 ⟨h1, h2⟩, ⟨rfl, rfl⟩, rfl⟩

/-- There is nothing to cut at exactly when the separator does not occur. -/
theorem cutAt_eq_none_iff {sep : Char} {s : List Char} : cutAt sep s = none ↔ sep ∉ s := by
  induction s with
  | nil => simp [cutAt]
  | cons c r ih =>
    unfold cutAt
    split
    · next h => simp [h]
    · next h => simp [ih, Ne.symm h]

/-! ## Lists written with commas -/

/-- The trimmed parts between commas, without the blank ones. -/
def pieces (s : List Char) : List (List Char) :=
  ((splitAt ',' s).map trim).filter (· ≠ [])

/-- The pieces of a string. -/
def listed (s : String) : List String := (pieces s.toList).map String.ofList

/-- The texts joined by commas. -/
def withCommas (parts : List String) : String :=
  String.ofList (joinWith ',' (parts.map String.toList))

end FaultInjection.Text
