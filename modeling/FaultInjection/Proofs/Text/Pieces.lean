import FaultInjection.Text.Pieces
import Mathlib.Data.List.Basic

/-!
# Splitting undoes joining

A list of texts that do not hold the separator comes back whole when it was joined and is split
again (`splitAt_joinWith`).  For strings the separator is the comma (`betweenCommas_withCommas`).
-/

namespace FaultInjection.Text

/-- A text without the separator is a single part. -/
theorem splitAt_of_not_mem {sep : Char} {p : List Char} (h : sep ∉ p) : splitAt sep p = [p] := by
  induction p with
  | nil => rfl
  | cons c r ih =>
      rw [List.mem_cons, not_or] at h
      rw [splitAt, if_neg (Ne.symm h.1), ih h.2]

/-- What stands before the first separator is the first part. -/
theorem splitAt_append {sep : Char} {p rest : List Char} (h : sep ∉ p) :
    splitAt sep (p ++ sep :: rest) = p :: splitAt sep rest := by
  induction p with
  | nil => rw [List.nil_append, splitAt, if_pos rfl]
  | cons c r ih =>
      rw [List.mem_cons, not_or] at h
      rw [List.cons_append, splitAt, if_neg (Ne.symm h.1), ih h.2]

/-- A separator between two texts keeps their parts apart. -/
theorem splitAt_append_sep (sep : Char) (s t : List Char) :
    splitAt sep (s ++ sep :: t) = splitAt sep s ++ splitAt sep t := by
  induction s with
  | nil => simp [splitAt]
  | cons c r ih =>
      rw [List.cons_append, splitAt, splitAt, ih]
      split
      · rw [List.cons_append]
      · obtain ⟨p, ps, hr⟩ := List.exists_cons_of_ne_nil (splitAt_ne_nil sep r)
        rw [hr]
        rfl

/-- **Splitting undoes joining**, for parts that do not hold the separator. -/
theorem splitAt_joinWith {sep : Char} {ps : List (List Char)} (hne : ps ≠ [])
    (h : ∀ p ∈ ps, sep ∉ p) : splitAt sep (joinWith sep ps) = ps := by
  induction ps with
  | nil => exact absurd rfl hne
  | cons p ps ih =>
      have hp : sep ∉ p := h p List.mem_cons_self
      cases ps with
      | nil => exact splitAt_of_not_mem hp
      | cons q qs =>
          have hrest : ∀ r ∈ q :: qs, sep ∉ r := fun r hr => h r (List.mem_cons_of_mem _ hr)
          have hjoin : joinWith sep (p :: q :: qs) = p ++ sep :: joinWith sep (q :: qs) := rfl
          rw [hjoin, splitAt_append hp, ih (List.cons_ne_nil _ _) hrest]

/-- So it does for strings with commas between them. -/
theorem splitAt_withCommas {parts : List String} (hne : parts ≠ [])
    (h : ∀ p ∈ parts, ',' ∉ p.toList) :
    splitAt ',' (withCommas parts).toList = parts.map String.toList := by
  rw [withCommas, String.toList_ofList]
  apply splitAt_joinWith
  · rwa [Ne, List.map_eq_nil_iff]
  · intro p hp
    obtain ⟨part, hpart, rfl⟩ := List.mem_map.mp hp
    exact h part hpart

/-- The texts between the commas of a string. -/
def betweenCommas (s : String) : List String := (splitAt ',' s.toList).map String.ofList

/-- A list that was written with commas is read back, unless a text in it holds a comma. -/
theorem betweenCommas_withCommas {parts : List String} (hne : parts ≠ [])
    (h : ∀ p ∈ parts, ',' ∉ p.toList) : betweenCommas (withCommas parts) = parts := by
  have hsame : String.ofList ∘ String.toList = id := by
    funext s
    exact String.ofList_toList
  rw [betweenCommas, splitAt_withCommas hne h, List.map_map, hsame, List.map_id]

end FaultInjection.Text
