import Mathlib.Data.List.Basic

/-!
# The first that fails

Where several things are asked, in an order, the first that does not hold decides what is said.
`FirstFailing` is that first one, and a search finds it.
-/

namespace FaultInjection

variable {α β : Type} {holds : α → Prop} {xs : List α}

/-- The first member of a list that a property does not hold of. -/
def FirstFailing (holds : α → Prop) (xs : List α) (x : α) : Prop :=
  ∃ before after, xs = before ++ x :: after ∧ (∀ y ∈ before, holds y) ∧ ¬ holds x

theorem not_firstFailing_nil {x : α} : ¬ FirstFailing holds [] x := by
  rintro ⟨before, after, hnil, -, -⟩
  simp at hnil

/-- The first that fails is the first of a list, or it comes later and the first does not fail. -/
theorem firstFailing_cons_iff {x y : α} : FirstFailing holds (x :: xs) y ↔
    (¬ holds x ∧ x = y) ∨ (holds x ∧ FirstFailing holds xs y) := by
  constructor
  · rintro ⟨before, after, hsplit, hbefore, hy⟩
    cases before with
    | nil =>
        cases hsplit
        exact Or.inl ⟨hy, rfl⟩
    | cons z before =>
        cases hsplit
        exact Or.inr ⟨hbefore x List.mem_cons_self, before, after, rfl,
          fun z hz => hbefore z (List.mem_cons_of_mem _ hz), hy⟩
  · rintro (⟨hx, rfl⟩ | ⟨hx, before, after, rfl, hbefore, hy⟩)
    · exact ⟨[], xs, rfl, fun z hz => absurd hz List.not_mem_nil, hx⟩
    · exact ⟨x :: before, after, rfl, List.forall_mem_cons.mpr ⟨hx, hbefore⟩, hy⟩

/-- A search for what fails finds the first that does. -/
theorem find?_eq_some_iff_firstFailing {fails : α → Bool} (h : ∀ x, fails x = false ↔ holds x)
    {x : α} : xs.find? fails = some x ↔ FirstFailing holds xs x := by
  have hfails : ∀ x, fails x = true ↔ ¬ holds x := fun x => by
    rw [← h, Bool.not_eq_false]
  rw [List.find?_eq_some_iff_append]
  constructor
  · rintro ⟨hx, before, after, rfl, hbefore⟩
    refine ⟨before, after, rfl, fun y hy => ?_, (hfails x).mp hx⟩
    exact (h y).mp (by simpa using hbefore y hy)
  · rintro ⟨before, after, rfl, hbefore, hx⟩
    refine ⟨(hfails x).mpr hx, before, after, rfl, fun y hy => ?_⟩
    rw [(h y).mpr (hbefore y hy)]
    rfl

/-- So does a search for what is to be said of it. -/
theorem findSome?_eq_some_iff_firstFailing {said? : α → Option β}
    (h : ∀ x, said? x = none ↔ holds x) {b : β} :
    xs.findSome? said? = some b ↔ ∃ x, FirstFailing holds xs x ∧ said? x = some b := by
  rw [List.findSome?_eq_some_iff]
  constructor
  · rintro ⟨before, x, after, rfl, hx, hbefore⟩
    refine ⟨x, ⟨before, after, rfl, fun y hy => (h y).mp (hbefore y hy), ?_⟩, hx⟩
    rw [← h, hx]
    exact Option.some_ne_none b
  · rintro ⟨x, ⟨before, after, rfl, hbefore, -⟩, hx⟩
    exact ⟨before, x, after, rfl, hx, fun y hy => (h y).mpr (hbefore y hy)⟩

end FaultInjection
