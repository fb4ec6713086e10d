import FaultInjection.Fleet
import Mathlib.Data.List.Nodup

/-!
# Settlement

How the results of a round are matched with pods by name.  Of several results for a name the last
one counts (`resultOf?`).  Where no two pods share a name every pod is settled by itself: `settle`
is a `map` (`settle_eq_map`) and `failuresOf` a `filterMap` (`failuresOf_eq_filterMap`), each in the
order of the pods and not in that of the results.
-/

namespace FaultInjection

variable {α : Type}

/-! ## Results by name -/

/-- The result that counts for a name is one of the results for it. -/
theorem mem_of_resultOf? {results : List (String × α)} {name : String} {result : α}
    (h : resultOf? results name = some result) : (name, result) ∈ results := by
  unfold resultOf? at h
  obtain ⟨⟨name', result'⟩, hfind, rfl⟩ := Option.map_eq_some_iff.mp h
  have hmem := List.mem_of_find?_eq_some hfind
  have hname := List.find?_some hfind
  simp only [decide_eq_true_eq] at hname
  rw [← hname]
  exact List.mem_reverse.mp hmem

/-- A name without results has none that counts. -/
theorem resultOf?_eq_none_iff {results : List (String × α)} {name : String} :
    resultOf? results name = none ↔ ∀ p ∈ results, p.1 ≠ name := by
  simp [resultOf?]

/-- Where all results for a name agree, that result counts. -/
theorem resultOf?_eq_some_of_forall {results : List (String × α)} {name : String} {result : α}
    (hmem : (name, result) ∈ results) (hall : ∀ p ∈ results, p.1 = name → p.2 = result) :
    resultOf? results name = some result := by
  cases hcounts : resultOf? results name with
  | none => exact absurd rfl (resultOf?_eq_none_iff.mp hcounts _ hmem)
  | some result' => rw [← hall _ (mem_of_resultOf? hcounts) rfl]

/-- All results for one name are the same. -/
def Consistent (results : List (String × α)) : Prop :=
  ∀ p ∈ results, ∀ q ∈ results, p.1 = q.1 → p.2 = q.2

theorem consistent_of_nodup {results : List (String × α)} (h : (results.map (·.1)).Nodup) :
    Consistent results := by
  intro p hp q hq hname
  rw [List.inj_on_of_nodup_map h hp hq hname]

/-- Of consistent results every one counts. -/
theorem Consistent.resultOf?_eq_some {results : List (String × α)} (h : Consistent results)
    {p : String × α} (hp : p ∈ results) : resultOf? results p.1 = some p.2 :=
  resultOf?_eq_some_of_forall hp fun q hq hname => h q hq p hp hname

/-- Dropping the results for one name leaves those for another. -/
theorem resultOf?_dropResults_of_ne {results : List (String × α)} {name name' : String}
    (h : name' ≠ name) : resultOf? (dropResults results name) name' = resultOf? results name' := by
  unfold resultOf? dropResults
  rw [← List.filter_reverse, List.find?_filter]
  congr 2
  funext p
  by_cases hp : p.1 = name' <;> simp [hp, h]

@[simp] theorem resultOf?_dropResults_self (results : List (String × α)) (name : String) :
    resultOf? (dropResults results name) name = none := by
  rw [resultOf?_eq_none_iff]
  intro p hp
  simpa [dropResults] using (List.mem_filter.mp hp).2

/-! ## Targets -/

/-- A target with what a round has made of it. -/
def Target.settled (results : List (String × Except Failure Unit)) (t : Target) : Target :=
  match resultOf? results t.name with
  | some result => { t with state := stateAfter result }
  | none => t

@[simp] theorem Target.settled_name (results : List (String × Except Failure Unit)) (t : Target) :
    (t.settled results).name = t.name := by
  unfold settled
  split <;> rfl

theorem settle_cons (results : List (String × Except Failure Unit)) (t : Target)
    (ts : List Target) :
    settle results (t :: ts) = t.settled results :: settle (dropResults results t.name) ts := rfl

/-- The pods keep their names and their order. -/
theorem map_name_settle (results : List (String × Except Failure Unit)) (ts : List Target) :
    (settle results ts).map (·.name) = ts.map (·.name) := by
  induction ts generalizing results with
  | nil => rfl
  | cons t ts ih => rw [settle_cons, List.map_cons, List.map_cons, ih, Target.settled_name]

/-- **Each pod by itself.**  Of different names every target is settled by its own result. -/
theorem settle_eq_map {results : List (String × Except Failure Unit)} {ts : List Target}
    (h : (ts.map (·.name)).Nodup) : settle results ts = ts.map (·.settled results) := by
  induction ts generalizing results with
  | nil => rfl
  | cons t ts ih =>
      rw [List.map_cons, List.nodup_cons] at h
      rw [settle_cons, ih h.2, List.map_cons]
      congr 1
      apply List.map_congr_left
      intro u hu
      have hne : u.name ≠ t.name := fun heq => h.1 (heq ▸ List.mem_map_of_mem hu)
      rw [Target.settled, Target.settled, resultOf?_dropResults_of_ne hne]

/-! ## Failures -/

/-- The failure of a pod in a round, if it failed. -/
def failureIn (results : List (String × Except Failure α)) (pod : String) : Option PodFailure :=
  match resultOf? results pod with
  | some (.error e) => some ⟨pod, e.message⟩
  | _ => none

theorem failuresOf_cons (results : List (String × Except Failure α)) (pod : String)
    (pods : List String) : failuresOf results (pod :: pods) =
      (failureIn results pod).toList ++ failuresOf (dropResults results pod) pods := by
  rw [failuresOf, failureIn]
  split <;> simp_all

/-- **Each failure by itself.**  Of different names the failures are those of the single pods, in
the order of the pods. -/
theorem failuresOf_eq_filterMap {results : List (String × Except Failure α)} {pods : List String}
    (h : pods.Nodup) : failuresOf results pods = pods.filterMap (failureIn results) := by
  induction pods generalizing results with
  | nil => rfl
  | cons pod pods ih =>
      rw [List.nodup_cons] at h
      have hrest : pods.filterMap (failureIn (dropResults results pod))
          = pods.filterMap (failureIn results) := by
        apply List.filterMap_congr
        intro pod' hpod'
        have hne : pod' ≠ pod := fun heq => h.1 (heq ▸ hpod')
        rw [failureIn, failureIn, resultOf?_dropResults_of_ne hne]
      rw [failuresOf_cons, ih h.2, hrest, List.filterMap_cons]
      cases failureIn results pod <;> rfl

/-- A round is without failures when none of its pods has failed, also if names repeat. -/
theorem failuresOf_eq_nil_iff {results : List (String × Except Failure α)} {pods : List String} :
    failuresOf results pods = [] ↔ ∀ pod ∈ pods, failureIn results pod = none := by
  induction pods generalizing results with
  | nil => simp [failuresOf]
  | cons pod pods ih =>
      rw [failuresOf_cons, List.append_eq_nil_iff, ih, List.forall_mem_cons]
      have hhead : (failureIn results pod).toList = [] ↔ failureIn results pod = none := by
        cases failureIn results pod <;> simp
      rw [hhead]
      refine and_congr_right fun hpod => ?_
      constructor
      · -- The results of the first pod are dropped for the others, unless its name comes again.
        intro h pod' hpod'
        by_cases heq : pod' = pod
        · rw [heq, hpod]
        · have := h pod' hpod'
          rwa [failureIn, resultOf?_dropResults_of_ne heq] at this
      · intro h pod' hpod'
        by_cases heq : pod' = pod
        · rw [heq, failureIn, resultOf?_dropResults_self]
        · rw [failureIn, resultOf?_dropResults_of_ne heq]
          exact h pod' hpod'

/-- A round with consistent results is without failures when all of them are successes. -/
theorem Consistent.failuresOf_eq_nil_iff {results : List (String × Except Failure α)}
    {pods : List String} (h : Consistent results) (hpods : (results.map (·.1)).Perm pods) :
    failuresOf results pods = [] ↔ ∀ p ∈ results, ∃ a, p.2 = .ok a := by
  rw [FaultInjection.failuresOf_eq_nil_iff]
  constructor
  · intro hnone p hp
    have hpod := hnone p.1 (hpods.mem_iff.mp (List.mem_map_of_mem hp))
    rw [failureIn, h.resultOf?_eq_some hp] at hpod
    cases hresult : p.2 with
    | ok a => exact ⟨a, rfl⟩
    | error e =>
        rw [hresult] at hpod
        cases hpod
  · intro hall pod hpod
    obtain ⟨p, hp, rfl⟩ := List.mem_map.mp (hpods.mem_iff.mpr hpod)
    obtain ⟨a, ha⟩ := hall p hp
    rw [failureIn, h.resultOf?_eq_some hp, ha]

end FaultInjection
