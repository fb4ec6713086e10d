import FaultInjection.Fault
import Mathlib.Data.List.Basic

/-!
# Faults without defects

A fault is looked at condition by condition, and its defect is that of the first condition that has
one (`Fault.defect?_eq_findSome?`).  It has no defect when every condition on it holds
(`Fault.Valid`), whatever the order.
-/

namespace FaultInjection

namespace Fault

/-! ## Conditions in order -/

/-- What is asked of a fault. -/
inductive Condition where
  | lasting
  | rate
  | delays
  | entries
  | code
deriving DecidableEq, Repr

namespace Condition

/-- The conditions in the order in which they are looked at. -/
def order : List Condition := [.lasting, .rate, .delays, .entries, .code]

theorem mem_order (condition : Condition) : condition ∈ order := by cases condition <;> decide

/-- The defect of a fault, as far as one condition goes. -/
def defect? (f : Fault Duration) (duration : Duration) : Condition → Option Defect
  | .lasting => if duration = .zero then some .noDuration else none
  | .rate => if f.errorRate.inUnitInterval then none else some (.errorRate f.errorRate)
  | .delays =>
    if f.averageDelay < f.delayVariation then some (.variation f.delayVariation f.averageDelay)
    else none
  | .entries => (f.exclude.find? isBadEntry).map .excludeEntry
  | .code => if f.lacksCode then some .noErrorCode else none

end Condition

/-- The defect of a fault is that of the first condition that has one. -/
theorem defect?_eq_findSome? (f : Fault Duration) (duration : Duration) :
    f.defect? duration = Condition.order.findSome? (·.defect? f duration) := by
  simp only [Condition.order, List.findSome?_cons, List.findSome?_nil, Condition.defect?, defect?]
  by_cases hlasting : duration = .zero
  · rw [if_pos hlasting, if_pos hlasting]
  · rw [if_neg hlasting, if_neg hlasting]
    cases hrate : f.errorRate.inUnitInterval with
    | false => rfl
    | true =>
        by_cases hdelays : f.averageDelay < f.delayVariation
        · simp [hdelays]
        · cases hentries : f.exclude.find? isBadEntry <;> cases hcode : f.lacksCode <;>
            simp [hdelays]

/-- There is no defect in a fault exactly if no condition has one. -/
theorem defect?_eq_none_iff_forall {f : Fault Duration} {duration : Duration} :
    f.defect? duration = none ↔ ∀ condition : Condition, condition.defect? f duration = none := by
  rw [defect?_eq_findSome?, List.findSome?_eq_none_iff]
  constructor
  · intro h condition
    exact h condition condition.mem_order
  · intro h condition _
    exact h condition

/-! ## Valid faults -/

theorem isBadEntry_eq_false_iff {entry : String} :
    isBadEntry entry = false ↔ entry ≠ "" ∧ ',' ∉ entry.toList := by
  simp [isBadEntry]

/-- What holds of a fault that can be applied for a duration. -/
structure Valid (f : Fault Duration) (duration : Duration) : Prop where
  /-- It lasts for some time. -/
  lasting : duration ≠ .zero
  /-- The error rate is a share. -/
  rate : f.errorRate.inUnitInterval = true
  /-- No delay is negative. -/
  delays : f.delayVariation ≤ f.averageDelay
  /-- The entries can be told apart in a list with commas. -/
  entries : ∀ entry ∈ f.exclude, entry ≠ "" ∧ ',' ∉ entry.toList
  /-- An error has a code. -/
  code : f.lacksCode = false

/-- There is no defect in a fault exactly if it is valid. -/
theorem defect?_eq_none_iff {f : Fault Duration} {duration : Duration} :
    f.defect? duration = none ↔ f.Valid duration := by
  have hdelays : ¬ f.averageDelay < f.delayVariation ↔ f.delayVariation ≤ f.averageDelay :=
    Nat.not_lt
  have hentries : f.exclude.find? isBadEntry = none ↔
      ∀ entry ∈ f.exclude, entry ≠ "" ∧ ',' ∉ entry.toList := by
    rw [List.find?_eq_none]
    refine forall₂_congr fun entry _ => ?_
    rw [Bool.not_eq_true, isBadEntry_eq_false_iff]
  rw [defect?_eq_none_iff_forall]
  constructor
  · intro h
    constructor
    · simpa [Condition.defect?] using h .lasting
    · simpa [Condition.defect?] using h .rate
    · simpa [Condition.defect?, hdelays] using h .delays
    · exact hentries.mp (Option.map_eq_none_iff.mp (h .entries))
    · simpa [Condition.defect?] using h .code
  · intro h condition
    cases condition with
    | lasting => exact if_neg h.lasting
    | rate => exact if_pos h.rate
    | delays => exact if_neg (hdelays.mpr h.delays)
    | entries => exact Option.map_eq_none_iff.mpr (hentries.mpr h.entries)
    | code => simp [Condition.defect?, h.code]

/-- Without a mean delay there is no variation. -/
theorem Valid.delayVariation_eq_zero {f : Fault Duration} {duration : Duration}
    (h : f.Valid duration) (hzero : f.averageDelay = .zero) : f.delayVariation = .zero := by
  have hle : f.delayVariation.nanos ≤ f.averageDelay.nanos := h.delays
  rw [hzero] at hle
  have hnanos : f.delayVariation.nanos = 0 := Nat.le_zero.mp hle
  calc f.delayVariation = ⟨f.delayVariation.nanos⟩ := rfl
    _ = .zero := congrArg Duration.mk hnanos

end Fault

end FaultInjection
