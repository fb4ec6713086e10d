import FaultInjection.Fault.Spec
import FaultInjection.Proofs.Fault.Defects
import FaultInjection.Proofs.Number.Values
import FaultInjection.Proofs.Search

/-!
# Verdicts on faults

A fault has to meet five conditions (`Condition.Holds`), which are looked at in a fixed order.  The
first one that does not hold decides what is said of the fault, and for the list of what is left
alone it is the first improper entry that is named (`command_decided`).  The conditions are stated
with the numbers that delays, rates and codes stand for.
-/

namespace FaultInjection

open Number

namespace Fault

/-! ## Conditions -/

/-- An entry that can be told apart in a list with commas. -/
def ProperEntry (entry : String) : Prop := entry ≠ "" ∧ ',' ∉ entry.toList

namespace Condition

/-- **A condition holds** of a fault that is to last for a duration. -/
def Holds (f : Fault Duration) (duration : Duration) : Condition → Prop
  | .lasting => 0 < duration.nanos
  | .rate => ∃ r, f.errorRate.value? = some r ∧ 0 ≤ r ∧ r ≤ 1
  | .delays => f.delayVariation.nanos ≤ f.averageDelay.nanos
  | .entries => ∀ entry ∈ f.exclude, ProperEntry entry
  | .code => ∀ code body, f.answer = .http code body → f.errorRate.Positive → code ≠ 0

/-- A defect is the one that a condition has when it does not hold. -/
def Blames (f : Fault Duration) : Condition → Defect → Prop
  | .lasting, defect => defect = .noDuration
  | .rate, defect => defect = .errorRate f.errorRate
  | .delays, defect => defect = .variation f.delayVariation f.averageDelay
  | .entries, defect =>
    ∃ entry, FirstFailing ProperEntry f.exclude entry ∧ defect = .excludeEntry entry
  | .code, defect => defect = .noErrorCode

/-! ## One condition at a time -/

variable {f : Fault Duration} {duration : Duration}

theorem lacksCode_eq_false_iff (f : Fault Duration) (duration : Duration) :
    f.lacksCode = false ↔ Holds f duration .code := by
  rw [Holds, ← Binary64.isPositive_iff, lacksCode]
  cases f.answer <;> simp

/-- A condition has no defect exactly if it holds. -/
theorem defect?_eq_none_iff (condition : Condition) :
    condition.defect? f duration = none ↔ condition.Holds f duration := by
  cases condition with
  | lasting =>
      have hzero : duration = .zero ↔ duration.nanos = 0 :=
        ⟨fun h => by rw [h]; rfl, fun h => congrArg Duration.mk h⟩
      simp [defect?, Holds, hzero, Nat.pos_iff_ne_zero]
  | rate =>
      rw [Holds, ← Binary64.inUnitInterval_iff, defect?]
      simp
  | delays =>
      have hlt : f.averageDelay < f.delayVariation ↔
          f.averageDelay.nanos < f.delayVariation.nanos := Iff.rfl
      simp [defect?, Holds, hlt]
  | entries =>
      simp only [defect?, Holds, Option.map_eq_none_iff, List.find?_eq_none, Bool.not_eq_true,
        isBadEntry_eq_false_iff, ProperEntry]
  | code =>
      rw [← lacksCode_eq_false_iff f duration, defect?]
      simp

/-- A condition that does not hold has the defect that it is to be blamed for. -/
theorem defect?_eq_some_iff (condition : Condition) (defect : Defect) :
    condition.defect? f duration = some defect ↔
      ¬ condition.Holds f duration ∧ condition.Blames f defect := by
  rw [← defect?_eq_none_iff]
  cases condition with
  | entries =>
      have hfind : ∀ entry, f.exclude.find? isBadEntry = some entry ↔
          FirstFailing ProperEntry f.exclude entry := fun entry =>
        find?_eq_some_iff_firstFailing fun _ => isBadEntry_eq_false_iff
      simp only [defect?, Blames, ← hfind]
      cases f.exclude.find? isBadEntry <;> simp [eq_comm]
  | lasting | rate | delays | code =>
      simp only [defect?, Blames]
      split <;> simp [eq_comm]

end Condition

/-! ## All conditions together -/

/-- There is no command exactly for a fault with a defect. -/
theorem command_eq_error_iff {f : Fault Duration} {duration : Duration} {defect : Defect} :
    f.command duration = .error defect ↔ f.defect? duration = some defect := by
  unfold command
  cases f.defect? duration <;> simp

end Fault

open Fault

/-- **The command of a fault** is made exactly if all conditions hold.  Otherwise the defect is that
of the first condition that does not. -/
theorem FaultSpec.command_decided (spec : FaultSpec) (duration : Duration) :
    ((∃ c, spec.command duration = .ok c) ↔
      ∀ condition : Condition, condition.Holds spec.toFault duration) ∧
    ∀ defect, spec.command duration = .error defect ↔
      ∃ condition, FirstFailing (Condition.Holds spec.toFault duration) Condition.order condition ∧
        condition.Blames spec.toFault defect := by
  rw [command_eq]
  constructor
  · have hnone : spec.toFault.defect? duration = none ↔
        ∀ condition : Condition, condition.Holds spec.toFault duration := by
      rw [defect?_eq_none_iff_forall]
      exact forall_congr' fun condition => condition.defect?_eq_none_iff
    rw [← hnone]
    constructor
    · rintro ⟨c, hc⟩
      exact (command_eq_ok_iff.mp hc).1
    · intro h
      exact ⟨_, command_eq_ok_iff.mpr ⟨h, rfl⟩⟩
  · intro defect
    rw [command_eq_error_iff, defect?_eq_findSome?,
      findSome?_eq_some_iff_firstFailing fun condition => condition.defect?_eq_none_iff]
    constructor
    · rintro ⟨condition, hfirst, hsaid⟩
      exact ⟨condition, hfirst, ((condition.defect?_eq_some_iff defect).mp hsaid).2⟩
    · rintro ⟨condition, hfirst, hblames⟩
      have hfails : ¬ condition.Holds spec.toFault duration := by
        obtain ⟨_, _, -, -, hfails⟩ := hfirst
        exact hfails
      exact ⟨condition, hfirst, (condition.defect?_eq_some_iff defect).mpr ⟨hfails, hblames⟩⟩

example : (FaultSpec.http ⟨.zero, .ofMillis 1, .nan, 0, "", ["", "a,b"], 0⟩ ⟨0, ""⟩).command
    (.ofSecs 1) = .error (.errorRate .nan) := by decide

end FaultInjection
