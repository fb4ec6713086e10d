import FaultInjection.Proofs.Concurrency.Recording
import FaultInjection.Proofs.Fleet.Rounds
import FaultInjection.Rehearsal

/-!
# Calls

What a round asks of the cluster.  Every access becomes one that notes its calls
(`PodAccess.recorded`), and a round with it goes as with the access itself (`inject_recorded`,
`exec_recorded`).  The calls of a round are one for each pod whose operation starts, in that order.
-/

namespace FaultInjection

open Concurrency

variable {ω : Type}

/-- Access that notes what is asked of it. -/
def PodAccess.recorded (access : PodAccess ω) : PodAccess (ω × List Call) where
  scope := access.scope
  list := fun filter world =>
    ((access.list filter world.1).1, (access.list filter world.1).2, world.2 ++ [.list])
  inject := fun pod container wait => (access.inject pod container wait).recorded (.inject pod wait)
  exec := fun pod container command =>
    (access.exec pod container command).recorded (.exec pod container command)

/-- A round with the calls that are noted after it. -/
def Round.recorded (calls : List Call) (round : Round ω) : Round (ω × List Call) :=
  { fleet := round.fleet, world := (round.world, calls), ending := round.ending
    result := round.result }

/-- The call that runs a command of the agent in a pod. -/
def Command.call (command : Command) (pod : String) : Call :=
  .exec pod Agent.containerName command.args

/-- The call that brings the agent into a pod. -/
def Fleet.injectCall (fleet : Fleet) (pod : String) : Call := .inject pod fleet.timeout.bound?

namespace Fleet

variable {fleet : Fleet} {access : PodAccess ω} {command : Command} {cancelAt : Option ℕ}
  {start : ℕ} {world : ω}

/-! ## Injection -/

/-- The calls of a round of injection. -/
def injectCalls (fleet : Fleet) (access : PodAccess ω) (cancelAt : Option ℕ) (start : ℕ)
    (world : ω) : List Call :=
  (fleet.inject access.recorded cancelAt start (world, [])).world.2

theorem injection_recorded (fleet : Fleet) (access : PodAccess ω) (cancelAt : Option ℕ) (start : ℕ)
    (world : ω) (past : List Call) :
    fleet.injection access.recorded cancelAt start (world, past) =
      (fleet.injection access cancelAt start world).recorded fleet.injectCall past :=
  fanOut_recorded _ fleet.injectCall fleet.pending cancelAt start world past

/-- **Notes of a round of injection.** -/
theorem inject_recorded (fleet : Fleet) (access : PodAccess ω) (cancelAt : Option ℕ) (start : ℕ)
    (world : ω) (past : List Call) :
    fleet.inject access.recorded cancelAt start (world, past) =
      (fleet.inject access cancelAt start world).recorded
        (past ++ (starts (fleet.injection access cancelAt start world).log).map
          fleet.injectCall) := by
  have hrecorded := injection_recorded fleet access cancelAt start world past
  have hending : (fleet.injection access.recorded cancelAt start (world, past)).ending =
      (fleet.injection access cancelAt start world).ending := by
    rw [hrecorded]
    rfl
  cases h : (fleet.injection access cancelAt start world).ending with
  | completed T =>
      rw [inject_of_completed h, inject_of_completed (hending.trans h), hrecorded]
      rfl
  | cancelled T =>
      rw [inject_of_cancelled h, inject_of_cancelled (hending.trans h), hrecorded]
      rfl
  | never =>
      rw [inject_of_never h, inject_of_never (hending.trans h), hrecorded]
      rfl

/-- A round of injection calls the pods whose operations start. -/
theorem injectCalls_eq : fleet.injectCalls access cancelAt start world =
    (starts (fleet.injection access cancelAt start world).log).map fleet.injectCall := by
  rw [injectCalls, inject_recorded]
  rfl

/-! ## Execution -/

/-- The calls of a round of execution. -/
def execCalls (fleet : Fleet) (access : PodAccess ω) (command : Command) (cancelAt : Option ℕ)
    (start : ℕ) (world : ω) : List Call :=
  (fleet.exec access.recorded command cancelAt start (world, [])).world.2

theorem execution_recorded (fleet : Fleet) (access : PodAccess ω) (command : Command)
    (cancelAt : Option ℕ) (start : ℕ) (world : ω) (past : List Call) :
    fleet.execution access.recorded command cancelAt start (world, past) =
      (fleet.execution access command cancelAt start world).recorded command.call past :=
  fanOut_recorded _ command.call fleet.injected cancelAt start world past

/-- **Notes of a round of execution.** -/
theorem exec_recorded {fleet : Fleet} (hne : fleet.injected ≠ []) (access : PodAccess ω)
    (command : Command) (cancelAt : Option ℕ) (start : ℕ) (world : ω) (past : List Call) :
    fleet.exec access.recorded command cancelAt start (world, past) =
      (fleet.exec access command cancelAt start world).recorded
        (past ++ (starts (fleet.execution access command cancelAt start world).log).map
          command.call) := by
  have hrecorded := execution_recorded fleet access command cancelAt start world past
  have hending : (fleet.execution access.recorded command cancelAt start (world, past)).ending =
      (fleet.execution access command cancelAt start world).ending := by
    rw [hrecorded]
    rfl
  cases h : (fleet.execution access command cancelAt start world).ending with
  | completed T =>
      rw [exec_of_completed hne h, exec_of_completed hne (hending.trans h), hrecorded]
      rfl
  | cancelled T =>
      rw [exec_of_cancelled hne h, exec_of_cancelled hne (hending.trans h), hrecorded]
      rfl
  | never =>
      rw [exec_of_never hne h, exec_of_never hne (hending.trans h), hrecorded]
      rfl

/-- A round of execution calls the pods whose operations start. -/
theorem execCalls_eq (hne : fleet.injected ≠ []) :
    fleet.execCalls access command cancelAt start world =
      (starts (fleet.execution access command cancelAt start world).log).map command.call := by
  rw [execCalls, exec_recorded hne]
  rfl

/-- Without an injected pod nothing is called. -/
theorem execCalls_of_nil (h : fleet.injected = []) :
    fleet.execCalls access command cancelAt start world = [] := by
  rw [execCalls, exec_of_nil h]

end Fleet

end FaultInjection
