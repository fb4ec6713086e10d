import FaultInjection.Agent
import FaultInjection.Concurrency.FanOut
import FaultInjection.Fault.Command
import FaultInjection.PodAccess

/-!
# Fleets

A fleet is the list of pods that a fault is for, with how far each of them is. In a round the agent
is brought into every pending pod, or a command is run in every pod that has the agent. The results
of a round are matched with the pods by name: of pods with one name the first gets the result.
-/

namespace FaultInjection

open Concurrency

/-! ## Targets -/

/-- How far a pod is. -/
inductive TargetState where
  | pending
  | injected
  | failed (reason : String)
deriving DecidableEq, Repr

/-- A pod of a fleet. -/
structure Target where
  /-- Its name. -/
  name : String
  /-- How far it is. -/
  state : TargetState
deriving DecidableEq, Repr

/-- The pods that a fault is for. -/
structure Fleet where
  /-- The pods, in the order in which they were listed. -/
  targets : List Target
  /-- How long to wait for an agent. -/
  timeout : InjectTimeout
  /-- The image of the agent. -/
  image : String
deriving DecidableEq, Repr

/-- What a round leaves behind. -/
structure Round (ω : Type) where
  /-- The fleet afterwards. -/
  fleet : Fleet
  /-- The world afterwards. -/
  world : ω
  /-- How the round ended. -/
  ending : Ending
  /-- Its result, unless it never ends. -/
  result : Option (Except Failure Unit)

/-! ## Results by name -/

/-- The result that counts for a name: the last one that came. -/
def resultOf? {α : Type} (results : List (String × α)) (name : String) : Option α :=
  (results.reverse.find? (·.1 = name)).map (·.2)

/-- The results without those for a name. -/
def dropResults {α : Type} (results : List (String × α)) (name : String) : List (String × α) :=
  results.filter (·.1 ≠ name)

/-- How far a pod is after its agent was brought in, or why it was not. -/
def stateAfter : Except Failure Unit → TargetState
  | .ok () => .injected
  | .error e => .failed e.message

/-- The pods after a round of injection. -/
def settle : List (String × Except Failure Unit) → List Target → List Target
  | _, [] => []
  | results, t :: ts =>
    let t' := match resultOf? results t.name with
      | some result => { t with state := stateAfter result }
      | none => t
    t' :: settle (dropResults results t.name) ts

/-- The failures of a round, in the order of the pods. -/
def failuresOf {α : Type} :
    List (String × Except Failure α) → List String → List PodFailure
  | _, [] => []
  | results, pod :: pods =>
    let rest := failuresOf (dropResults results pod) pods
    match resultOf? results pod with
    | some (.error e) => ⟨pod, e.message⟩ :: rest
    | _ => rest

/-! ## Rounds -/

namespace Fleet

/-- The fleet of some pods, before anything has happened. -/
def ofNames (names : List String) (timeout : InjectTimeout) (image : String) : Fleet :=
  { targets := names.map fun name => ⟨name, .pending⟩, timeout, image }

/-- The names of the pods in a state. -/
def namesIn (fleet : Fleet) (state : TargetState) : List String :=
  (fleet.targets.filter (·.state = state)).map (·.name)

/-- The pods that have no agent yet. -/
def pending (fleet : Fleet) : List String := fleet.namesIn .pending

/-- The pods that have the agent. -/
def injected (fleet : Fleet) : List String := fleet.namesIn .injected

/-- The name of the round of injection. -/
def injectionStage : String := "agent injection"

/-- The name of a round of execution. -/
def executionStage : String := "fault execution"

/-- Brings the agent into every pending pod. -/
def inject {ω : Type} (fleet : Fleet) (access : PodAccess ω) (cancelAt : Option Nat) (start : Nat)
    (world : ω) : Round ω :=
  let container := Agent.container fleet.image
  let out := fanOut (access.inject · container fleet.timeout.bound?) fleet.pending cancelAt start
    world
  match out.ending with
  | .completed _ =>
    let results := results out.log
    let failures := failuresOf results (fleet.targets.map (·.name))
    { fleet := { fleet with targets := settle results fleet.targets }
      world := out.world
      ending := out.ending
      result := some (if failures = [] then .ok () else .error (.injection failures)) }
  | .cancelled _ =>
    { fleet, world := out.world, ending := out.ending
      result := some (.error (.cancelled injectionStage)) }
  | .never => { fleet, world := out.world, ending := out.ending, result := none }

/-- Runs a command in every pod that has the agent. -/
def exec {ω : Type} (fleet : Fleet) (access : PodAccess ω) (command : Command)
    (cancelAt : Option Nat) (start : Nat) (world : ω) : Round ω :=
  if fleet.injected = [] then
    { fleet, world, ending := .completed start, result := some (.error (.noTargets access.scope)) }
  else
    let out := fanOut (access.exec · Agent.containerName command.args) fleet.injected cancelAt start
      world
    match out.ending with
    | .completed _ =>
      let failures := failuresOf (results out.log) fleet.injected
      { fleet, world := out.world, ending := out.ending
        result := some (if failures = [] then .ok () else .error (.execution failures)) }
    | .cancelled _ =>
      { fleet, world := out.world, ending := out.ending
        result := some (.error (.cancelled executionStage)) }
    | .never => { fleet, world := out.world, ending := out.ending, result := none }

end Fleet

end FaultInjection
