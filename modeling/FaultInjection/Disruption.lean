import FaultInjection.Fault.Spec
import FaultInjection.Fleet

/-!
# Disruptions

A disruption is ready when the agent runs in every pod that its selector asks for; until then no
fault is applied to any of them. A fault with a defect is refused before anything is asked of the
cluster.
-/

namespace FaultInjection

open Concurrency

/-- Where a disruption stands after it was prepared. -/
structure Prepared (ω : Type) where
  /-- The world afterwards. -/
  world : ω
  /-- How the preparation ended. -/
  ending : Ending
  /-- The fleet with the agent in every pod, unless the preparation never ends. -/
  result : Option (Except Failure Fleet)

namespace Disruption

/-- A selector that is for another namespace than the one that can be reached. -/
def mismatch (wanted found : String) : Failure :=
  .selector ("selector namespace " ++ wanted ++ " does not match pod helper namespace " ++ found)

/-- Brings the agent into every pod that a selector asks for. -/
def prepare {ω : Type} (access : PodAccess ω) (selector : Selector) (timeout : InjectTimeout)
    (image : String) (cancelAt : Option Nat) (start : Nat) (world : ω) : Prepared ω :=
  let stop (e : Failure) (world : ω) : Prepared ω := ⟨world, .completed start, some (.error e)⟩
  match selector.validate with
  | .error e => stop e world
  | .ok () =>
    if access.scope ≠ selector.scopeOrDefault then
      stop (mismatch selector.scopeOrDefault access.scope) world
    else
      match selector.targets access world with
      | (.error e, world) => stop e world
      | (.ok names, world) =>
        let round := (Fleet.ofNames names timeout image).inject access cancelAt start world
        ⟨round.world, round.ending, round.result.map fun r => r.map fun _ => round.fleet⟩

/-- Runs a command in every pod that has the agent. A defect in place of the command is the result,
and then nothing is asked of the cluster. -/
def carryOut {ω : Type} (fleet : Fleet) (access : PodAccess ω)
    (command : Except Fault.Defect Command) (cancelAt : Option Nat) (start : Nat) (world : ω) :
    Round ω :=
  match command with
  | .error defect =>
    { fleet, world, ending := .completed start
      result := some (.error (.fault defect.message)) }
  | .ok command => fleet.exec access command cancelAt start world

/-- Applies a fault for a duration in every pod that has the agent. -/
def apply {ω : Type} (fleet : Fleet) (access : PodAccess ω) (fault : Fault Duration)
    (duration : Duration) (cancelAt : Option Nat) (start : Nat) (world : ω) : Round ω :=
  carryOut fleet access (fault.command duration) cancelAt start world

/-- Applies an HTTP fault for a duration in every pod that has the agent. -/
def applyHttp {ω : Type} (fleet : Fleet) (access : PodAccess ω) (fault : HttpFault)
    (duration : Duration) (options : ProxyOptions) (cancelAt : Option Nat) (start : Nat)
    (world : ω) : Round ω :=
  carryOut fleet access (fault.command duration options) cancelAt start world

/-- Applies a gRPC fault for a duration in every pod that has the agent. -/
def applyGrpc {ω : Type} (fleet : Fleet) (access : PodAccess ω) (fault : GrpcFault)
    (duration : Duration) (options : ProxyOptions) (cancelAt : Option Nat) (start : Nat)
    (world : ω) : Round ω :=
  carryOut fleet access (fault.command duration options) cancelAt start world

end Disruption

end FaultInjection
