import FaultInjection.Disruption
import FaultInjection.Experiment
import FaultInjection.Kube.Access

/-!
# Runs

An experiment is run in stages: the version of the cluster is checked, the agent is brought into the
pods, and the fault is applied. The first stage that fails ends the run.
-/

namespace FaultInjection

open Concurrency Kube

/-- How far a run came. -/
inductive Stage where
  | version
  | injection
  | fault
deriving DecidableEq, Repr

/-- What a run leaves behind. -/
structure Report where
  /-- The last stage that was begun. -/
  stage : Stage
  /-- The result, unless the run never ends. -/
  result : Option (Except Failure Unit)
  /-- The pods with the agent, if every pod that was asked for has it. -/
  targets : Option (List String)
  /-- The time at which the run ended. -/
  time : Nat
  /-- The server afterwards. -/
  server : Server

/-- The time at which something ended that began at a time. -/
def Concurrency.Ending.timeFrom (start : Nat) : Ending → Nat
  | .completed time | .cancelled time => time
  | .never => start

namespace Experiment

/-- Brings the agent into the pods of an experiment and applies its fault. -/
def disturb (e : Experiment) (cancelAt : Option Nat) (start : Nat) (server : Server) : Report :=
  let access := Kube.access e.selector.scopeOrDefault
  let prepared := Disruption.prepare access e.selector e.timeout e.agentImage cancelAt start server
  let time := prepared.ending.timeFrom start
  match prepared.result with
  | none => ⟨.injection, none, none, time, prepared.world⟩
  | some (.error failure) => ⟨.injection, some (.error failure), none, time, prepared.world⟩
  | some (.ok fleet) =>
    let round := Disruption.apply fleet access e.timedFault e.duration cancelAt time prepared.world
    ⟨.fault, round.result, some fleet.injected, round.ending.timeFrom time, round.world⟩

/-- Runs an experiment on a cluster. -/
def run (e : Experiment) (cancelAt : Option Nat) (start : Nat) (server : Server) : Report :=
  match requireVersion server with
  | (.error failure, server) => ⟨.version, some (.error failure), none, start, server⟩
  | (.ok (), server) => e.disturb cancelAt start server

end Experiment

end FaultInjection
