import FaultInjection.Program
import FaultInjection.Proofs.Disruption.Preparation
import FaultInjection.Proofs.Kube.Traffic

/-!
# Stages of the program

The program loads its settings, connects to the cluster (`Connection.Connects`), prepares a
disruption, and runs the command of its fault in the pods with the agent.  The command is run only
when the experiment is cleared for it (`Experiment.Cleared`), and the experiment succeeds exactly if
the command then succeeds in every pod (`Experiment.result_disturb_ok_iff`).  What each stage sends
to the server is told beside it.
-/

namespace FaultInjection

open Concurrency Kube

/-! ## Fan-outs that succeed -/

namespace Connection

variable {path : Option String} {s : Surroundings} {server later : Server}

end Connection

/-! ## Experiments -/

namespace Experiment

/-- The preparation of an experiment on a server that is connected, without a cancellation. -/
def preparation (e : Experiment) (server : Server) : Preparation Server where
  access := Kube.access e.selector.scopeOrDefault
  selector := e.selector
  timeout := e.timeout
  image := e.agentImage
  cancelAt := none
  start := 0
  world := server

/-- The execution of a command in the pods that were listed, from the end of the injection on. -/
def execution (e : Experiment) (server : Server) (names : List String) (command : Command) :
    Outcome Server (Except Failure String) :=
  let rollout := (e.preparation server).rollout names
  fanOut (execCommand e.selector.scopeOrDefault · Agent.containerName command.args) names none
    (rollout.ending.timeFrom 0) rollout.world

variable {e : Experiment} {server : Server} {names : List String} {command : Command}

theorem admitted_iff : (e.preparation server).Admitted ↔ e.selector.isUnrestricted = false :=
  ⟨fun h => h.1, fun h => ⟨h, rfl⟩⟩

theorem prepared_of_listed (h : e.selector.isUnrestricted = false)
    (hlisting : (e.preparation server).listing.1 = .ok names) :
    (e.preparation server).prepared.world = ((e.preparation server).rollout names).world ∧
      (e.preparation server).prepared.ending = ((e.preparation server).rollout names).ending := by
  rw [Preparation.prepared_of_listed (admitted_iff.mpr h) hlisting]
  exact ⟨Fleet.world_inject, Fleet.ending_inject⟩

end Experiment

end FaultInjection
