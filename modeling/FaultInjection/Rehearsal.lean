import FaultInjection.PodAccess

/-!
# Rehearsals

A cluster in memory whose pods behave as a script says, and which remembers what was asked of it.
With it the injection of faults is rehearsed without a real cluster.
-/

namespace FaultInjection

open Concurrency

/-- How the pods behave. Of two entries for a pod the later one counts. -/
structure Script where
  /-- Pods that refuse the agent, and why. -/
  failInject : List (String × String) := []
  /-- Pods whose agent never runs. -/
  neverReady : List String := []
  /-- Pods in which commands fail, and why. -/
  failExec : List (String × String) := []
  /-- How long an agent takes until it runs. -/
  startup : Duration := .zero
  /-- Commands never end. -/
  hangExec : Bool := false

/-- Something that was asked of the cluster. -/
inductive Call where
  | list
  | inject (pod : String) (wait : Option Duration)
  | exec (pod container : String) (command : List String)
deriving DecidableEq, Repr

/-- A cluster in memory. -/
structure Rehearsal where
  /-- How its pods behave. -/
  script : Script
  /-- What was asked of it. -/
  calls : List Call

namespace Rehearsal

/-- The reason that a script has for a pod. -/
def reason? (entries : List (String × String)) (pod : String) : Option String :=
  (entries.reverse.find? (·.1 = pod)).map (·.2)

/-- One more thing is asked. -/
def record (r : Rehearsal) (call : Call) : Rehearsal := { r with calls := r.calls ++ [call] }

/-- An agent is added to a pod. -/
def inject (pod : String) (wait : Option Duration) : Operation Rehearsal (Except Failure Unit) where
  more := 1
  turn
    | 0, r =>
      let progress := match reason? r.script.failInject pod, wait with
        | some reason, _ => .finished (.error (.notReady pod reason))
        | none, none => .finished (.ok ())
        | none, some bound =>
          if pod ∉ r.script.neverReady ∧ r.script.startup ≤ bound then
            if r.script.startup = .zero then .finished (.ok ())
            else .sleeping r.script.startup.nanos
          else .sleeping bound.nanos
      (progress, r.record (.inject pod wait))
    | _ + 1, r =>
      let result := match wait with
        | none => .ok ()
        | some bound =>
          if pod ∉ r.script.neverReady ∧ r.script.startup ≤ bound then .ok ()
          else .error (notRunning pod bound)
      (.finished result, r)

/-- A command is run in a pod. -/
def exec (pod container : String) (command : List String) :
    Operation Rehearsal (Except Failure String) where
  more := 0
  turn := fun _ r =>
    let progress :=
      if r.script.hangExec then .stuck
      else match reason? r.script.failExec pod with
        | some reason => .finished (.error (.command pod reason))
        | none => .finished (.ok "")
    (progress, r.record (.exec pod container command))

/-- Access to the pods with these names and labels. -/
def access (scope : String) (pods : List (String × Labels)) : PodAccess Rehearsal where
  scope
  list filter r :=
    (.ok ((pods.filter fun p => filter.passes p.2).map (·.1)), r.record .list)
  inject pod _ wait := inject pod wait
  exec := exec

end Rehearsal

end FaultInjection
