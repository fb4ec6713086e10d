import FaultInjection.Agent
import FaultInjection.Concurrency.Operation
import FaultInjection.Selector

/-!
# Access to pods

What the injection of faults needs of a cluster, for the pods of one namespace: to list them, to add
a container to one, and to run a command in a container of one.
-/

namespace FaultInjection

open Concurrency

/-- Access to the pods of a namespace, in a world `ω`. -/
structure PodAccess (ω : Type) where
  /-- The namespace. -/
  scope : String
  /-- The names of the pods that pass a filter, in the order of the cluster. -/
  list : Filter → ω → Except Failure (List String) × ω
  /-- Adds a container to a pod. With a bound, it is waited for until it runs or the bound is
  over. -/
  inject : (pod : String) → (container : Container) → (wait : Option Duration) →
    Operation ω (Except Failure Unit)
  /-- Runs a command in a container of a pod, for what it writes to its output. -/
  exec : (pod container : String) → (command : List String) → Operation ω (Except Failure String)

/-- The names of the pods that a selector asks for. Finding none is no failure. -/
def Selector.targets {ω : Type} (s : Selector) (access : PodAccess ω) (world : ω) :
    Except Failure (List String) × ω :=
  match s.validate with
  | .error e => (.error e, world)
  | .ok () => access.list s.filter world

/-- The failure of a pod that is not running its agent when the bound is over. -/
def notRunning (pod : String) (bound : Duration) : Failure :=
  .notReady pod ("not running after " ++ bound.scaledText)

end FaultInjection
