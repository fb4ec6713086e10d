import FaultInjection.Kube.PodForm
import FaultInjection.Labels

/-!
# Pods

What is read of a pod that the cluster describes: its name, its labels, and how the containers that
were added to it are doing.
-/

namespace FaultInjection.Kube

open Json
open Number (signedText)

/-! ## Containers -/

/-- How an added container ended. -/
structure Termination where
  /-- Its exit code. -/
  exitCode : Int
  /-- The reason that is given for it. -/
  reason : Option String
deriving DecidableEq, Repr

/-- The cause of the end in words. -/
def Termination.message (t : Termination) : String :=
  t.reason.getD ("exit code " ++ signedText t.exitCode)

/-- What is known of a container that was added to a pod. -/
structure ContainerStatus where
  /-- Its name. -/
  name : String
  /-- It is running. -/
  running : Bool
  /-- How it ended, if it did. -/
  terminated : Option Termination
deriving DecidableEq, Repr

/-- A pod as the cluster describes it. -/
structure Pod where
  /-- Its name. -/
  name : String
  /-- Its labels. -/
  labels : Labels
  /-- The containers that were added to it. -/
  added : List ContainerStatus
deriving DecidableEq

namespace Pod

/-- A container of a name is running. -/
def isRunning (pod : Pod) (container : String) : Bool :=
  pod.added.any fun c => c.name = container && c.running

/-- How the first container of a name ended, if it did. -/
def termination? (pod : Pod) (container : String) : Option Termination :=
  (pod.added.find? (·.name = container)).bind (·.terminated)

/-! ## Reading a description -/

/-- The texts of a table. -/
def tableOf (value : Json) : Labels :=
  .ofList (value.members.filterMap fun m => m.2.text?.map (m.1, ·))

/-- A container from what is told of it. -/
def containerOf (value : Json) : ContainerStatus :=
  let state := value.member "state"
  { name := (value.textAt? "name").getD ""
    running := (state.get? "running").isSome
    terminated := (state.get? "terminated").map fun t =>
      { exitCode := ((t.get? "exitCode").bind Json.int?).getD 0, reason := t.textAt? "reason" } }

/-- The pod of a description. A pod without a name has the one that its name is generated from. -/
def ofDescription (value : Json) : Pod :=
  let metadata := value.member "metadata"
  { name := (metadata.textAt? "name" <|> metadata.textAt? "generateName").getD ""
    labels := tableOf (metadata.member "labels")
    added := ((value.member "status").member "ephemeralContainerStatuses").items.map containerOf }

/-- The pod that a value describes, if it has the form of a description, nested no deeper than a
limit. -/
def ofNested? (depth : Nat) (value : Json) : Option Pod :=
  if PodForm.pod.admits depth value then some (ofDescription value) else none

/-- The pod that a whole value describes. -/
def ofJson? : Json → Option Pod := ofNested? depthLimit

/-! ## Lists of pods -/

/-- A member of a list of pods has its form. Members that a list does not have must be sound. -/
def isListMember (member : String × Json) : Bool :=
  match member.1 with
  | "items" => true
  | "metadata" => PodForm.listMetadata.admits (depthLimit - 1) member.2
  | _ => member.2.isSound (depthLimit - 1)

/-- The pods of a list, which must have its items once, and at most once a description. -/
def listOfJson? (value : Json) : Option (List Pod) :=
  if value.occurrences "items" = 1 ∧ value.occurrences "metadata" ≤ 1 ∧
      value.members.all isListMember then
    match value.members.lookup "items" with
    | some (.arr items) => items.mapM (ofNested? (depthLimit - 2))
    | some .null => some []
    | _ => none
  else none

end Pod

end FaultInjection.Kube
