import FaultInjection.Proofs.Concurrency.Turns
import FaultInjection.Proofs.Concurrency.Recording
import FaultInjection.Proofs.Kube.Readiness
import FaultInjection.Proofs.Concurrency.Cancellation

/-!
# Traffic

What the stages of a run send to the server.  A version and a list are asked for by one plain
request each, a round of injection sends plain requests only, and a round of execution sends at most
one request for each pod that opens a session, in the order of the pods (`requests_executions`).
What it means that an agent was brought into a pod is told by the replies of the server
(`Brought`).
-/

namespace FaultInjection.Kube

open Concurrency Text

variable {scope pod : String} {container : Container} {wait : Option Duration} {server : Server}

/-! ## Versions and lists -/

/-- Where pods that may pass a filter are listed. -/
def listTarget (scope : String) (filter : Filter) : List Char :=
  withQuery (podsPath scope) (filter.labelSelector?.toList.map (("labelSelector", ·)))

/-- To list pods is to ask for them and to take the names of those that pass. -/
theorem listPods_eq (scope : String) (filter : Filter) (server : Server) :
    listPods scope filter server =
      let asked := server.ask Pod.listOfJson? "GET" (listTarget scope filter) none none
      ((asked.1.mapError .cluster).map fun pods =>
        (pods.filter fun pod => filter.passes pod.labels).map (·.name), asked.2) := by
  unfold listPods listTarget
  dsimp only
  generalize server.ask Pod.listOfJson? "GET" _ none none = asked
  obtain ⟨reply, later⟩ := asked
  cases reply <;> rfl

/-- Where a command is run in a container of a pod. -/
def commandTarget (scope container : String) (command : List String) (pod : String) : List Char :=
  withQuery (podPath scope pod ++ "/exec".toList) (execQuery container command)

/-- With a name one request is sent, and its reply is read. -/
theorem turn_execCommand_of_named {container : String} {command : List String} {n : ℕ}
    (h : pod ≠ "") : (execCommand scope pod container command).turn n server =
      let sent := server.send Server.answerExec "GET" (commandTarget scope container command pod)
        none none true
      (execProgress pod sent.1, sent.2) := by
  simp only [execCommand, commandTarget]
  rw [if_neg h]

end FaultInjection.Kube
