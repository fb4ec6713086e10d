import FaultInjection.Kube.Server
import FaultInjection.Kube.Version
import FaultInjection.PodAccess

/-!
# Access through the API of a cluster

Pods are listed, get containers added and run commands by requests to a server. Whether an added
container runs is asked for once a second, from the moment on at which it was accepted, until it
runs, has ended, or the bound is over.
-/

namespace FaultInjection.Kube

open Concurrency Json Text

/-! ## Targets of requests -/

/-- The path of the pods of a namespace. -/
def podsPath (scope : String) : List Char :=
  ("/api/v1/namespaces/" ++ scope ++ "/pods").toList

/-- The path of a pod. -/
def podPath (scope pod : String) : List Char := podsPath scope ++ '/' :: pod.toList

/-- A path with a query. -/
def withQuery (path : List Char) (query : List (String × String)) : List Char :=
  path ++ '?' :: writeForm query

/-- The refusal of a pod without a name, which concerns no request. -/
def namelessPod : ClusterError :=
  .request "failed to validate request: A non-empty name is required"

/-! ## Versions -/

/-- The form of a version. -/
def versionShape : Shape := .record [
  ("buildDate", .text), ("compiler", .text), ("gitCommit", .text), ("gitTreeState", .text),
  ("gitVersion", .text), ("goVersion", .text), ("major", .text), ("minor", .text),
  ("platform", .text)]

/-- The two numbers of a version. -/
def readVersion (value : Json) : Option (String × String) :=
  if versionShape.fits value then
    some ((value.textAt? "major").getD "", (value.textAt? "minor").getD "")
  else none

/-- Asks for the version, and refuses one that is too old. -/
def requireVersion (server : Server) : Except Failure Unit × Server :=
  match server.ask readVersion "GET" "/version".toList none none with
  | (.error e, server) => (.error (.cluster e), server)
  | (.ok (major, minor), server) => (checkVersion major minor, server)

/-! ## Pods -/

/-- The names of the pods of a namespace that pass a filter. -/
def listPods (scope : String) (filter : Filter) (server : Server) :
    Except Failure (List String) × Server :=
  let query := filter.labelSelector?.toList.map (("labelSelector", ·))
  let target := withQuery (podsPath scope) query
  match server.ask Pod.listOfJson? "GET" target none none with
  | (.error e, server) => (.error (.cluster e), server)
  | (.ok pods, server) =>
    (.ok ((pods.filter fun pod => filter.passes pod.labels).map (·.name)), server)

/-! ## Containers -/

/-- The time between two questions. -/
def pollInterval : Duration := .ofSecs 1

/-- What a reply says of a container that is waited for; nothing if the waiting goes on. -/
def verdict? (pod container : String) :
    Except ClusterError Pod → Option (Except Failure Unit)
  | .error e => some (.error (.cluster e))
  | .ok found =>
    if found.isRunning container then some (.ok ())
    else (found.termination? container).map fun t =>
      .error (.notReady pod ("container terminated: " ++ t.message))

/-- The question of a number, and the end of the waiting when the bound is over. -/
def poll (scope pod container : String) (bound : Duration) (number : Nat) (server : Server) :
    Progress (Except Failure Unit) × Server :=
  let asked := number * pollInterval.nanos
  if asked < bound.nanos then
    let (reply, server) := server.ask Pod.ofJson? "GET" (podPath scope pod) none none
    match verdict? pod container reply with
    | some result => (.finished result, server)
    | none => (.asleep (min pollInterval.nanos (bound.nanos - asked)), server)
  else (.finished (.error (notRunning pod bound)), server)

/-- The body of the request that adds a container. -/
def additionBody (container : Container) : Json :=
  .obj [("spec", .obj [("ephemeralContainers", .arr [container.description])])]

/-- Adds a container to a pod. -/
def addContainer (scope pod : String) (container : Container) (server : Server) :
    Except ClusterError Unit × Server :=
  if pod = "" then (.error namelessPod, server)
  else
    let target := withQuery (podPath scope pod ++ "/ephemeralcontainers".toList) []
    let (reply, server) := server.ask Pod.ofJson? "PATCH" target
      (some "application/strategic-merge-patch+json") (some (additionBody container))
    (reply.map fun _ => (), server)

/-- Adds a container to a pod and waits until it runs, if that is wanted. -/
def injectContainer (scope pod : String) (container : Container) (wait : Option Duration) :
    Operation Server (Except Failure Unit) where
  more := match wait with
    | none => 0
    | some bound => (bound.nanos + pollInterval.nanos - 1) / pollInterval.nanos
  turn := fun number server =>
    match number, wait with
    | 0, _ =>
      match addContainer scope pod container server, wait with
      | (.error e, server), _ => (.finished (.error (.cluster e)), server)
      | (.ok (), server), none => (.finished (.ok ()), server)
      | (.ok (), server), some bound => poll scope pod container.name bound 0 server
    | n + 1, some bound => poll scope pod container.name bound (n + 1) server
    | _ + 1, none => (.finished (.ok ()), server)

/-! ## Commands -/

/-- The query of a request for a command. -/
def execQuery (container : String) (command : List String) : List (String × String) :=
  [("stdout", "true"), ("stderr", "true"), ("container", container)]
    ++ command.map (("command", ·))

/-- The code of a reply that changes to another protocol. -/
def switchingStatus : Nat := 101

/-- Why a reply does not begin a session. -/
def upgradeMessage (reply : Reply) : String :=
  if reply.status = switchingStatus then "upgrade header was not set to websocket"
  else "failed to switch protocol: " ++ statusText reply.status

/-- How a command stands after its request was answered. -/
def execProgress (pod : String) :
    Except ClusterError ExecReply → Progress (Except Failure String)
  | .error e => .finished (.error (.cluster e))
  | .ok (.plain reply) => .finished (.error (.cluster (.upgrade (upgradeMessage reply))))
  | .ok (.session s) =>
    match s.result? pod with
    | some result => .finished result
    | none => .stuck

/-- Runs a command in a container of a pod. -/
def execCommand (scope pod container : String) (command : List String) :
    Operation Server (Except Failure String) where
  more := 0
  turn := fun _ server =>
    if pod = "" then (.finished (.error (.cluster namelessPod)), server)
    else
      let target := withQuery (podPath scope pod ++ "/exec".toList) (execQuery container command)
      let (reply, server) := server.send Server.answerExec "GET" target none none true
      (execProgress pod reply, server)

/-- Access to the pods of a namespace through a server. -/
def access (scope : String) : PodAccess Server where
  scope
  list := listPods scope
  inject := injectContainer scope
  exec := execCommand scope

end FaultInjection.Kube
