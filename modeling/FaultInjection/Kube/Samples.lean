import FaultInjection.Agent
import FaultInjection.Json.Writer
import FaultInjection.Kube.Version
import FaultInjection.Labels

/-!
# Sample answers

Answers of a cluster as they are used to rehearse requests: a pod with its agent in some state, a
list of pods, a version, and the refusal of something that does not exist.
-/

namespace FaultInjection.Kube.Samples

open Text

/-- The state of an agent's container. -/
def agentState : String → Json
  | "running" => .obj [("running", .obj [("startedAt", .str "2026-01-01T00:00:00Z")])]
  | "terminated" => .obj [("terminated", .obj [("exitCode", .int 1), ("reason", .str "Error")])]
  | _ => .obj [("waiting", .obj [("reason", .str "ContainerCreating")])]

/-- What is told of an agent's container in some state. -/
def agentStatus (state : String) : Json :=
  .obj [
    ("phase", .str "Running"),
    ("ephemeralContainerStatuses", .arr [.obj [
      ("name", .str Agent.containerName),
      ("image", .str Agent.defaultImage),
      ("imageID", .str ""),
      ("ready", .bool false),
      ("restartCount", .int 0),
      ("state", agentState state)]])]

/-- A pod with labels, and an agent if a state of it is given. -/
def pod (name : String) (labels : Labels) (state : Option String) : Json :=
  .ofMembers [
    ("apiVersion", some (.str "v1")),
    ("kind", some (.str "Pod")),
    ("metadata", some (.obj [
      ("name", .str name),
      ("namespace", .str "ns1"),
      ("uid", .str (name ++ "-uid")),
      ("labels", .obj (labels.pairs.map fun p => (p.1, .str p.2)))])),
    ("spec", some (.obj [("containers", .arr [.obj [
      ("name", .str "app"), ("image", .str "app:latest")]])])),
    ("status", state.map agentStatus)]

/-- A list of pods. -/
def podList (pods : List (String × Labels)) : Json :=
  .obj [
    ("apiVersion", .str "v1"),
    ("kind", .str "PodList"),
    ("metadata", .obj [("resourceVersion", .str "1")]),
    ("items", .arr (pods.map fun p => pod p.1 p.2 none))]

/-- A version. -/
def version (major minor : String) : Json :=
  .obj [
    ("major", .str major),
    ("minor", .str minor),
    ("gitVersion", .str (versionText major minor ++ ".0")),
    ("gitCommit", .str "0000000"),
    ("gitTreeState", .str "clean"),
    ("buildDate", .str "2026-01-01T00:00:00Z"),
    ("goVersion", .str "go1.22.0"),
    ("compiler", .str "gc"),
    ("platform", .str "linux/amd64")]

/-- The refusal of something that does not exist. -/
def notFound (resource name : String) : Json :=
  .obj [
    ("kind", .str "Status"),
    ("apiVersion", .str "v1"),
    ("status", .str "Failure"),
    ("message", .str (resource ++ " \"" ++ name ++ "\" not found")),
    ("reason", .str "NotFound"),
    ("code", .int 404)]

end FaultInjection.Kube.Samples
