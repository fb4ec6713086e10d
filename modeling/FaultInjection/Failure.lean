import FaultInjection.Number.Decimal
import FaultInjection.Text.Quoted

/-!
# Failures

Everything that can stop the injection of a fault, and its wording. A failure that concerns single
pods names them.
-/

namespace FaultInjection

open Number Text

/-! ## Refusals of the cluster -/

/-- A request that the cluster did not carry out. -/
inductive ClusterError where
  /-- The cluster answered with an error. -/
  | refused (status message reason : String) (code : Nat)
  /-- The connection for a command could not be opened. -/
  | upgrade (cause : String)
  /-- There is no such request. -/
  | request (cause : String)
  /-- The answer does not have the expected form. -/
  | answer
  /-- It is not said where the server is. -/
  | nowhere
  /-- There was no answer. -/
  | unreachable
deriving DecidableEq, Repr

/-- The refusal in words. -/
def ClusterError.message : ClusterError → String
  | .refused status message reason code =>
    "ApiError: " ++ message ++ ": " ++ reason ++ " (ErrorResponse \x7b status: " ++ quoted status
      ++ ", message: " ++ quoted message ++ ", reason: " ++ quoted reason
      ++ ", code: " ++ decimalText code ++ " \x7d)"
  | .upgrade cause => "failed to upgrade to a WebSocket connection: " ++ cause
  | .request cause => "Failed to build request: " ++ cause
  | .answer => "Error deserializing response"
  | .nowhere => "ServiceError: client error (UserAbsoluteUriRequired)"
  | .unreachable => "ServiceError: client error (Connect)"

/-! ## Failures of a run -/

/-- A pod for which something failed, and why. -/
structure PodFailure where
  /-- The name of the pod. -/
  pod : String
  /-- The cause in words. -/
  reason : String
deriving DecidableEq, Repr

/-- The pod and the cause. -/
def PodFailure.message (f : PodFailure) : String := f.pod ++ ": " ++ f.reason

/-- Why a run stopped. -/
inductive Failure where
  | cluster (error : ClusterError)
  | connection (cause : String)
  | selector (cause : String)
  | version (found : String)
  | injection (failures : List PodFailure)
  | execution (failures : List PodFailure)
  | fault (cause : String)
  | noTargets (scope : String)
  | cancelled (stage : String)
  | notReady (pod reason : String)
  | command (pod reason : String)
deriving DecidableEq, Repr

namespace Failure

/-- How many pods failed, and how. -/
def listing (what : String) (failures : List PodFailure) : String :=
  what ++ " failed for " ++ decimalText failures.length ++ " pod(s): "
    ++ "; ".intercalate (failures.map PodFailure.message)

/-- The failure in words. -/
def message : Failure → String
  | cluster error => "Kubernetes API error: " ++ error.message
  | connection cause => "Failed to build cluster client: " ++ cause
  | selector cause => "Invalid pod selector: " ++ cause
  | version found =>
    "Unsupported Kubernetes version. Expected >= v1.23 but actual is " ++ found
  | injection failures => listing "Agent injection" failures
  | execution failures => listing "Fault command" failures
  | fault cause => "Invalid fault specification: " ++ cause
  | noTargets scope => "No injected targets in namespace " ++ scope
  | cancelled stage => "Cancelled during " ++ stage
  | notReady pod reason => "Agent container in pod " ++ pod ++ " is not ready: " ++ reason
  | command pod reason => "Exec in pod " ++ pod ++ " failed: " ++ reason

/-- The pods that a failure names, in its order. -/
def pods : Failure → List String
  | injection failures | execution failures => failures.map (·.pod)
  | notReady pod _ | command pod _ => [pod]
  | _ => []

end Failure

end FaultInjection
