import FaultInjection.Program

/-!
# Command line

The program with the variables and files of its process. There is no transport to a cluster here:
one that is configured cannot be reached.
-/

namespace FaultInjection

open Kube

/-- The fault that the system reports by a number, whose sign does not matter. -/
def faultOfNumber (number : UInt32) : FileFault :=
  let isSigned (n : UInt32) : Bool := number = n || number = -n
  if isSigned 20 then .notDirectory
  else if isSigned 21 then .directory
  else if isSigned 36 then .nameTooLong
  else .missing

/-- The fault of an error that the system reports. -/
def faultOf : IO.Error → FileFault
  | .inappropriateType _ number _ | .invalidArgument _ number _ => faultOfNumber number
  | _ => .missing

/-- The contents of a file. -/
def readFile (path : String) : IO (Except FileFault (List UInt8)) := do
  try
    let octets ← IO.FS.readBinFile path
    return .ok octets.toList
  catch e => return .error (faultOf e)

/-- The variables that the program knows. -/
def knownVariables : List String := [
  "KUBECONFIG_PATH", "KUBECONFIG", "EXPERIMENT_FILE", "TARGET_NAMESPACE", "SELECT_LABELS",
  "EXCLUDE_LABELS", "INJECT_TIMEOUT_SECS", "AGENT_IMAGE", "FAULT_DURATION_SECS", "FAULT_PROTOCOL",
  "AVERAGE_DELAY_MS", "DELAY_VARIATION_MS", "ERROR_RATE", "ERROR_CODE", "EXCLUDE", "TARGET_PORT",
  "PROXY_PORT"] ++ Connection.proxyVariables

/-- The values of the variables that are set. -/
def readVariables : IO (List (String × List UInt8)) :=
  knownVariables.filterMapM fun name => do
    return (← IO.getEnv name).map fun value => (name, Text.encode value)

/-- The files that some variables name. -/
def readFiles (paths : List String) : IO (List (String × Except FileFault (List UInt8))) :=
  paths.mapM fun path => return (path, ← readFile path)

/-- A cluster that cannot be reached. -/
def nowhere : Server := { replies := .empty, sessions := [], reachable := false, requests := [] }

end FaultInjection

open FaultInjection in
/-- Runs the program with the variables and files of the process. -/
def main : IO UInt32 := do
  let values ← readVariables
  let env : Environment := fun name => values.lookup name
  let home := (← IO.getEnv "HOME").map (· ++ "/.kube/config")
  let usual := Connection.usualPaths { env, files := fun _ => .error .missing, home }
  let paths := ["KUBECONFIG_PATH", "EXPERIMENT_FILE"].filterMap env.texts ++ usual
  let contents ← readFiles paths
  let files : Files := fun path => (contents.lookup path).getD (.error .missing)
  let (exit, _) := program { env, files, home } nowhere
  if let some text := exit.text? then
    IO.eprintln text
  return exit.code?.getD 0
