import FaultInjection.Connection
import FaultInjection.Run

/-!
# The program

The program loads its settings, connects to the cluster and runs the experiment. It ends well only
if every stage does; otherwise it says why.
-/

namespace FaultInjection

open Kube

/-- How the program ends. -/
inductive Exit where
  | done
  | failed (message : String) (causes : List String)
  /-- It never ends. -/
  | never
deriving DecidableEq, Repr

/-- The code of an end, if it is one. -/
def Exit.code? : Exit → Option UInt32
  | done => some 0
  | failed .. => some 1
  | never => none

/-- What is said of an end. -/
def Exit.text? : Exit → Option String
  | failed message causes =>
    some ("Error: " ++ message
      ++ (if causes = [] then "" else "\n\nCaused by:\n    " ++ "\n    ".intercalate causes))
  | _ => none

/-- The end of a run. -/
def Exit.ofResult : Option (Except Failure Unit) → Exit
  | none => never
  | some (.ok ()) => done
  | some (.error e) => failed e.message []

/-- Runs the program on a cluster. -/
def program (s : Surroundings) (server : Server) : Exit × Server :=
  match Settings.load s.env s.files with
  | .error e => (.failed e.message e.causes, server)
  | .ok settings =>
    match Connection.connect settings.kubeconfig s server with
    | (.error e, server) => (.failed e.message [], server)
    | (.ok _, server) =>
      let report := settings.experiment.disturb none 0 server
      (.ofResult report.result, report.server)

end FaultInjection
