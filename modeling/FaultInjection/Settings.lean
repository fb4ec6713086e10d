import FaultInjection.Experiment.Document
import FaultInjection.Experiment.Variables
import FaultInjection.Text.Utf8

/-!
# Settings

What a run is configured with: variables, of which those that are no text count as unset, and files.
An experiment file replaces all the variables of the experiment.
-/

namespace FaultInjection

open Text

/-- The octets of a variable, if it is set. -/
abbrev Environment := String → Option (List UInt8)

/-- The octets of a file. -/
abbrev Files := String → Except FileFault (List UInt8)

/-- The variables that are texts. -/
def Environment.texts (env : Environment) : Experiment.Variables := fun name =>
  (env name).bind decode?

/-- The text of a file. -/
def Files.read (files : Files) (path : String) : Except FileFault String :=
  match files path with
  | .error fault => .error fault
  | .ok octets =>
    match decode? octets with
    | some text => .ok text
    | none => .error .notText

/-- The experiment that a file describes. -/
def Experiment.ofFile (files : Files) (path : String) : Except ConfigError Experiment :=
  match files.read path with
  | .error fault => .error (.unreadable path fault)
  | .ok text => (ofText text).mapError fun e => .document path e.message

/-- What a run is configured with. -/
structure Settings where
  /-- The file with the configuration of the cluster, if one is named. -/
  kubeconfig : Option String
  /-- The experiment. -/
  experiment : Experiment

/-- The settings of an environment. -/
def Settings.load (env : Environment) (files : Files) : Except ConfigError Settings := do
  let kubeconfig := env.texts "KUBECONFIG_PATH"
  let experiment ← match env.texts "EXPERIMENT_FILE" with
    | some path => Experiment.ofFile files path
    | none => Experiment.ofVariables env.texts
  return { kubeconfig, experiment }

end FaultInjection
