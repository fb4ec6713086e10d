import FaultInjection.Agent
import FaultInjection.Fault.Command
import FaultInjection.Number.Bounded
import FaultInjection.Selector

/-!
# Experiments

An experiment says which pods are disturbed, how the agent gets into them, and which fault it
applies for how long. It is configured either by variables or by a document.
-/

namespace FaultInjection

open Number

/-- A fault experiment. Delays are given in milliseconds. -/
structure Experiment where
  /-- The namespace of the pods; the empty name stands for the default one. -/
  scope : String
  /-- The labels that a pod must carry. -/
  select : Labels
  /-- The labels that a pod must not carry. -/
  exclude : Labels
  /-- The seconds to wait for the agent; zero for the usual time, negative for no waiting. -/
  injectTimeoutSecs : Int64
  /-- The image of the agent. -/
  agentImage : String
  /-- The seconds for which the fault lasts. -/
  durationSecs : UInt64
  /-- The fault. -/
  fault : Fault UInt64
deriving DecidableEq

namespace Experiment

/-- The seconds that a fault lasts unless others are configured. -/
def defaultDurationSecs : UInt64 := 30

/-- The pods of an experiment. -/
def selector (e : Experiment) : Selector := ⟨e.scope, e.select, e.exclude⟩

/-- How long to wait for the agent. -/
def timeout (e : Experiment) : InjectTimeout := .ofSecs e.injectTimeoutSecs.toInt

/-- How long the fault lasts. -/
def duration (e : Experiment) : Duration := .ofSecs e.durationSecs.toNat

/-- The fault with its delays as durations. -/
def timedFault (e : Experiment) : Fault Duration := e.fault.map fun ms => .ofMillis ms.toNat

/-- The command that applies the fault. -/
def command (e : Experiment) : Except Fault.Defect Command := e.timedFault.command e.duration

end Experiment

/-! ## Configuration errors -/

/-- Why a text is no number. -/
inductive NumberFault where
  | integer (fault : IntegerFault)
  | literal
deriving DecidableEq, Repr

/-- The fault in words. -/
def NumberFault.message : NumberFault → String
  | .integer fault => fault.message
  | .literal => "invalid float literal"

/-- Why a file cannot be read. -/
inductive FileFault where
  | missing
  | directory
  /-- The path goes on behind a file. -/
  | notDirectory
  | nameTooLong
  /-- The path holds a null character. -/
  | noPath
  | notText
deriving DecidableEq, Repr

/-- The fault in words. -/
def FileFault.message : FileFault → String
  | .missing => "No such file or directory (os error 2)"
  | .directory => "Is a directory (os error 21)"
  | .notDirectory => "Not a directory (os error 20)"
  | .nameTooLong => "File name too long (os error 36)"
  | .noPath => "file name contained an unexpected NUL byte"
  | .notText => "stream did not contain valid UTF-8"

/-- Why an experiment is not configured. -/
inductive ConfigError where
  | number (name value : String) (fault : NumberFault)
  | protocol (found : String)
  | labels (name piece : String)
  | unreadable (path : String) (fault : FileFault)
  | document (path cause : String)
deriving DecidableEq, Repr

namespace ConfigError

/-- A piece that is no label, in words. -/
def pieceMessage (piece : String) : String := "expected key=value, got '" ++ piece ++ "'"

/-- The error in words. -/
def message : ConfigError → String
  | number name value _ => "Invalid value for " ++ name ++ ": " ++ value
  | protocol found => "FAULT_PROTOCOL must be http or grpc, got " ++ found
  | labels name _ => "Invalid " ++ name
  | unreadable path _ => "Failed to read experiment file " ++ path
  | document path _ => "Invalid experiment file " ++ path

/-- What lies behind the error. -/
def causes : ConfigError → List String
  | number _ _ fault => [fault.message]
  | protocol _ => []
  | labels _ piece => [pieceMessage piece]
  | unreadable _ fault => [fault.message]
  | document _ cause => [cause]

end ConfigError

end FaultInjection
