import FaultInjection.Experiment
import FaultInjection.Number.Literal

/-!
# Experiments from variables

Each part of an experiment has a variable. A variable that holds a number may be blank, which is the
same as unset; the first variable in the order below that does not hold what it should is reported.
-/

namespace FaultInjection.Experiment

open Number Text

/-- The value of a variable, if it is set. -/
abbrev Variables := String → Option String

/-! ## Single variables -/

/-- The text of a variable, empty if it is not set. -/
def textOf (vars : Variables) (name : String) : String := (vars name).getD ""

/-- The value of a variable, or a default if it is unset or blank. -/
def numberOf {α : Type} (read : List Char → Except NumberFault α) (vars : Variables) (name : String)
    (default : α) : Except ConfigError α :=
  match vars name with
  | none => .ok default
  | some raw =>
    if trim raw.toList = [] then .ok default
    else (read (trim raw.toList)).mapError (.number name raw)

/-- The labels of a variable. -/
def labelsOf (vars : Variables) (name : String) : Except ConfigError Labels :=
  (Labels.read (textOf vars name)).mapError (.labels name)

/-- A whole number of some range. -/
def readWhole {α : Type} (range : IntegerRange) (convert : Int → α) (s : List Char) :
    Except NumberFault α :=
  match readInteger 10 range s with
  | .ok n => .ok (convert n)
  | .error fault => .error (.integer fault)

/-- A number without sign, of sixty-four bits. -/
def readUInt64 : List Char → Except NumberFault UInt64 :=
  readWhole (.unsigned 64) fun n => .ofNat n.toNat

/-- A number without sign, of sixteen bits. -/
def readUInt16 : List Char → Except NumberFault UInt16 :=
  readWhole (.unsigned 16) fun n => .ofNat n.toNat

/-- A number of sixty-four bits. -/
def readInt64 : List Char → Except NumberFault Int64 := readWhole (.signed 64) .ofInt

/-- A number of thirty-two bits. -/
def readInt32 : List Char → Except NumberFault Int32 := readWhole (.signed 32) .ofInt

/-- A floating-point number. -/
def readRate (s : List Char) : Except NumberFault Binary64 :=
  match readBinary64 s with
  | some x => .ok x
  | none => .error .literal

/-! ## Whole experiments -/

/-- The protocol of the fault: HTTP unless another one is named. -/
def protocolOf (vars : Variables) : Except ConfigError Protocol :=
  match vars "FAULT_PROTOCOL" with
  | none => .ok .http
  | some name =>
    match Protocol.ofName? name with
    | some p => .ok p
    | none => .error (.protocol name)

/-- The answer to disturbed requests; its number has the range of the protocol. -/
def answerOf (vars : Variables) : Protocol → Except ConfigError Answer
  | .http => (numberOf readUInt16 vars "ERROR_CODE" 0).map fun code => .http code ""
  | .grpc => (numberOf readInt32 vars "ERROR_CODE" 0).map fun status => .grpc status ""

/-- The experiment of some variables. -/
def ofVariables (vars : Variables) : Except ConfigError Experiment := do
  let averageDelay ← numberOf readUInt64 vars "AVERAGE_DELAY_MS" 0
  let delayVariation ← numberOf readUInt64 vars "DELAY_VARIATION_MS" 0
  let errorRate ← numberOf readRate vars "ERROR_RATE" .zero
  let port ← numberOf readUInt16 vars "TARGET_PORT" 0
  let proxyPort ← numberOf readUInt16 vars "PROXY_PORT" 0
  let protocol ← protocolOf vars
  let answer ← answerOf vars protocol
  let select ← labelsOf vars "SELECT_LABELS"
  let exclude ← labelsOf vars "EXCLUDE_LABELS"
  let injectTimeoutSecs ← numberOf readInt64 vars "INJECT_TIMEOUT_SECS" 0
  let durationSecs ← numberOf readUInt64 vars "FAULT_DURATION_SECS" defaultDurationSecs
  return {
    scope := textOf vars "TARGET_NAMESPACE"
    select
    exclude
    injectTimeoutSecs
    agentImage := (vars "AGENT_IMAGE").getD Agent.defaultImage
    durationSecs
    fault := {
      averageDelay
      delayVariation
      errorRate
      answer
      exclude := listed (textOf vars "EXCLUDE")
      port
      proxyPort
      iface := ""
    }
  }

end FaultInjection.Experiment
