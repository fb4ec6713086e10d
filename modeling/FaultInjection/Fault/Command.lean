import FaultInjection.Fault

/-!
# Agent commands

The agent applies a fault when it is run with a command line: its name, the protocol, and then flags
that each take a value. A part of the fault that is not set has no flag.
-/

namespace FaultInjection

open Number Text

/-! ## Flags -/

/-- The flags of the agent. -/
inductive Flag where
  | duration
  | averageDelay
  | delayVariation
  | errorRate
  | errorCode
  | errorBody
  | status
  | message
  | port
  | exclude
  | proxyPort
  | iface
deriving DecidableEq, Repr

/-- How a flag is written. -/
def Flag.name : Flag → String
  | .duration => "-d"
  | .averageDelay => "-a"
  | .delayVariation => "-v"
  | .errorRate => "-r"
  | .errorCode => "-e"
  | .errorBody => "-b"
  | .status => "-s"
  | .message => "-m"
  | .port => "-t"
  | .exclude => "-x"
  | .proxyPort => "-p"
  | .iface => "-i"

/-! ## Command lines -/

/-- A command line of the agent: the protocol, and the flags with their values. -/
structure Command where
  /-- The protocol whose requests are disturbed. -/
  protocol : Protocol
  /-- The flags with their values, in order. -/
  options : List (Flag × String)
deriving DecidableEq, Repr

namespace Command

/-- The name of the agent's program. -/
def program : String := "xk6-disruptor-agent"

/-- The arguments, the name of the program first. -/
def args (c : Command) : List String :=
  program :: c.protocol.name :: c.options.flatMap fun o => [o.1.name, o.2]

/-- The arguments with spaces between them. -/
def text (c : Command) : String := " ".intercalate c.args

/-- The argument after the first one that equals a word. -/
def argumentAfter (word : String) : List String → Option String
  | [] => none
  | a :: r => if a = word then r.head? else argumentAfter word r

/-- The argument after the first one that equals a word. -/
def flag? (c : Command) (word : String) : Option String := argumentAfter word c.args

end Command

/-! ## The command of a fault -/

/-- The flags of an answer; an empty text has none. -/
def Answer.options : Answer → List (Flag × String)
  | .http code body =>
    (.errorCode, decimalText code.toNat) :: if body = "" then [] else [(.errorBody, body)]
  | .grpc status message =>
    (.status, signedText status.toInt) :: if message = "" then [] else [(.message, message)]

namespace Fault

/-- The flags of the delays, which are left out together. -/
def delayOptions (f : Fault Duration) : List (Flag × String) :=
  if f.averageDelay = .zero then []
  else [(.averageDelay, f.averageDelay.text), (.delayVariation, f.delayVariation.text)]

/-- The flags of the error rate and the answer, which are left out unless some requests fail. -/
def errorOptions (f : Fault Duration) : List (Flag × String) :=
  if f.errorRate.isPositive then (.errorRate, f.errorRate.text) :: f.answer.options else []

/-- The flag of a port that is set. -/
def portOption (flag : Flag) (port : UInt16) : List (Flag × String) :=
  if port = 0 then [] else [(flag, decimalText port.toNat)]

/-- The flag of a text that is set. -/
def textOption (flag : Flag) (text : String) : List (Flag × String) :=
  if text = "" then [] else [(flag, text)]

/-- The flags of a fault that is to last for a duration. -/
def options (f : Fault Duration) (duration : Duration) : List (Flag × String) :=
  (.duration, duration.text) :: f.delayOptions ++ f.errorOptions
    ++ portOption .port f.port
    ++ (if f.exclude = [] then [] else [(.exclude, withCommas f.exclude)])
    ++ portOption .proxyPort f.proxyPort
    ++ textOption .iface f.iface

/-- The command that applies a fault for a duration, unless the fault has a defect. -/
def command (f : Fault Duration) (duration : Duration) : Except Defect Command :=
  match f.defect? duration with
  | some defect => .error defect
  | none => .ok { protocol := f.protocol, options := f.options duration }

/-- There is a command exactly for a fault without a defect. -/
theorem command_eq_ok_iff {f : Fault Duration} {duration : Duration} {c : Command} :
    f.command duration = .ok c ↔
      f.defect? duration = none ∧
        c = { protocol := f.protocol, options := f.options duration } := by
  unfold command
  cases f.defect? duration <;> simp [eq_comm]

end Fault

end FaultInjection
