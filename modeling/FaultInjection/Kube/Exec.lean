import FaultInjection.Failure
import FaultInjection.Json.Reader
import FaultInjection.Kube.Pod
import FaultInjection.Text.Blank
import FaultInjection.Text.Utf8

/-!
# Command sessions

A command runs in a container over a connection that carries frames of several channels: its output,
its errors, and one status at its end. What follows the status is of no concern. Only a status that
says so makes a success.
-/

namespace FaultInjection.Kube

open Json Text

/-! ## Frames -/

/-- A message of a connection. -/
inductive Frame where
  /-- Octets of a channel. -/
  | data (channel : Nat) (payload : List UInt8)
  /-- A message of another kind, which is ignored. -/
  | text

/-- The channel of the output. -/
def outputChannel : Nat := 1

/-- The channel of the errors. -/
def errorChannel : Nat := 2

/-- The channel of the status. -/
def statusChannel : Nat := 3

/-- The octets of a frame on a channel. -/
def Frame.payloadOn (channel : Nat) : Frame → List UInt8
  | .data c payload => if c = channel then payload else []
  | .text => []

/-- A frame with a status. -/
def Frame.isStatus (f : Frame) : Bool := f.payloadOn statusChannel ≠ []

/-- How a connection ends. -/
inductive Closing where
  | clean
  | broken
  /-- It stays open. -/
  | open
deriving DecidableEq, Repr

/-- What comes over a connection. -/
structure Session where
  /-- The protocol that both sides agreed on. -/
  protocol : String
  /-- The frames. -/
  frames : List Frame
  /-- What comes after them. -/
  closing : Closing

namespace Session

/-- The protocols in which statuses can be read. -/
def protocols : List String := ["v5.channel.k8s.io", "v4.channel.k8s.io"]

/-- The name of the protocol, without the blanks around it. -/
def protocolName (s : Session) : String :=
  let isSpace (c : Char) : Bool := c = ' ' || c = '\t'
  String.ofList ((((s.protocol.toList.dropWhile isSpace).reverse).dropWhile isSpace).reverse)

/-- What a channel carried before the status. -/
def collected (s : Session) (channel : Nat) : List UInt8 :=
  (s.frames.takeWhile (!·.isStatus)).flatMap (·.payloadOn channel)

/-- The octets of the status. -/
def status? (s : Session) : Option (List UInt8) :=
  (s.frames.find? (·.isStatus)).map (·.payloadOn statusChannel)

end Session

/-! ## Statuses -/

/-- The form of a status. -/
def statusShape : Shape := .record [
  ("apiVersion", .word "v1"), ("kind", .word "Status"), ("code", .whole (.signed 32)),
  ("details", .record [
    ("causes", .list (PodForm.textRecord ["field", "message", "reason"])), ("group", .text),
    ("kind", .text), ("name", .text), ("retryAfterSeconds", .whole (.signed 32)),
    ("uid", .text)]),
  ("message", .text), ("metadata", PodForm.listMetadata), ("reason", .text), ("status", .text)]

/-- The status that octets spell. -/
def readStatus (octets : List UInt8) : Option Json :=
  (Json.ofOctets? octets).filter statusShape.fits

/-- A status that tells of success. -/
def isSuccess (status : Json) : Bool := status.textAt? "status" = some "Success"

/-! ## Results -/

/-- The cause of a connection that broke. -/
def brokenMessage : String :=
  "failed to receive a WebSocket message: WebSocket protocol error: "
    ++ "Connection reset without closing handshake"

/-- What a command in a pod gives, unless its session never ends: its output, or why it failed. -/
def Session.result? (s : Session) (pod : String) : Option (Except Failure String) :=
  if s.protocolName ∉ protocols then
    some (.error (.cluster (.upgrade "Sec-WebSocket-Protocol mismatched")))
  else
    let failed (reason : String) : Option (Except Failure String) :=
      some (.error (.command pod reason))
    match s.status? with
    | some octets =>
      match readStatus octets with
      | none => failed "failed to deserialize status object: unexpected form"
      | some status =>
        if isSuccess status then some (.ok (decodeLenient (s.collected outputChannel)))
        else failed ((status.textAt? "message").getD "command failed" ++ ": "
          ++ trimmed (decodeLenient (s.collected errorChannel)))
    | none =>
      match s.closing with
      | .clean => failed "no exit status reported"
      | .broken => failed brokenMessage
      | .open => none

end FaultInjection.Kube
