import FaultInjection.Kube.Exec
import FaultInjection.Kube.HttpStatus
import FaultInjection.Kube.Replies
import FaultInjection.Kube.Uri
import FaultInjection.Text.Quoted

/-!
# Servers

A server answers requests from its scripts and remembers them. A request whose target is no target
is not sent, and a server that cannot be reached remembers nothing.
-/

namespace FaultInjection.Kube

open Json Number Text

/-! ## Requests -/

/-- A request as it was received. -/
structure Request where
  /-- The method. -/
  method : String
  /-- What it is for. -/
  uri : Uri
  /-- The type of the body, if there is one. -/
  contentType : Option String
  /-- The body, if there is one. -/
  body : Option Json
  /-- It asks for a session in place of a reply. -/
  opensSession : Bool

/-- What a request for a command can be answered with. -/
inductive ExecReply where
  | plain (reply : Reply)
  | session (s : Session)

/-- A server with its scripts. -/
structure Server where
  /-- The replies to requests. -/
  replies : ReplyBook
  /-- The replies to requests for commands, by pod. -/
  sessions : List (String × List ExecReply)
  /-- It can be reached. -/
  reachable : Bool
  /-- The requests that it received. -/
  requests : List Request

namespace Server

/-- The pod of a path for commands: the last part but one, if the last one says so. -/
def execPod? (path : String) : Option String :=
  match (splitAt '/' path.toList).reverse with
  | ['e', 'x', 'e', 'c'] :: pod :: _ => some (String.ofList pod)
  | _ => none

/-- The reply to a request. -/
def answer (method path : String) (server : Server) : Reply × Server :=
  let (reply, replies) := server.replies.answer method path
  (reply, { server with replies })

/-- The reply to a request that wants a session: that of the scripts, if it is for a command. -/
def answerExec (path : String) (server : Server) : ExecReply × Server :=
  match execPod? path with
  | none =>
    let (reply, server) := server.answer "GET" path
    (.plain reply, server)
  | some pod =>
    let missing := ExecReply.plain (ReplyBook.missing path)
    match server.sessions.lookup pod with
    | none => (missing, server)
    | some scripts =>
      let (reply, left) := takeTurn scripts
      (reply.getD missing,
        { server with sessions := (pod, left) :: server.sessions.filter (·.1 ≠ pod) })

/-- Sends a request for a target, which is answered by its path. -/
def send {ρ : Type} (answer : String → Server → ρ × Server) (method : String)
    (target : List Char) (contentType : Option String) (body : Option Json) (opensSession : Bool)
    (server : Server) : Except ClusterError ρ × Server :=
  match Uri.read target with
  | .error fault => (.error (.request ("failed to build request: " ++ fault.message)), server)
  | .ok uri =>
    if server.reachable then
      let (reply, server) := answer uri.path server
      (.ok reply,
        { server with
          requests := server.requests ++ [⟨method, uri, contentType, body, opensSession⟩] })
    else (.error .unreachable, server)

end Server

/-! ## Replies -/

/-- The refusal with these parts, if the code is one of sixteen bits. -/
def refusal? (status message reason : String) (code : Int) : Option ClusterError :=
  if (IntegerRange.unsigned 16).Contains code then
    some (.refused status message reason code.toNat)
  else none

/-- What a refusal says of itself: its parts by name, of which the message and the reason may be
missing, or all of them in order. -/
def readRefusal (value : Json) : Option ClusterError :=
  let text (name : String) : Option String :=
    match value.members.lookup name with
    | none => some ""
    | some v => v.text?
  match value with
  | .arr [.str status, .str message, .str reason, .int code] => refusal? status message reason code
  | .obj members =>
    if ["status", "message", "reason", "code"].all (value.occurrences · ≤ 1) then
      match members.lookup "status", members.lookup "code" with
      | some (.str status), some (.int code) => do
        refusal? status (← text "message") (← text "reason") code
      | _, _ => none
    else none
  | _ => none

/-- The refusal of a reply. One that does not say what it is is shown as it is. -/
def refusalOf (reply : Reply) : ClusterError :=
  ((Json.ofText? reply.body).bind readRefusal).getD
    (.refused (statusText reply.status) (quoted reply.body) "Failed to parse error data"
      reply.status)

/-- What a reply holds, unless it is a refusal. -/
def Reply.read {α : Type} (decode : Json → Option α) (reply : Reply) : Except ClusterError α :=
  if isErrorStatus reply.status then .error (refusalOf reply)
  else match (Json.ofText? reply.body).bind decode with
    | some a => .ok a
    | none => .error .answer

/-- Sends a request and reads the reply. -/
def Server.ask {α : Type} (decode : Json → Option α) (method : String) (target : List Char)
    (contentType : Option String) (body : Option Json) (server : Server) :
    Except ClusterError α × Server :=
  let (reply, server) := server.send (answer method) method target contentType body false
  (reply.bind (·.read decode), server)

end FaultInjection.Kube
