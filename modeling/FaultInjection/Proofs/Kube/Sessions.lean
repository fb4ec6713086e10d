import FaultInjection.Proofs.Kube.Traffic
import FaultInjection.Proofs.Text.Utf8

/-!
# Sessions

What comes of a command is told by the frames of its session one after the other (`Delivery`).  It
succeeds exactly if the first status says so, with all the output before it as one text, and every
other session that ends is a failure of its pod (`Faithful`, `faithful_command`).
-/

namespace FaultInjection

/-- The result of an operation that has ended with a turn. -/
def Concurrency.Progress.result? {α : Type} : Concurrency.Progress α → Option α
  | .finished result => some result
  | _ => none

namespace Kube

open Concurrency Json Text

/-! ## What frames deliver -/

/-- **What frames deliver**, one after the other: the output, the errors, and the status if there is
one. -/
inductive Delivery : List Frame → List UInt8 → List UInt8 → Option (List UInt8) → Prop
  /-- No more frames come. -/
  | nothing : Delivery [] [] [] none
  /-- The first status is the last frame that counts. -/
  | status {payload : List UInt8} {rest : List Frame} (stated : payload ≠ []) :
      Delivery (.data statusChannel payload :: rest) [] [] (some payload)
  | output {payload output errors : List UInt8} {status : Option (List UInt8)} {rest : List Frame}
      (later : Delivery rest output errors status) :
      Delivery (.data outputChannel payload :: rest) (payload ++ output) errors status
  | errors {payload output errors : List UInt8} {status : Option (List UInt8)} {rest : List Frame}
      (later : Delivery rest output errors status) :
      Delivery (.data errorChannel payload :: rest) output (payload ++ errors) status
  /-- A status without octets says nothing. -/
  | unstated {output errors : List UInt8} {status : Option (List UInt8)} {rest : List Frame}
      (later : Delivery rest output errors status) :
      Delivery (.data statusChannel [] :: rest) output errors status
  /-- Other channels are ignored, -/
  | other {channel : ℕ} {payload output errors : List UInt8} {status : Option (List UInt8)}
      {rest : List Frame} (unknown : channel ∉ [outputChannel, errorChannel, statusChannel])
      (later : Delivery rest output errors status) :
      Delivery (.data channel payload :: rest) output errors status
  /-- and so are other messages. -/
  | text {output errors : List UInt8} {status : Option (List UInt8)} {rest : List Frame}
      (later : Delivery rest output errors status) :
      Delivery (.text :: rest) output errors status

namespace Session

variable {protocol : String} {closing : Closing} {frame : Frame} {frames : List Frame}

theorem collected_of_status (h : frame.isStatus = true) (channel : ℕ) :
    collected ⟨protocol, frame :: frames, closing⟩ channel = [] := by
  simp [collected, h]

theorem collected_of_not_status (h : frame.isStatus = false) (channel : ℕ) :
    collected ⟨protocol, frame :: frames, closing⟩ channel =
      frame.payloadOn channel ++ collected ⟨protocol, frames, closing⟩ channel := by
  simp [collected, h]

theorem status?_of_status (h : frame.isStatus = true) :
    status? ⟨protocol, frame :: frames, closing⟩ = some (frame.payloadOn statusChannel) := by
  simp [status?, h]

theorem status?_of_not_status (h : frame.isStatus = false) :
    status? ⟨protocol, frame :: frames, closing⟩ = status? ⟨protocol, frames, closing⟩ := by
  simp [status?, h]

/-- What is delivered is what is collected. -/
theorem collected_of_delivery {output errors : List UInt8} {status : Option (List UInt8)}
    (h : Delivery frames output errors status) :
    collected ⟨protocol, frames, closing⟩ outputChannel = output ∧
      collected ⟨protocol, frames, closing⟩ errorChannel = errors ∧
      status? ⟨protocol, frames, closing⟩ = status := by
  induction h with
  | nothing => exact ⟨rfl, rfl, rfl⟩
  | status stated =>
      have hstatus : (Frame.data statusChannel _).isStatus = true := decide_eq_true stated
      rw [collected_of_status hstatus, collected_of_status hstatus, status?_of_status hstatus]
      exact ⟨rfl, rfl, rfl⟩
  | output later ih =>
      obtain ⟨houtput, herrors, hstatus⟩ := ih
      rw [collected_of_not_status rfl, collected_of_not_status rfl, status?_of_not_status rfl,
        houtput, herrors, hstatus]
      exact ⟨rfl, rfl, rfl⟩
  | errors later ih =>
      obtain ⟨houtput, herrors, hstatus⟩ := ih
      rw [collected_of_not_status rfl, collected_of_not_status rfl, status?_of_not_status rfl,
        houtput, herrors, hstatus]
      exact ⟨rfl, rfl, rfl⟩
  | unstated later ih =>
      rwa [collected_of_not_status rfl, collected_of_not_status rfl, status?_of_not_status rfl]
  | @other channel payload _ _ _ _ unknown later ih =>
      simp only [List.mem_cons, List.not_mem_nil, or_false, not_or] at unknown
      have hnot : (Frame.data channel payload).isStatus = false := by
        simp [Frame.isStatus, Frame.payloadOn, unknown]
      rw [collected_of_not_status hnot, collected_of_not_status hnot, status?_of_not_status hnot,
        Frame.payloadOn, if_neg unknown.1, Frame.payloadOn, if_neg unknown.2.1]
      exact ih
  | text later ih =>
      rwa [collected_of_not_status rfl, collected_of_not_status rfl, status?_of_not_status rfl]

/-- All frames deliver something. -/
theorem exists_delivery (frames : List Frame) :
    ∃ output errors status, Delivery frames output errors status := by
  induction frames with
  | nil => exact ⟨_, _, _, .nothing⟩
  | cons frame frames ih =>
      obtain ⟨output, errors, status, later⟩ := ih
      cases frame with
      | text => exact ⟨_, _, _, .text later⟩
      | data channel payload =>
          by_cases hknown : channel ∈ [outputChannel, errorChannel, statusChannel]
          · simp only [List.mem_cons, List.not_mem_nil, or_false] at hknown
            rcases hknown with rfl | rfl | rfl
            · exact ⟨_, _, _, .output later⟩
            · exact ⟨_, _, _, .errors later⟩
            · cases payload with
              | nil => exact ⟨_, _, _, .unstated later⟩
              | cons b payload => exact ⟨_, _, _, .status (List.cons_ne_nil b payload)⟩
          · exact ⟨_, _, _, .other hknown later⟩

/-- **Deliveries.**  What a session collects is what its frames deliver. -/
theorem delivery_iff {s : Session} {output errors : List UInt8} {status : Option (List UInt8)} :
    Delivery s.frames output errors status ↔ s.collected outputChannel = output ∧
      s.collected errorChannel = errors ∧ s.status? = status := by
  refine ⟨collected_of_delivery, ?_⟩
  rintro ⟨rfl, rfl, rfl⟩
  obtain ⟨output, errors, status, h⟩ := exists_delivery s.frames
  obtain ⟨houtput, herrors, hstatus⟩ := @collected_of_delivery s.protocol s.closing _ _ _ _ h
  rwa [houtput, herrors, hstatus]

/-! ## Results of sessions -/

variable {s : Session} {pod : String} {output errors payload : List UInt8} {status : Json}

/-- A status of success comes with the output. -/
theorem result?_of_success (hprotocol : s.protocolName ∈ protocols)
    (h : Delivery s.frames output errors (some payload)) (hstatus : readStatus payload = some status)
    (hsuccess : status.textAt? "status" = some "Success") :
    s.result? pod = some (.ok (decodeLenient output)) := by
  obtain ⟨rfl, -, hpayload⟩ := delivery_iff.mp h
  have hsuccess : isSuccess status = true := decide_eq_true hsuccess
  simp only [result?, if_neg (not_not_intro hprotocol), hpayload, hstatus, if_pos hsuccess]

/-- Any other status is a failure, told with the errors. -/
theorem result?_of_refusal (hprotocol : s.protocolName ∈ protocols)
    (h : Delivery s.frames output errors (some payload)) (hstatus : readStatus payload = some status)
    (hrefusal : status.textAt? "status" ≠ some "Success") :
    s.result? pod = some (.error (.command pod ((status.textAt? "message").getD "command failed" ++
      ": " ++ trimmed (decodeLenient errors)))) := by
  obtain ⟨-, rfl, hpayload⟩ := delivery_iff.mp h
  have hrefusal : ¬ isSuccess status = true := mt of_decide_eq_true hrefusal
  simp only [result?, if_neg (not_not_intro hprotocol), hpayload, hstatus, if_neg hrefusal]

/-- So is one that is not well-formed. -/
theorem result?_of_unreadable (hprotocol : s.protocolName ∈ protocols)
    (h : Delivery s.frames output errors (some payload)) (hstatus : readStatus payload = none) :
    s.result? pod = some (.error (.command pod
      "failed to deserialize status object: unexpected form")) := by
  obtain ⟨-, -, hpayload⟩ := delivery_iff.mp h
  simp only [result?, if_neg (not_not_intro hprotocol), hpayload, hstatus]

/-- Without a status the end of the session is a failure. -/
theorem result?_of_unstated (hprotocol : s.protocolName ∈ protocols)
    (h : Delivery s.frames output errors none) : s.result? pod = match s.closing with
      | .clean => some (.error (.command pod "no exit status reported"))
      | .broken => some (.error (.command pod brokenMessage))
      | .open => none := by
  obtain ⟨-, -, hnone⟩ := delivery_iff.mp h
  cases hclosing : s.closing <;>
    simp only [result?, if_neg (not_not_intro hprotocol), hnone, hclosing]

end Session

/-! ## Results of commands -/

/-- What a command that is run alone gives, if it ends. -/
def commandResult? (scope pod container : String) (command : List String) (server : Server) :
    Option (Except Failure String) :=
  ((execCommand scope pod container command).runAlone server).1.map (·.1)

/-- The server answers the request for a command with a session in a protocol with statuses. -/
structure Established (scope pod container : String) (command : List String) (server : Server)
    (s : Session) : Prop where
  named : pod ≠ ""
  answered : (server.send Server.answerExec "GET" (commandTarget scope container command pod) none
    none true).1 = .ok (.session s)
  agreed : s.protocolName ∈ Session.protocols

variable {scope pod container : String} {command : List String} {server : Server} {s : Session}

/-- A command has one turn, and gives nothing after it. -/
theorem commandResult?_eq : commandResult? scope pod container command server =
    ((execCommand scope pod container command).turn 0 server).1.result? := by
  have hmore : (execCommand scope pod container command).more = 0 := rfl
  rw [commandResult?, Operation.runAlone, hmore]
  unfold Operation.runFrom
  generalize (execCommand scope pod container command).turn 0 server = turned
  obtain ⟨progress, later⟩ := turned
  cases progress <;> rfl

/-- With a name that is what the reply to its request gives. -/
theorem commandResult?_of_named (h : pod ≠ "") :
    commandResult? scope pod container command server =
      (execProgress pod (server.send Server.answerExec "GET"
        (commandTarget scope container command pod) none none true).1).result? := by
  rw [commandResult?_eq, turn_execCommand_of_named h]

/-- With a session a command gives what the session gives. -/
theorem Established.commandResult?_eq (h : Established scope pod container command server s) :
    commandResult? scope pod container command server = s.result? pod := by
  rw [commandResult?_of_named h.named, h.answered, execProgress]
  cases s.result? pod <;> rfl

/-- Without one it does not succeed. -/
theorem exists_established_of_ok {text : String}
    (h : commandResult? scope pod container command server = some (.ok text)) :
    ∃ s, Established scope pod container command server s := by
  by_cases hpod : pod = ""
  · have hturn : (execCommand scope pod container command).turn 0 server =
        (.finished (.error (.cluster namelessPod)), server) := by
      simp only [execCommand, if_pos hpod]
    rw [commandResult?_eq, hturn] at h
    cases h
  · rw [commandResult?_of_named hpod] at h
    cases hreply : (server.send Server.answerExec "GET"
      (commandTarget scope container command pod) none none true).1 with
    | error e =>
        rw [hreply] at h
        cases h
    | ok reply =>
        cases reply with
        | plain reply =>
            rw [hreply] at h
            cases h
        | session s =>
            refine ⟨s, hpod, hreply, ?_⟩
            by_contra hprotocol
            rw [hreply, execProgress, Session.result?, if_pos hprotocol] at h
            cases h

/-! ## Faithful results -/

/-- **A command is told faithfully**: what it gives, by what its session delivers. -/
structure Faithful (scope pod container : String) (command : List String) (server : Server) :
    Prop where
  /-- It succeeds exactly if the first status says so, and with what the output before it means. -/
  succeeds : ∀ text, commandResult? scope pod container command server = some (.ok text) ↔
    ∃ s output errors payload status chars, Established scope pod container command server s ∧
      Delivery s.frames output errors (some payload) ∧ readStatus payload = some status ∧
      status.textAt? "status" = some "Success" ∧ Reads output chars ∧
      text = String.ofList (chars.map (·.getD '\uFFFD'))
  /-- A text comes out whole, wherever the frames cut it. -/
  whole : ∀ s text errors payload status, Established scope pod container command server s →
    Delivery s.frames (encode text) errors (some payload) → readStatus payload = some status →
    status.textAt? "status" = some "Success" →
    commandResult? scope pod container command server = some (.ok text)
  /-- With a session that ends and is no success it is a failure of the pod. -/
  fails : ∀ s, Established scope pod container command server s → s.closing ≠ .open →
    (∀ text, commandResult? scope pod container command server ≠ some (.ok text)) →
    ∃ reason, commandResult? scope pod container command server =
      some (.error (.command pod reason))
  /-- A status that does not tell of success is told with its message and all errors. -/
  refused : ∀ s output errors payload status, Established scope pod container command server s →
    Delivery s.frames output errors (some payload) → readStatus payload = some status →
    status.textAt? "status" ≠ some "Success" →
    commandResult? scope pod container command server = some (.error (.command pod
      ((status.textAt? "message").getD "command failed" ++ ": " ++
        trimmed (decodeLenient errors))))
  /-- A status that is not well-formed, -/
  unreadable : ∀ s output errors payload, Established scope pod container command server s →
    Delivery s.frames output errors (some payload) → readStatus payload = none →
    commandResult? scope pod container command server = some (.error (.command pod
      "failed to deserialize status object: unexpected form"))
  /-- an end without a status, -/
  unstated : ∀ s output errors, Established scope pod container command server s →
    Delivery s.frames output errors none → s.closing = .clean →
    commandResult? scope pod container command server =
      some (.error (.command pod "no exit status reported"))
  /-- and a connection that breaks before it are told as such. -/
  broken : ∀ s output errors, Established scope pod container command server s →
    Delivery s.frames output errors none → s.closing = .broken →
    commandResult? scope pod container command server =
      some (.error (.command pod brokenMessage))

/-- A session that ends gives its output or a failure of the pod. -/
theorem Session.exists_result? (hprotocol : s.protocolName ∈ protocols)
    (hends : s.closing ≠ .open) : (∃ text, s.result? pod = some (.ok text)) ∨
      ∃ reason, s.result? pod = some (.error (.command pod reason)) := by
  obtain ⟨output, errors, stated, h⟩ := exists_delivery s.frames
  cases stated with
  | none =>
      right
      rw [result?_of_unstated hprotocol h]
      cases hclosing : s.closing with
      | clean => exact ⟨_, rfl⟩
      | broken => exact ⟨_, rfl⟩
      | «open» => exact absurd hclosing hends
  | some payload =>
      cases hstatus : readStatus payload with
      | none => exact Or.inr ⟨_, result?_of_unreadable hprotocol h hstatus⟩
      | some status =>
          by_cases hsuccess : status.textAt? "status" = some "Success"
          · exact Or.inl ⟨_, result?_of_success hprotocol h hstatus hsuccess⟩
          · exact Or.inr ⟨_, result?_of_refusal hprotocol h hstatus hsuccess⟩

/-- Only a status of success makes a success. -/
theorem Session.exists_of_result?_ok {text : String} (hprotocol : s.protocolName ∈ protocols)
    (hok : s.result? pod = some (.ok text)) : ∃ output errors payload status,
      Delivery s.frames output errors (some payload) ∧ readStatus payload = some status ∧
      status.textAt? "status" = some "Success" ∧ decodeLenient output = text := by
  obtain ⟨output, errors, stated, h⟩ := exists_delivery s.frames
  cases stated with
  | none =>
      rw [result?_of_unstated hprotocol h] at hok
      cases hclosing : s.closing <;> rw [hclosing] at hok <;> cases hok
  | some payload =>
      cases hstatus : readStatus payload with
      | none =>
          rw [result?_of_unreadable hprotocol h hstatus] at hok
          cases hok
      | some status =>
          by_cases hsuccess : status.textAt? "status" = some "Success"
          · rw [result?_of_success hprotocol h hstatus hsuccess] at hok
            cases hok
            exact ⟨output, errors, payload, status, h, hstatus, hsuccess, rfl⟩
          · rw [result?_of_refusal hprotocol h hstatus hsuccess] at hok
            cases hok

/-- **Commands.**  A command succeeds exactly if its session reports success, with the whole output
as its text, and any other session that ends makes a failure that names the pod and tells why. -/
theorem faithful_command (scope pod container : String) (command : List String) (server : Server) :
    Faithful scope pod container command server where
  succeeds := by
    intro text
    constructor
    · intro hok
      obtain ⟨s, hs⟩ := exists_established_of_ok hok
      rw [hs.commandResult?_eq] at hok
      obtain ⟨output, errors, payload, status, h, hstatus, hsuccess, htext⟩ :=
        Session.exists_of_result?_ok hs.agreed hok
      obtain ⟨chars, hchars, htext⟩ := decodeLenient_eq_iff.mp htext
      exact ⟨s, output, errors, payload, status, chars, hs, h, hstatus, hsuccess, hchars, htext⟩
    · rintro ⟨s, output, errors, payload, status, chars, hs, h, hstatus, hsuccess, hchars, htext⟩
      rw [hs.commandResult?_eq, Session.result?_of_success hs.agreed h hstatus hsuccess,
        decodeLenient_eq_iff.mpr ⟨chars, hchars, htext⟩]
  whole := by
    intro s text errors payload status hs h hstatus hsuccess
    rw [hs.commandResult?_eq, Session.result?_of_success hs.agreed h hstatus hsuccess,
      decodeLenient_encode]
  fails := by
    intro s hs hends hnot
    rw [hs.commandResult?_eq] at hnot ⊢
    rcases Session.exists_result? hs.agreed hends with ⟨text, hok⟩ | hfails
    · exact absurd hok (hnot text)
    · exact hfails
  refused := by
    intro s output errors payload status hs h hstatus hrefusal
    rw [hs.commandResult?_eq, Session.result?_of_refusal hs.agreed h hstatus hrefusal]
  unreadable := by
    intro s output errors payload hs h hstatus
    rw [hs.commandResult?_eq, Session.result?_of_unreadable hs.agreed h hstatus]
  unstated := by
    intro s output errors hs h hclosing
    rw [hs.commandResult?_eq, Session.result?_of_unstated hs.agreed h, hclosing]
  broken := by
    intro s output errors hs h hclosing
    rw [hs.commandResult?_eq, Session.result?_of_unstated hs.agreed h, hclosing]

/-! ## A character in two frames -/

/-- A status of success. -/
def successStatus : List UInt8 := encode "\x7b\"status\":\"Success\"\x7d"

/-- A session in which the character `é` comes in two frames, with an error between them. -/
def splitSession : Session where
  protocol := "v5.channel.k8s.io"
  frames := [.data 1 [0xC3], .data 2 [0x21], .data 3 [], .data 1 [0xA9], .data 3 successStatus,
    .data 1 [0x21]]
  closing := .broken

/-- A server that answers a command in the pod `web` with it. -/
def splitServer : Server where
  replies := ⟨[]⟩
  sessions := [("web", [.session splitSession])]
  reachable := true
  requests := []

theorem exists_readStatus_successStatus : ∃ status, readStatus successStatus = some status ∧
    status.textAt? "status" = some "Success" := by
  have hread : (readStatus successStatus).map (·.textAt? "status") = some (some "Success") := by
    decide +kernel
  exact Option.map_eq_some_iff.mp hread

theorem encode_split : encode "é" = [0xC3] ++ ([0xA9] ++ []) := by
  rw [encode_eq]
  decide +kernel

theorem established_split : Established "n" "web" "c" ["ls"] splitServer splitSession where
  named := by decide
  answered := by
    have huri : Uri.read (commandTarget "n" "c" ["ls"] "web") =
        .ok ⟨"/api/v1/namespaces/n/pods/web/exec",
          [("stdout", "true"), ("stderr", "true"), ("container", "c"), ("command", "ls")]⟩ := by
      decide +kernel
    have hpod : Server.execPod? "/api/v1/namespaces/n/pods/web/exec" = some "web" := by
      decide +kernel
    have hanswer : (Server.answerExec "/api/v1/namespaces/n/pods/web/exec" splitServer).1 =
        .session splitSession := by
      rw [Server.answerExec, hpod]
      rfl
    rw [Server.send, huri, ← hanswer]
    rfl
  agreed := by decide +kernel

/-- The character comes out whole. -/
theorem faithful_split : commandResult? "n" "web" "c" ["ls"] splitServer = some (.ok "é") := by
  obtain ⟨status, hread, hsuccess⟩ := exists_readStatus_successStatus
  refine (faithful_command "n" "web" "c" ["ls"] splitServer).whole splitSession "é" [0x21]
    successStatus status established_split ?_ hread hsuccess
  rw [encode_split]
  exact .output (.errors (.unstated (.output (.status (by decide +kernel)))))

end Kube

end FaultInjection
