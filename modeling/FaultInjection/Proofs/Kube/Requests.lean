import FaultInjection.Kube.Access
import Mathlib.Data.List.Infix

/-!
# Requests that a server receives

Whatever is asked of a server adds at most one request to those that it has received
(`requests_send`), and nothing else about them changes.  What was received between two moments is
said by `Server.Received`.  A beginning of a valid target is a valid target (`exists_read_of_isPrefix`),
so a pod that a container could be added to can also be asked for.  What is asked again and again is
answered by the replies of an entry in their order (`ask_of_resolve`).
-/

namespace FaultInjection.Kube

open Text

/-! ## Targets -/

theorem isTooLong_of_isPrefix {s t : List Char} (h : s <+: t) (ht : isTooLong t = false) :
    isTooLong s = false := by
  obtain ⟨r, rfl⟩ := h
  simp only [isTooLong, String.ofList_append, String.utf8ByteSize_append,
    decide_eq_false_iff_not] at ht ⊢
  omega

theorem takeWhile_prefix_takeWhile {p : Char → Bool} {s t : List Char} (h : s <+: t) :
    s.takeWhile p <+: t.takeWhile p := by
  obtain ⟨r, rfl⟩ := h
  rw [List.takeWhile_append]
  split
  · exact (List.takeWhile_prefix p).trans (List.prefix_append _ _)
  · exact List.prefix_rfl

theorem all_of_isPrefix {p : Char → Bool} {s t : List Char} (h : s <+: t) (ht : t.all p = true) :
    s.all p = true := by
  rw [List.all_eq_true] at ht ⊢
  exact fun c hc => ht c (h.subset hc)

/-- A character of the path of a target. -/
def staysInPath (c : Char) : Bool := c ≠ '?' ∧ c ≠ '#'

/-- The query of what follows the path of a target. -/
def queryOf : List Char → List Char
  | '?' :: r => r.takeWhile (· ≠ '#')
  | _ => []

theorem queryOf_of_ne {c : Char} {r : List Char} (h : c ≠ '?') : queryOf (c :: r) = [] := by
  unfold queryOf
  split
  · next heq => exact absurd (List.cons.inj heq).1 h
  · rfl

/-- Cutting a target gives its path and its query. -/
theorem exists_splitTarget (s : List Char) : ∃ query, query.getD [] =
    queryOf (s.dropWhile staysInPath) ∧ splitTarget s =
      if isTooLong s then .error .tooLong
      else if (s.takeWhile staysInPath).all isPathChar && (query.getD []).all isQueryChar then
        .ok (s.takeWhile staysInPath, query)
      else .error .character := by
  have hspan : s.span (fun c => c ≠ '?' ∧ c ≠ '#') =
      (s.takeWhile staysInPath, s.dropWhile staysInPath) := List.span_eq_takeWhile_dropWhile _ _
  simp only [splitTarget, hspan]
  refine ⟨_, ?_, rfl⟩
  split
  · next hrest => rw [hrest]; rfl
  · next hrest =>
    unfold queryOf
    split
    · next r heq => exact absurd heq (hrest r)
    · rfl

/-- **Targets.**  A text is a target when it is not too long, and its path and its query hold only
characters that may stand there. -/
theorem exists_read_iff {s : List Char} : (∃ uri, Uri.read s = .ok uri) ↔
    isTooLong s = false ∧ (s.takeWhile staysInPath).all isPathChar = true ∧
      (queryOf (s.dropWhile staysInPath)).all isQueryChar = true := by
  obtain ⟨query, hquery, hsplit⟩ := exists_splitTarget s
  rw [← hquery, Uri.read, hsplit]
  cases isTooLong s <;> cases (s.takeWhile staysInPath).all isPathChar <;>
    cases (query.getD []).all isQueryChar <;> simp [Except.map]

theorem queryOf_prefix_queryOf {s t : List Char} (h : s <+: t) : queryOf s <+: queryOf t := by
  obtain ⟨r, rfl⟩ := h
  match s with
  | [] => exact List.nil_prefix
  | c :: s =>
      by_cases hmark : c = '?'
      · rw [hmark]
        exact takeWhile_prefix_takeWhile (List.prefix_append s r)
      · rw [queryOf_of_ne hmark]
        exact List.nil_prefix

/-- A beginning of a target is a target. -/
theorem exists_read_of_isPrefix {s t : List Char} (h : s <+: t) (ht : ∃ uri, Uri.read t = .ok uri) :
    ∃ uri, Uri.read s = .ok uri := by
  obtain ⟨hlong, hpath, hquery⟩ := exists_read_iff.mp ht
  refine exists_read_iff.mpr ⟨isTooLong_of_isPrefix h hlong,
    all_of_isPrefix (takeWhile_prefix_takeWhile h) hpath, ?_⟩
  obtain ⟨u, rfl⟩ := h
  -- What follows the path of the shorter text is empty, or goes on in the longer one.
  rw [List.dropWhile_append] at hquery
  split at hquery
  · next hempty =>
    rw [List.isEmpty_iff.mp hempty]
    rfl
  · exact all_of_isPrefix (queryOf_prefix_queryOf (List.prefix_append _ u)) hquery

/-! ## Requests -/

/-- The request for a target, if it is one. -/
def requestFor? (method : String) (target : List Char) (contentType : Option String)
    (body : Option Json) (opensSession : Bool) : Option Request :=
  (Uri.read target).toOption.map fun uri => ⟨method, uri, contentType, body, opensSession⟩

theorem requestFor?_eq_some_iff {method : String} {target : List Char}
    {contentType : Option String} {body : Option Json} {opensSession : Bool} {r : Request} :
    requestFor? method target contentType body opensSession = some r ↔
      ∃ uri, Uri.read target = .ok uri ∧ r = ⟨method, uri, contentType, body, opensSession⟩ := by
  unfold requestFor?
  cases Uri.read target <;> simp [Except.toOption, eq_comm]

/-- A request for a target is made in the way that was asked for. -/
theorem made_of_requestFor? {method : String} {target : List Char} {contentType : Option String}
    {body : Option Json} {opensSession : Bool} {r : Request}
    (h : requestFor? method target contentType body opensSession = some r) :
    r.method = method ∧ r.opensSession = opensSession := by
  obtain ⟨uri, -, rfl⟩ := requestFor?_eq_some_iff.mp h
  exact ⟨rfl, rfl⟩

/-- A way to answer that only the scripts of a server know of. -/
def Scripted {ρ : Type} (answer : String → Server → ρ × Server) : Prop :=
  ∀ path server, (answer path server).2.requests = server.requests ∧
    (answer path server).2.reachable = server.reachable

theorem scripted_answer (method : String) : Scripted (Server.answer method) :=
  fun _ _ => ⟨rfl, rfl⟩

section

variable {ρ : Type} {answer : String → Server → ρ × Server} {method : String} {target : List Char}
  {contentType : Option String} {body : Option Json} {opensSession : Bool} {server : Server}

/-- **One request at most.**  A server that can be reached receives the request for a target. -/
theorem requests_send (h : Scripted answer) :
    (server.send answer method target contentType body opensSession).2.requests =
      server.requests ++ if server.reachable then
        (requestFor? method target contentType body opensSession).toList else [] := by
  unfold Server.send requestFor?
  cases Uri.read target with
  | error fault => simp [Except.toOption]
  | ok uri => cases server.reachable <;> simp [Except.toOption, (h uri.path server).1]

theorem reachable_send (h : Scripted answer) :
    (server.send answer method target contentType body opensSession).2.reachable =
      server.reachable := by
  unfold Server.send
  cases Uri.read target with
  | error fault => rfl
  | ok uri => cases hreach : server.reachable <;> simp [hreach, (h uri.path server).2]

/-- What is answered has been received. -/
theorem exists_read_of_send {reply : ρ}
    (h : (server.send answer method target contentType body opensSession).1 = .ok reply) :
    server.reachable = true ∧ ∃ uri, Uri.read target = .ok uri := by
  unfold Server.send at h
  cases huri : Uri.read target with
  | error fault =>
      rw [huri] at h
      cases h
  | ok uri =>
      cases hreach : server.reachable with
      | true => exact ⟨rfl, uri, rfl⟩
      | false => simp [huri, hreach] at h

/-- To read the reply asks for nothing more. -/
theorem ask_snd {α : Type} (decode : Json → Option α) :
    (server.ask decode method target contentType body).2 =
      (server.send (Server.answer method) method target contentType body false).2 := rfl

end

/-! ## Replies in turn -/

/-- What is left of some replies after some turns: all but the first ones, and never nothing. -/
def leftAfter {α : Type} (n : ℕ) (replies : List α) : List α :=
  replies.drop (min n (replies.length - 1))

theorem takeTurn_leftAfter {α : Type} (n : ℕ) (replies : List α) :
    takeTurn (leftAfter n replies) =
      (replies[min n (replies.length - 1)]?, leftAfter (n + 1) replies) := by
  have hturn (l : List α) : takeTurn l = (l.head?, l.drop (min 1 (l.length - 1))) := by
    match l with
    | [] => rfl
    | [a] => rfl
    | a :: b :: r => simp [takeTurn]
  rw [hturn, leftAfter, leftAfter, List.head?_drop, List.drop_drop, List.length_drop]
  congr 2
  omega

namespace ReplyBook

variable {book : ReplyBook} {key : ReplyKey} {replies : List Reply} {method path : String}

theorem get?_put (book : ReplyBook) (key : ReplyKey) (replies : List Reply) :
    (book.put key replies).get? key = some replies := by
  simp [put, get?]

/-- Who answers a request answers it again after the replies have changed. -/
theorem resolve?_put (h : book.resolve? method path = some key) :
    (book.put key replies).resolve? method path = some key := by
  unfold resolve? at h ⊢
  split at h
  · obtain rfl := Option.some.inj h
    rw [get?_put]
    rfl
  · next hown =>
    obtain ⟨entry, hfind, rfl⟩ := Option.map_eq_some_iff.mp h
    have hcovers : entry.1.covers method path = true := by
      simpa only using List.find?_some hfind
    -- The request has no entry of its own now, as little as before.
    have hstill : ¬ ((book.put entry.1 replies).get? ⟨method, path⟩).isSome = true := by
      intro hsome
      obtain ⟨e, he, heq⟩ := List.lookup_isSome_iff.mp hsome
      refine hown (List.lookup_isSome_iff.mpr ?_)
      rcases List.mem_cons.mp he with rfl | he
      · exact ⟨entry, List.mem_of_find?_eq_some hfind, heq⟩
      · exact ⟨e, List.mem_of_mem_filter he, heq⟩
    rw [if_neg hstill]
    simp [put, hcovers]

/-- Who answers a request gives the next of the replies. -/
theorem answer_of_resolve {n : ℕ} (h : book.resolve? method path = some key)
    (hreplies : book.get? key = some (leftAfter n replies)) :
    book.answer method path =
      ((replies[min n (replies.length - 1)]?).getD (missing path),
        book.put key (leftAfter (n + 1) replies)) := by
  simp only [answer, h, hreplies, Option.getD_some, takeTurn_leftAfter]

end ReplyBook

/-- A question that an entry answers gets the next of its replies. -/
theorem ask_of_resolve {α : Type} {decode : Json → Option α} {method : String} {target : List Char}
    {contentType : Option String} {body : Option Json} {server : Server} {uri : Uri}
    {key : ReplyKey} {replies : List Reply} {n : ℕ} (huri : Uri.read target = .ok uri)
    (hreach : server.reachable = true)
    (hkey : server.replies.resolve? method uri.path = some key)
    (hreplies : server.replies.get? key = some (leftAfter n replies)) :
    (server.ask decode method target contentType body).1 =
        ((replies[min n (replies.length - 1)]?).getD (ReplyBook.missing uri.path)).read decode ∧
      (server.ask decode method target contentType body).2.replies =
        server.replies.put key (leftAfter (n + 1) replies) := by
  have hanswer := ReplyBook.answer_of_resolve hkey hreplies
  simp only [Server.ask, Server.send, huri, hreach, if_true, Server.answer, hanswer, and_true]
  rfl

/-! ## Between two moments -/

/-- From one moment to a later one a server has only received requests of a kind. -/
def Server.Received (P : Request → Prop) (server later : Server) : Prop :=
  ∃ l, later.requests = server.requests ++ l ∧ ∀ r ∈ l, P r

namespace Server.Received

variable {P Q : Request → Prop} {server later latest : Server}

theorem trans (h : server.Received P later) (h' : later.Received P latest) :
    server.Received P latest := by
  obtain ⟨l, hl, hP⟩ := h
  obtain ⟨l', hl', hP'⟩ := h'
  refine ⟨l ++ l', by rw [hl', hl, List.append_assoc], ?_⟩
  intro r hr
  rcases List.mem_append.mp hr with hr | hr
  · exact hP r hr
  · exact hP' r hr

end Server.Received

/-- Where a container is added to a pod. -/
def additionTarget (scope pod : String) : List Char :=
  withQuery (podPath scope pod ++ "/ephemeralcontainers".toList) []

/-- The request that adds a container to a pod, if there is such a request. -/
def additionFor? (scope pod : String) (container : Container) : Option Request :=
  requestFor? "PATCH" (additionTarget scope pod) (some "application/strategic-merge-patch+json")
    (some (additionBody container)) false

section

variable {scope pod : String} {container : Container} {server : Server}

/-- Without a name nothing is asked. -/
theorem addContainer_of_nameless (h : pod = "") :
    addContainer scope pod container server = (.error namelessPod, server) := by
  unfold addContainer
  exact if_pos h

/-- With a name one request is sent, and its reply is read. -/
theorem addContainer_of_named (h : pod ≠ "") : addContainer scope pod container server =
    let asked := server.ask Pod.ofJson? "PATCH" (additionTarget scope pod)
      (some "application/strategic-merge-patch+json") (some (additionBody container))
    (asked.1.map fun _ => (), asked.2) := by
  unfold addContainer additionTarget
  rw [if_neg h]

/-- To add a container takes one request at most. -/
theorem requests_addContainer (scope pod : String) (container : Container) (server : Server) :
    (addContainer scope pod container server).2.requests = server.requests ++
      if pod ≠ "" ∧ server.reachable then (additionFor? scope pod container).toList else [] := by
  by_cases hpod : pod = ""
  · rw [addContainer_of_nameless hpod, if_neg fun h => h.1 hpod, List.append_nil]
  · rw [addContainer_of_named hpod]
    dsimp only
    rw [ask_snd, requests_send (scripted_answer "PATCH")]
    simp only [ne_eq, hpod, not_false_eq_true, true_and, additionFor?]

theorem reachable_addContainer (scope pod : String) (container : Container) (server : Server) :
    (addContainer scope pod container server).2.reachable = server.reachable := by
  by_cases hpod : pod = ""
  · rw [addContainer_of_nameless hpod]
  · rw [addContainer_of_named hpod]
    dsimp only
    rw [ask_snd, reachable_send (scripted_answer "PATCH")]

/-- What it takes that a container is accepted. -/
theorem exists_read_of_added (h : (addContainer scope pod container server).1 = .ok ()) :
    pod ≠ "" ∧ server.reachable = true ∧ ∃ uri, Uri.read (additionTarget scope pod) = .ok uri := by
  have hpod : pod ≠ "" := by
    intro hpod
    rw [addContainer_of_nameless hpod] at h
    cases h
  rw [addContainer_of_named hpod] at h
  simp only [Server.ask] at h
  cases hsend : (server.send (Server.answer "PATCH") "PATCH" (additionTarget scope pod)
      (some "application/strategic-merge-patch+json") (some (additionBody container)) false).1 with
  | error e =>
      rw [hsend] at h
      cases h
  | ok reply => exact ⟨hpod, exists_read_of_send hsend⟩

/-- To add a container that is accepted takes one request. -/
theorem requests_of_added (h : (addContainer scope pod container server).1 = .ok ()) :
    ∃ r, additionFor? scope pod container = some r ∧
      (addContainer scope pod container server).2.requests = server.requests ++ [r] := by
  obtain ⟨hpod, hreach, uri, huri⟩ := exists_read_of_added h
  have hr : ∃ r, additionFor? scope pod container = some r :=
    ⟨_, requestFor?_eq_some_iff.mpr ⟨uri, huri, rfl⟩⟩
  obtain ⟨r, hr⟩ := hr
  refine ⟨r, hr, ?_⟩
  rw [requests_addContainer, if_pos ⟨hpod, hreach⟩, hr, Option.toList_some]

/-- A pod that a container could be added to can be asked for. -/
theorem exists_requestFor_of_added (h : (addContainer scope pod container server).1 = .ok ()) :
    server.reachable = true ∧
      ∃ r, requestFor? "GET" (podPath scope pod) none none false = some r := by
  obtain ⟨-, hreach, htarget⟩ := exists_read_of_added h
  refine ⟨hreach, ?_⟩
  -- The path of the pod is a beginning of the target that was asked for.
  have hprefix : podPath scope pod <+: additionTarget scope pod := by
    rw [additionTarget, withQuery, List.append_assoc]
    exact List.prefix_append _ _
  obtain ⟨uri, huri⟩ := exists_read_of_isPrefix hprefix htarget
  exact ⟨_, by rw [requestFor?, huri]; rfl⟩

end

end FaultInjection.Kube
