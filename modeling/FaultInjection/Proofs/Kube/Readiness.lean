import FaultInjection.Proofs.Kube.Requests
import Mathlib.Logic.Function.Iterate

/-!
# Readiness of an added container

A container that was added is asked for at `0 s`, `1 s`, `2 s` and so on, as long as the bound is not
reached.  What a reply says of it is told by `Decides`: the first reply that says something ends the
waiting at the moment at which it was asked for, and without such a reply the waiting ends at the
bound (`readiness_of_added`).  The questions are counted, and their replies are those of the scripts
of the server, in their order.
-/

namespace FaultInjection.Kube

open Concurrency Number

/-! ## What a reply decides -/

/-- **What a reply says** of a container that is waited for. -/
inductive Decides (pod container : String) :
    Except ClusterError Pod → Except Failure Unit → Prop
  /-- The question has failed. -/
  | failed (e : ClusterError) : Decides pod container (.error e) (.error (.cluster e))
  /-- A container of the name is running. -/
  | running {found : Pod} {c : ContainerStatus} (mem : c ∈ found.added) (name : c.name = container)
      (running : c.running = true) : Decides pod container (.ok found) (.ok ())
  /-- None of the name is running, and the first one has ended. -/
  | ended {found : Pod} {others more : List ContainerStatus} {c : ContainerStatus}
      {t : Termination} (idle : ∀ c ∈ found.added, c.name = container → c.running = false)
      (split : found.added = others ++ c :: more) (first : ∀ c ∈ others, c.name ≠ container)
      (name : c.name = container) (ended : c.terminated = some t) :
      Decides pod container (.ok found) (.error (.notReady pod
        ("container terminated: " ++ t.reason.getD ("exit code " ++ signedText t.exitCode))))

theorem isRunning_iff {found : Pod} {container : String} : found.isRunning container = true ↔
    ∃ c ∈ found.added, c.name = container ∧ c.running = true := by
  simp [Pod.isRunning]

theorem termination?_eq_some_iff {found : Pod} {container : String} {t : Termination} :
    found.termination? container = some t ↔ ∃ others c more,
      found.added = others ++ c :: more ∧ (∀ c ∈ others, c.name ≠ container) ∧
        c.name = container ∧ c.terminated = some t := by
  rw [Pod.termination?, Option.bind_eq_some_iff]
  constructor
  · rintro ⟨c, hfind, ht⟩
    obtain ⟨hname, others, more, hsplit, hfirst⟩ := List.find?_eq_some_iff_append.mp hfind
    exact ⟨others, c, more, hsplit, by simpa using hfirst, by simpa using hname, ht⟩
  · rintro ⟨others, c, more, hsplit, hfirst, hname, ht⟩
    refine ⟨c, List.find?_eq_some_iff_append.mpr ⟨by simpa using hname, others, more, hsplit, ?_⟩, ht⟩
    simpa using hfirst

/-- The waiting goes on exactly after the replies that decide nothing. -/
theorem verdict?_eq_some_iff {pod container : String} {reply : Except ClusterError Pod}
    {result : Except Failure Unit} :
    verdict? pod container reply = some result ↔ Decides pod container reply result := by
  constructor
  · intro h
    cases reply with
    | error e =>
        obtain rfl := Option.some.inj h
        exact .failed e
    | ok found =>
        rw [verdict?] at h
        split at h
        · next hrunning =>
          obtain rfl := Option.some.inj h
          obtain ⟨c, hc, hname, hr⟩ := isRunning_iff.mp hrunning
          exact .running hc hname hr
        · next hidle =>
          obtain ⟨t, ht, rfl⟩ := Option.map_eq_some_iff.mp h
          obtain ⟨others, c, more, hsplit, hfirst, hname, hended⟩ := termination?_eq_some_iff.mp ht
          rw [Termination.message]
          refine .ended (fun d hd hdname => ?_) hsplit hfirst hname hended
          rw [Bool.eq_false_iff]
          exact fun hr => hidle (isRunning_iff.mpr ⟨d, hd, hdname, hr⟩)
  · intro h
    cases h with
    | failed e => rfl
    | @running found c hc hname hr =>
        rw [verdict?, if_pos (isRunning_iff.mpr ⟨c, hc, hname, hr⟩)]
    | @ended found others more c t idle hsplit hfirst hname hended =>
        have hidle : ¬ found.isRunning container = true := by
          rw [isRunning_iff]
          rintro ⟨d, hd, hdname, hr⟩
          rw [idle d hd hdname] at hr
          cases hr
        rw [verdict?, if_neg hidle,
          termination?_eq_some_iff.mpr ⟨others, c, more, hsplit, hfirst, hname, hended⟩]
        rfl

/-! ## Questions -/

variable {scope pod container : String}

/-- The question for a pod. -/
def question (scope pod : String) (server : Server) : Except ClusterError Pod × Server :=
  server.ask Pod.ofJson? "GET" (podPath scope pod) none none

theorem requests_question (scope pod : String) (server : Server) :
    (question scope pod server).2.requests = server.requests ++ if server.reachable then
      (requestFor? "GET" (podPath scope pod) none none false).toList else [] := by
  rw [question, ask_snd]
  exact requests_send (scripted_answer "GET")

theorem reachable_question (scope pod : String) (server : Server) :
    (question scope pod server).2.reachable = server.reachable := by
  rw [question, ask_snd]
  exact reachable_send (scripted_answer "GET")

/-- The server after some questions for a pod. -/
def afterQuestions (scope pod : String) (n : ℕ) (server : Server) : Server :=
  (fun server => (question scope pod server).2)^[n] server

/-- The reply to the question of a number. -/
def replyTo (scope pod : String) (n : ℕ) (server : Server) : Except ClusterError Pod :=
  (question scope pod (afterQuestions scope pod n server)).1

theorem afterQuestions_succ (scope pod : String) (n : ℕ) (server : Server) :
    afterQuestions scope pod (n + 1) server =
      (question scope pod (afterQuestions scope pod n server)).2 :=
  Function.iterate_succ_apply' _ n server

/-- Each question is one request for the pod, if there is such a request. -/
theorem requests_afterQuestions {server : Server} {r : Request} (hreach : server.reachable = true)
    (hr : requestFor? "GET" (podPath scope pod) none none false = some r) (n : ℕ) :
    (afterQuestions scope pod n server).requests = server.requests ++ List.replicate n r := by
  -- A server that is not reached receives nothing, so the induction carries that it is.
  have hboth : (afterQuestions scope pod n server).reachable = true ∧
      (afterQuestions scope pod n server).requests = server.requests ++ List.replicate n r := by
    induction n with
    | zero => exact ⟨hreach, by simp [afterQuestions]⟩
    | succ n ih =>
        rw [afterQuestions_succ, reachable_question, requests_question, ih.1, ih.2, if_pos rfl, hr,
          List.replicate_succ']
        exact ⟨rfl, List.append_assoc ..⟩
  exact hboth.2

/-- **The replies come in order.**  The questions for a pod are answered by the replies of its entry
one after the other, and then by the last one. -/
theorem replyTo_of_resolve {server : Server} {uri : Uri} {key : ReplyKey} {replies : List Reply}
    (huri : Uri.read (podPath scope pod) = .ok uri) (hreach : server.reachable = true)
    (hkey : server.replies.resolve? "GET" uri.path = some key)
    (hreplies : server.replies.get? key = some replies) (n : ℕ) :
    replyTo scope pod n server =
      ((replies[min n (replies.length - 1)]?).getD (ReplyBook.missing uri.path)).read
        Pod.ofJson? := by
  -- A reply changes what is left of the entry, and neither which entry it is nor the others.
  have hstate : (afterQuestions scope pod n server).reachable = true ∧
      (afterQuestions scope pod n server).replies.resolve? "GET" uri.path = some key ∧
      (afterQuestions scope pod n server).replies.get? key = some (leftAfter n replies) := by
    induction n with
    | zero => exact ⟨hreach, hkey, by simpa [afterQuestions, leftAfter] using hreplies⟩
    | succ n ih =>
        obtain ⟨ihreach, ihkey, ihreplies⟩ := ih
        rw [afterQuestions_succ, reachable_question, question,
          (ask_of_resolve huri ihreach ihkey ihreplies).2]
        exact ⟨ihreach, ReplyBook.resolve?_put ihkey, ReplyBook.get?_put _ _ _⟩
  exact (ask_of_resolve huri hstate.1 hstate.2.1 hstate.2.2).1

/-! ## The waiting -/

/-- The number of questions before a bound. -/
def questionsBefore (bound : Duration) : ℕ :=
  (bound.nanos + pollInterval.nanos - 1) / pollInterval.nanos

theorem lt_questionsBefore_iff {bound : Duration} {n : ℕ} :
    n < questionsBefore bound ↔ Duration.ofSecs n < bound := by
  show n < (bound.nanos + 1 * 1000000000 - 1) / (1 * 1000000000) ↔ n * 1000000000 < bound.nanos
  omega

/-- The waiting for a container alone, from the first question on. -/
def waiting (scope pod container : String) (bound : Duration) :
    Operation Server (Except Failure Unit) where
  more := questionsBefore bound
  turn := poll scope pod container bound

/-- A question before the bound that decides something ends the waiting. -/
theorem poll_of_decides {bound : Duration} {n : ℕ} {server : Server} {result : Except Failure Unit}
    (hn : Duration.ofSecs n < bound)
    (h : Decides pod container (question scope pod server).1 result) :
    poll scope pod container bound n server = (.finished result, (question scope pod server).2) := by
  have hasked : n * pollInterval.nanos < bound.nanos := by
    rw [pollInterval, Duration.ofSecs, Nat.one_mul]
    exact hn
  simp only [poll, if_pos hasked]
  rw [show server.ask Pod.ofJson? "GET" (podPath scope pod) none none = question scope pod server
    from rfl, verdict?_eq_some_iff.mpr h]

/-- One that decides nothing is followed by a sleep, until the next question or the bound. -/
theorem poll_of_undecided {bound : Duration} {n : ℕ} {server : Server}
    (hn : Duration.ofSecs n < bound)
    (h : ∀ result, ¬ Decides pod container (question scope pod server).1 result) :
    poll scope pod container bound n server =
      (.asleep (min (Duration.ofSecs (n + 1)).nanos bound.nanos - (Duration.ofSecs n).nanos),
        (question scope pod server).2) := by
  have hasked : n * pollInterval.nanos < bound.nanos := by
    rw [pollInterval, Duration.ofSecs, Nat.one_mul]
    exact hn
  have hnone : verdict? pod container (question scope pod server).1 = none := by
    rw [Option.eq_none_iff_forall_ne_some]
    exact fun result hresult => h result (verdict?_eq_some_iff.mp hresult)
  have hsleep : min pollInterval.nanos (bound.nanos - n * pollInterval.nanos) =
      min (Duration.ofSecs (n + 1)).nanos bound.nanos - (Duration.ofSecs n).nanos := by
    simp only [pollInterval, Duration.ofSecs]
    omega
  simp only [poll, if_pos hasked, hsleep]
  rw [show server.ask Pod.ofJson? "GET" (podPath scope pod) none none = question scope pod server
    from rfl, hnone]

/-- At the bound the waiting ends without another question. -/
theorem poll_of_le {bound : Duration} {n : ℕ} {server : Server}
    (hn : ¬ Duration.ofSecs n < bound) :
    poll scope pod container bound n server = (.finished (.error (notRunning pod bound)), server) := by
  have hasked : ¬ n * pollInterval.nanos < bound.nanos := by
    rw [pollInterval, Duration.ofSecs, Nat.one_mul]
    exact hn
  simp only [poll, if_neg hasked]

theorem turn_waiting (scope pod container : String) (bound : Duration) (n : ℕ) (server : Server) :
    (waiting scope pod container bound).turn n server = poll scope pod container bound n server :=
  rfl

/-- **The waiting goes on** over questions that decide nothing, each of them a second after the one
before, but not beyond the bound. -/
theorem runFrom_waiting {bound : Duration} (n left : ℕ) {k : ℕ} {server : Server}
    (hn : k + n ≤ questionsBefore bound)
    (h : ∀ i < n, ∀ result, ¬ Decides pod container (replyTo scope pod i server) result) :
    (waiting scope pod container bound).runFrom (left + n) k
        (min (Duration.ofSecs k).nanos bound.nanos) server =
      (waiting scope pod container bound).runFrom left (k + n)
        (min (Duration.ofSecs (k + n)).nanos bound.nanos) (afterQuestions scope pod n server) := by
  induction n generalizing k server with
  | zero => rfl
  | succ n ih =>
      have hk : Duration.ofSecs k < bound := lt_questionsBefore_iff.mp (by omega)
      have hfirst : ∀ result, ¬ Decides pod container (question scope pod server).1 result :=
        h 0 (Nat.succ_pos n)
      have hturn := poll_of_undecided hk hfirst
      rw [← turn_waiting] at hturn
      -- The sleep leads to the next second, or to the bound if that is before it.
      have htime : min (Duration.ofSecs k).nanos bound.nanos +
          (min (Duration.ofSecs (k + 1)).nanos bound.nanos - (Duration.ofSecs k).nanos) =
            min (Duration.ofSecs (k + 1)).nanos bound.nanos := by
        have : (Duration.ofSecs k).nanos < bound.nanos := hk
        simp only [Duration.ofSecs] at this ⊢
        omega
      rw [← Nat.add_assoc, Operation.runFrom_of_asleep hturn, htime,
        ih (by omega) fun i hi => h (i + 1) (Nat.succ_lt_succ hi), Nat.add_assoc, Nat.add_comm 1 n]
      rfl

/-- The waiting begins with the first questions, as many as decide nothing. -/
theorem runAlone_waiting {bound : Duration} {n : ℕ} {server : Server}
    (hn : n ≤ questionsBefore bound)
    (h : ∀ i < n, ∀ result, ¬ Decides pod container (replyTo scope pod i server) result) :
    (waiting scope pod container bound).runAlone server =
      (waiting scope pod container bound).runFrom (questionsBefore bound - n) n
        (min (Duration.ofSecs n).nanos bound.nanos) (afterQuestions scope pod n server) := by
  have hrun := @runFrom_waiting scope pod container bound n (questionsBefore bound - n) 0 server
    (by omega) h
  rw [Nat.sub_add_cancel hn, Nat.zero_add] at hrun
  rw [← hrun, Operation.runAlone]
  simp [Duration.ofSecs, waiting]

/-- The first reply that decides something ends the waiting when it was asked for. -/
theorem runAlone_waiting_of_decides {bound : Duration} {n : ℕ} {server : Server}
    {result : Except Failure Unit} (hn : Duration.ofSecs n < bound)
    (h : Decides pod container (replyTo scope pod n server) result)
    (hbefore : ∀ i < n, ∀ result, ¬ Decides pod container (replyTo scope pod i server) result) :
    (waiting scope pod container bound).runAlone server =
      (some (result, (Duration.ofSecs n).nanos), afterQuestions scope pod (n + 1) server) := by
  have hturn := poll_of_decides hn h
  rw [← turn_waiting] at hturn
  have htime : min (Duration.ofSecs n).nanos bound.nanos = (Duration.ofSecs n).nanos :=
    min_eq_left (Nat.le_of_lt hn)
  rw [runAlone_waiting (lt_questionsBefore_iff.mpr hn).le hbefore,
    Operation.runFrom_of_finished hturn, htime, afterQuestions_succ]

/-- Without such a reply the waiting ends at the bound. -/
theorem runAlone_waiting_of_undecided {bound : Duration} {server : Server}
    (h : ∀ n, Duration.ofSecs n < bound →
      ∀ result, ¬ Decides pod container (replyTo scope pod n server) result) :
    (waiting scope pod container bound).runAlone server =
      (some (.error (notRunning pod bound), bound.nanos),
        afterQuestions scope pod (questionsBefore bound) server) := by
  have hlast : ¬ Duration.ofSecs (questionsBefore bound) < bound :=
    mt lt_questionsBefore_iff.mpr (lt_irrefl _)
  have hturn := (turn_waiting scope pod container bound (questionsBefore bound)
    (afterQuestions scope pod (questionsBefore bound) server)).trans (poll_of_le hlast)
  have htime : min (Duration.ofSecs (questionsBefore bound)).nanos bound.nanos = bound.nanos :=
    min_eq_right (Nat.le_of_not_lt hlast)
  rw [runAlone_waiting le_rfl fun i hi => h i (lt_questionsBefore_iff.mp hi),
    Operation.runFrom_of_finished hturn, htime]

/-! ## Turns of an injection -/

section

variable {container : Container} {wait : Option Duration} {server later : Server}

/-- The first turn adds the container before anything else. -/
theorem turn_zero_of_refused {e : ClusterError}
    (h : addContainer scope pod container server = (.error e, later)) :
    (injectContainer scope pod container wait).turn 0 server =
      (.finished (.error (.cluster e)), later) := by
  simp only [injectContainer, h]

/-- Without a bound that is all. -/
theorem turn_zero_of_unwaited
    (h : addContainer scope pod container server = (.ok (), later)) :
    (injectContainer scope pod container none).turn 0 server = (.finished (.ok ()), later) := by
  simp only [injectContainer, h]

/-- With a bound the first question follows at once, -/
theorem turn_zero_of_added
    (h : addContainer scope pod container server = (.ok (), later)) (bound : Duration) :
    (injectContainer scope pod container (some bound)).turn 0 server =
      poll scope pod container.name bound 0 later := by
  simp only [injectContainer, h]

/-- and every other turn is a question. -/
theorem turn_succ (scope pod : String) (container : Container) (bound : Duration) (n : ℕ) :
    (injectContainer scope pod container (some bound)).turn (n + 1) =
      poll scope pod container.name bound (n + 1) := by
  simp only [injectContainer]

/-- Without a bound there are no other turns. -/
theorem more_of_unwaited (scope pod : String) (container : Container) :
    (injectContainer scope pod container none).more = 0 := rfl

end

/-! ## Adding a container and waiting for it -/

/-- After a container was accepted, adding it with a bound is the waiting for it. -/
theorem runAlone_of_added {container : Container} {server later : Server} (bound : Duration)
    (h : addContainer scope pod container server = (.ok (), later)) :
    (injectContainer scope pod container (some bound)).runAlone server =
      (waiting scope pod container.name bound).runAlone later := by
  refine Operation.runFrom_congr ?_ ?_
  · rw [turn_zero_of_added h, turn_waiting]
  · intro n hn
    obtain ⟨n, rfl⟩ := Nat.exists_eq_succ_of_ne_zero hn.ne'
    funext server
    rw [turn_succ, turn_waiting]

/-- **Readiness.**  What comes of adding a container to a pod, and of waiting for it. -/
structure Readiness (scope pod : String) (container : Container) (server : Server) : Prop where
  /-- Adding the container takes one request at most, which is no question. -/
  added : ∃ l, (addContainer scope pod container server).2.requests = server.requests ++ l ∧
    l.length ≤ 1 ∧ ∀ r ∈ l, r.method = "PATCH"
  /-- If it is accepted, that was exactly one request, with the description of the container. -/
  accepted : ∀ later, addContainer scope pod container server = (.ok (), later) →
    ∃ uri, Uri.read (additionTarget scope pod) = .ok uri ∧
      later.requests = server.requests ++ [⟨"PATCH", uri,
        some "application/strategic-merge-patch+json", some (additionBody container), false⟩]
  /-- If it is refused, that is the failure, and nothing is asked. -/
  refused : ∀ e later, addContainer scope pod container server = (.error e, later) → ∀ wait,
    (injectContainer scope pod container wait).runAlone server =
      (some (.error (.cluster e), 0), later)
  /-- Without a bound nothing is asked, either. -/
  unwaited : ∀ later, addContainer scope pod container server = (.ok (), later) →
    (injectContainer scope pod container none).runAlone server = (some (.ok (), 0), later)
  /-- The first reply that decides something ends the waiting in the second in which it was asked
  for, if that is before the bound. -/
  decided : ∀ later, addContainer scope pod container server = (.ok (), later) →
    ∀ bound n result, Duration.ofSecs n < bound →
      Decides pod container.name (replyTo scope pod n later) result →
      (∀ i < n, ∀ result, ¬ Decides pod container.name (replyTo scope pod i later) result) →
      (injectContainer scope pod container (some bound)).runAlone server =
        (some (result, (Duration.ofSecs n).nanos), afterQuestions scope pod (n + 1) later)
  /-- Without such a reply the waiting ends at the bound. -/
  overdue : ∀ later, addContainer scope pod container server = (.ok (), later) → ∀ bound,
    (∀ n, Duration.ofSecs n < bound →
      ∀ result, ¬ Decides pod container.name (replyTo scope pod n later) result) →
    (injectContainer scope pod container (some bound)).runAlone server =
      (some (.error (.notReady pod ("not running after " ++ bound.scaledText)), bound.nanos),
        afterQuestions scope pod (questionsBefore bound) later)
  /-- Every question is one request for the pod. -/
  asked : ∀ later, addContainer scope pod container server = (.ok (), later) →
    ∃ uri, Uri.read (podPath scope pod) = .ok uri ∧
      ∀ n, (afterQuestions scope pod n later).requests =
        later.requests ++ List.replicate n ⟨"GET", uri, none, none, false⟩
  /-- The questions are answered by the replies of the server for the pod, in their order. -/
  answered : ∀ later, addContainer scope pod container server = (.ok (), later) →
    ∀ uri key replies, Uri.read (podPath scope pod) = .ok uri →
      later.replies.resolve? "GET" uri.path = some key → later.replies.get? key = some replies →
      ∀ n, replyTo scope pod n later =
        ((replies[min n (replies.length - 1)]?).getD (ReplyBook.missing uri.path)).read Pod.ofJson?

/-- **Waiting for readiness.**  Adding a container to a pod comes to what its reply and the first
reply that decides something say, at the moment at which that was asked for, or to the end of the
bound. -/
theorem readiness_of_added (scope pod : String) (container : Container) (server : Server) :
    Readiness scope pod container server where
  added := by
    refine ⟨_, requests_addContainer scope pod container server, ?_, ?_⟩
    · split
      · exact Option.length_toList_le
      · exact Nat.zero_le _
    · intro r hr
      split at hr
      · exact (made_of_requestFor? (Option.mem_toList.mp hr)).1
      · cases hr
  accepted := by
    intro later h
    obtain ⟨r, hr, hrequests⟩ := requests_of_added (congrArg Prod.fst h)
    obtain ⟨uri, huri, rfl⟩ := requestFor?_eq_some_iff.mp hr
    refine ⟨uri, huri, ?_⟩
    rw [← hrequests, h]
  refused := by
    intro e later h wait
    exact Operation.runFrom_of_finished (turn_zero_of_refused h)
  unwaited := by
    intro later h
    exact Operation.runFrom_of_finished (turn_zero_of_unwaited h)
  decided := by
    intro later h bound n result hn hdecides hbefore
    rw [runAlone_of_added bound h]
    exact runAlone_waiting_of_decides hn hdecides hbefore
  overdue := by
    intro later h bound hnone
    rw [runAlone_of_added bound h]
    exact runAlone_waiting_of_undecided hnone
  asked := by
    intro later h
    obtain ⟨hreach, r, hr⟩ := exists_requestFor_of_added (congrArg Prod.fst h)
    obtain ⟨uri, huri, rfl⟩ := requestFor?_eq_some_iff.mp hr
    refine ⟨uri, huri, requests_afterQuestions ?_ hr⟩
    rw [← hreach, ← reachable_addContainer scope pod container server, h]
  answered := by
    intro later h uri key replies huri hkey hreplies
    have hreach := (exists_requestFor_of_added (congrArg Prod.fst h)).1
    rw [← reachable_addContainer scope pod container server, h] at hreach
    exact replyTo_of_resolve huri hreach hkey hreplies

/-- With a bound of whole seconds the question at the bound is not asked. -/
example : questionsBefore (Duration.ofSecs 2) = 2 := by decide

/-! ## An agent that takes a second -/

/-- What is said of a pod whose agent is in some state. -/
def agentReply (state : String) : Reply :=
  ⟨200, "\x7b\"status\":\x7b\"ephemeralContainerStatuses\":[\x7b\"name\":\"xk6-agent\",\"state\":\x7b\""
    ++ state ++ "\":\x7b\x7d\x7d\x7d]\x7d\x7d"⟩

/-- A server that accepts the agent in the pod `web`, where it waits at first. -/
def startingServer : Server where
  replies := ⟨[(⟨"PATCH", "/api/v1/namespaces/n/pods/web"⟩, [⟨200, "\x7b\x7d"⟩]),
    (⟨"GET", "/api/v1/namespaces/n/pods/web"⟩, [agentReply "waiting", agentReply "running"])]⟩
  sessions := []
  reachable := true
  requests := []

/-- The server after the agent was accepted. -/
def acceptedServer : Server :=
  (addContainer "n" "web" (Agent.container "agent") startingServer).2

/-- The agent runs after a second, when it is asked for the second time. -/
theorem readiness_starting :
    addContainer "n" "web" (Agent.container "agent") startingServer = (.ok (), acceptedServer) ∧
      (∀ result, ¬ Decides "web" Agent.containerName (replyTo "n" "web" 0 acceptedServer) result) ∧
      Decides "web" Agent.containerName (replyTo "n" "web" 1 acceptedServer) (.ok ()) ∧
      (injectContainer "n" "web" (Agent.container "agent") (some (.ofSecs 5))).runAlone
          startingServer =
        (some (.ok (), (Duration.ofSecs 1).nanos), afterQuestions "n" "web" 2 acceptedServer) ∧
      ∃ addition question : Uri, (afterQuestions "n" "web" 2 acceptedServer).requests =
        [⟨"PATCH", addition, some "application/strategic-merge-patch+json",
            some (additionBody (Agent.container "agent")), false⟩,
          ⟨"GET", question, none, none, false⟩, ⟨"GET", question, none, none, false⟩] := by
  have haccepted : addContainer "n" "web" (Agent.container "agent") startingServer =
      (.ok (), acceptedServer) := by
    have hresult : (addContainer "n" "web" (Agent.container "agent") startingServer).1 = .ok () := by
      decide +kernel
    exact Prod.ext hresult rfl
  have hwaiting : ∀ result,
      ¬ Decides "web" Agent.containerName (replyTo "n" "web" 0 acceptedServer) result := by
    have hnone : verdict? "web" Agent.containerName (replyTo "n" "web" 0 acceptedServer) = none := by
      decide +kernel
    intro result h
    rw [verdict?_eq_some_iff.mpr h] at hnone
    cases hnone
  have hrunning : Decides "web" Agent.containerName (replyTo "n" "web" 1 acceptedServer) (.ok ()) :=
    verdict?_eq_some_iff.mp (by decide +kernel)
  have hready := readiness_of_added "n" "web" (Agent.container "agent") startingServer
  obtain ⟨addition, -, hadded⟩ := hready.accepted _ haccepted
  obtain ⟨question, -, hasked⟩ := hready.asked _ haccepted
  refine ⟨haccepted, hwaiting, hrunning, ?_, addition, question, ?_⟩
  · refine hready.decided _ haccepted _ 1 _ (by decide) hrunning fun i hi => ?_
    obtain rfl : i = 0 := Nat.lt_one_iff.mp hi
    exact hwaiting
  · rw [hasked, hadded]
    rfl

end FaultInjection.Kube
