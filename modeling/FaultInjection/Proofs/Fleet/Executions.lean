import FaultInjection.Proofs.Fleet.Cancellation
import FaultInjection.Proofs.Fleet.Namesakes

/-!
# Rounds of execution

What a command comes to in a fleet with any past, also if names repeat in it.  The command is run
once in each pod that has the agent and in no other, nothing about the pods changes, and the result
tells which of them have failed (`Entry.Executed`, `executed_of_history`).  Without a pod that has
the agent nothing is run, and the round does not succeed.
-/

namespace FaultInjection

open Concurrency

variable {ω : Type}

/-! ## Rounds that are not cancelled -/

/-- A round of execution that is not cancelled is the one without a cancellation. -/
theorem Fleet.exec_of_not_cancelled {fleet : Fleet} {access : PodAccess ω} {command : Command}
    {cancelAt : Option ℕ} {start : ℕ} {world : ω} (hne : fleet.injected ≠ [])
    (h : ∀ T, (fleet.exec access command cancelAt start world).ending ≠ .cancelled T) :
    fleet.exec access command cancelAt start world = fleet.exec access command none start world := by
  cases cancelAt with
  | none => rfl
  | some c =>
      by_cases hlate : c ≤ start ∨
          ∀ T, (fleet.exec access command none start world).ending = .completed T → c ≤ T
      · exact absurd (exec_some_of_le hne hlate).1.ending (h _)
      · push Not at hlate
        obtain ⟨-, T, hending, hlt⟩ := hlate
        exact (exec_some_of_lt hending hlt).1

/-! ## Fleets with a past -/

/-- In every fleet of a history only the first pod of each name has left pending. -/
theorem firstOnly_of_mem_history {names : List String} {timeout : InjectTimeout} {image : String}
    {requests : List RoundRequest} {e : Entry}
    (he : e ∈ history (Fleet.ofNames names timeout image) requests) : FirstOnly e.fleet.targets := by
  obtain ⟨past, rest, hhistory⟩ := List.append_of_mem he
  refine @history_induction (fun _ fleet => FirstOnly fleet.targets) ?_ _ requests past [] rest e
    (Fleet.firstOnly_ofNames names timeout image) hhistory
  intro _ e hfirst _
  exact Entry.firstOnly_after hfirst

namespace Entry

/-- The targets that a command is run in. -/
def injectedTargets (e : Entry) : List Target := e.fleet.targets.filter (·.state = .injected)

theorem map_name_injectedTargets (e : Entry) :
    e.injectedTargets.map (·.name) = e.fleet.injected := rfl

theorem injected_eq_nil_iff {e : Entry} :
    e.fleet.injected = [] ↔ ∀ t ∈ e.fleet.targets, t.state ≠ .injected := by
  simp [Fleet.injected, Fleet.namesIn]

/-- **One execution, exactly**: a command in a fleet, and what comes of it in each pod. -/
structure Executed (e : Entry) (command : Command) (outcome : String → Except Failure String) :
    Prop where
  /-- It comes to its end. -/
  completed : ∃ T, e.ending = .completed T
  /-- No pod changes its state. -/
  unchanged : e.after = e.fleet
  /-- Each pod with the agent is called, in the agent's container and with the arguments of the
  command, and nothing else is asked. -/
  calls : e.calls = e.injectedTargets.map fun t => .exec t.name "xk6-agent" command.args
  /-- No pod is called twice. -/
  once : e.calls.Nodup
  /-- Without a pod that has the agent nothing is asked, and that is the failure. -/
  nobody : (∀ t ∈ e.fleet.targets, t.state ≠ .injected) →
    e.calls = [] ∧ e.result = some (.error (.noTargets e.request.access.scope))
  /-- The round succeeds exactly if there are pods with the agent, and the command has succeeded in
  each of them. -/
  succeeds : e.result = some (.ok ()) ↔ (∃ t ∈ e.fleet.targets, t.state = .injected) ∧
    ∀ t ∈ e.fleet.targets, t.state = .injected → ∃ output, outcome t.name = .ok output
  /-- Otherwise it lists the pods in which the command has failed, in the order of the pods and each
  with its own failure. -/
  lists : (∃ t ∈ e.fleet.targets, t.state = .injected) → e.result ≠ some (.ok ()) →
    e.result = some (.error (.execution (e.injectedTargets.filterMap fun t =>
      match outcome t.name with
      | .ok _ => none
      | .error failure => some ⟨t.name, failure.message⟩)))

variable {e : Entry} {command : Command} {outcome : String → Except Failure String}

/-- The failures of the pods with the agent, target by target. -/
theorem filterMap_failureOf : e.fleet.injected.filterMap (failureOf outcome) =
    e.injectedTargets.filterMap fun t => match outcome t.name with
      | .ok _ => none
      | .error failure => some ⟨t.name, failure.message⟩ := by
  rw [← map_name_injectedTargets, List.filterMap_map]
  apply List.filterMap_congr
  intro t _
  rw [Function.comp_apply, failureOf]
  cases outcome t.name <;> rfl

/-- The round of a command with pods that have the agent ends with the failures of these pods. -/
theorem round_of_executes (hnames : e.fleet.injected.Nodup)
    (hkind : e.request.kind = .execution command) (hne : e.fleet.injected ≠ [])
    (hop : e.request.access.Executes e.fleet command e.request.world outcome)
    (hcancel : ¬ e.Cancelled) : (∃ T, e.ending = .completed T) ∧
      e.result = some (Fleet.verdict .execution (e.fleet.injected.filterMap (failureOf outcome))) := by
  have hround : e.request.round e.fleet = e.fleet.exec e.request.access command e.request.cancelAt
      e.request.start e.request.world := by
    rw [RoundRequest.round, hkind]
  have hending : ∀ T, (e.fleet.exec e.request.access command e.request.cancelAt e.request.start
      e.request.world).ending ≠ .cancelled T := by
    intro T hT
    rw [← hround] at hT
    exact hcancel ⟨T, hT⟩
  obtain ⟨T, hexec⟩ := Fleet.exec_of_executes hnames hne hop e.request.start
  rw [ending, result, hround, Fleet.exec_of_not_cancelled hne hending, hexec]
  exact ⟨⟨T, rfl⟩, rfl⟩

/-- Without a pod that has the agent the round is over at once. -/
theorem round_of_injected_nil (hkind : e.request.kind = .execution command)
    (hnil : e.fleet.injected = []) : e.ending = .completed e.request.start ∧
      e.result = some (.error (.noTargets e.request.access.scope)) := by
  simp only [ending, result, RoundRequest.round, hkind, Fleet.exec_of_nil hnil, and_self]

end Entry

/-! ## Whole histories -/

/-- **One execution, exactly.**  Whatever has happened to the fleet before, a command that is not
cancelled is run once in each pod that has the agent, leaves the pods as they are, and succeeds
exactly if there is such a pod and the command succeeds in all of them.  Otherwise the result names
the pods in which it has failed. -/
theorem executed_of_history (names : List String) (timeout : InjectTimeout) (image : String)
    (requests : List RoundRequest) {e : Entry}
    (he : e ∈ history (Fleet.ofNames names timeout image) requests) {command : Command}
    (hkind : e.request.kind = .execution command) {outcome : String → Except Failure String}
    (hop : e.request.access.Executes e.fleet command e.request.world outcome)
    (hcancel : ¬ e.Cancelled) : e.Executed command outcome := by
  have hnames : e.fleet.injected.Nodup := Fleet.nodup_injected (firstOnly_of_mem_history he)
  have hcompleted : ∃ T, e.ending = .completed T := by
    by_cases hnil : e.fleet.injected = []
    · exact ⟨_, (Entry.round_of_injected_nil hkind hnil).1⟩
    · exact (Entry.round_of_executes hnames hkind hnil hop hcancel).1
  obtain ⟨T, hending⟩ := hcompleted
  have hcalls : e.calls = e.fleet.injected.map command.call :=
    Entry.calls_of_completed hkind hending
  have hsome : e.fleet.injected ≠ [] ↔ ∃ t ∈ e.fleet.targets, t.state = .injected := by
    rw [ne_eq, Entry.injected_eq_nil_iff]
    push Not
    rfl
  -- With a pod that has the agent, the failures of these pods are the verdict.
  have hresult (hne : e.fleet.injected ≠ []) := (Entry.round_of_executes hnames hkind hne hop
    hcancel).2
  have hsucceeds (hne : e.fleet.injected ≠ []) : e.result = some (.ok ()) ↔
      ∀ t ∈ e.fleet.targets, t.state = .injected → ∃ output, outcome t.name = .ok output := by
    rw [hresult hne, Fleet.verdict]
    have hnone : e.fleet.injected.filterMap (failureOf outcome) = [] ↔
        ∀ t ∈ e.fleet.targets, t.state = .injected → ∃ output, outcome t.name = .ok output := by
      rw [List.filterMap_eq_nil_iff, Fleet.injected, Fleet.namesIn, List.forall_mem_map]
      simp [failureOf_eq_none_iff]
    rw [← hnone]
    split <;> simp_all
  exact {
    completed := ⟨T, hending⟩
    unchanged := Entry.after_of_execution hkind
    calls := by
      rw [hcalls, ← Entry.map_name_injectedTargets, List.map_map]
      rfl
    once := by
      rw [hcalls]
      refine hnames.map ?_
      intro pod pod' heq
      exact (Call.exec.inj heq).1
    nobody := by
      intro hnobody
      have hnil := Entry.injected_eq_nil_iff.mpr hnobody
      exact ⟨Entry.calls_of_injected_nil hkind hnil, (Entry.round_of_injected_nil hkind hnil).2⟩
    succeeds := by
      rw [← hsome]
      by_cases hnil : e.fleet.injected = []
      · rw [(Entry.round_of_injected_nil hkind hnil).2]
        simp [hnil]
      · rw [hsucceeds hnil]
        simp [hnil]
    lists := by
      intro hexists hfailed
      rw [hresult (hsome.mpr hexists), Fleet.verdict] at hfailed ⊢
      split
      · next hnone => exact absurd (by rw [if_pos hnone]) hfailed
      · rw [Entry.filterMap_failureOf] }

/-- A request to pods of which `b` refuses the agent, and `c` a command. -/
def unevenPods (kind : RoundKind) : RoundRequest where
  kind
  World := Unit
  access := {
    scope := "shop"
    list := fun _ world => (.ok ["a", "b", "c"], world)
    inject := fun pod _ _ => .after 1 (if pod = "b" then .error (.notReady pod "refused") else .ok ())
    exec := fun pod _ _ => .after (if pod = "a" then 2 else 1)
      (if pod = "c" then .error (.command pod "refused") else .ok pod) }
  cancelAt := none
  start := 0
  world := ()

/-- The pods after the agent was brought into those that accept it. -/
def unevenFleet : Fleet :=
  ⟨[⟨"a", .injected⟩, ⟨"b", .failed "Agent container in pod b is not ready: refused"⟩,
    ⟨"c", .injected⟩], .usual, "agent"⟩

/-- A command for one second. -/
def briefCommand : Command := ⟨.http, [(.duration, "1s")]⟩

theorem mem_history_uneven : ⟨unevenFleet, unevenPods (.execution briefCommand)⟩ ∈
    history (Fleet.ofNames ["a", "b", "c"] .usual "agent")
      [unevenPods .injection, unevenPods (.execution briefCommand)] := by
  have hfirst : ((unevenPods .injection).round
      (Fleet.ofNames ["a", "b", "c"] .usual "agent")).fleet = unevenFleet := by decide +kernel
  rw [history, if_neg (by decide +kernel), hfirst, history]
  simp

/-- A command is run in the two pods that have the agent, and the one that refuses it is named. -/
theorem executed_uneven : ∃ e ∈ history (Fleet.ofNames ["a", "b", "c"] .usual "agent")
    [unevenPods .injection, unevenPods (.execution briefCommand)],
    e.request.kind = .execution briefCommand ∧ ¬ e.Cancelled ∧
    e.calls = [.exec "a" "xk6-agent" ["xk6-disruptor-agent", "http", "-d", "1s"],
      .exec "c" "xk6-agent" ["xk6-disruptor-agent", "http", "-d", "1s"]] ∧
    e.result = some (.error (.execution [⟨"c", "Exec in pod c failed: refused"⟩])) := by
  have hop : (unevenPods (.execution briefCommand)).access.Executes unevenFleet briefCommand ()
      fun pod => if pod = "c" then .error (.command pod "refused") else .ok pod :=
    yields_after _ _ _
  have hcancel : ¬ Entry.Cancelled ⟨unevenFleet, unevenPods (.execution briefCommand)⟩ := by
    rintro ⟨T, hT⟩
    have hending : Entry.ending ⟨unevenFleet, unevenPods (.execution briefCommand)⟩ =
        .completed 2 := by
      decide +kernel
    rw [hending] at hT
    cases hT
  have hexecuted := executed_of_history ["a", "b", "c"] .usual "agent" _ mem_history_uneven rfl hop
    hcancel
  refine ⟨_, mem_history_uneven, rfl, hcancel, hexecuted.calls, ?_⟩
  rw [hexecuted.lists ⟨⟨"a", .injected⟩, List.mem_cons_self, rfl⟩ (by decide +kernel)]
  decide +kernel

end FaultInjection
