import FaultInjection.Proofs.Concurrency.Orders
import FaultInjection.Proofs.Fleet.Rounds

/-!
# Schedules

The operations of a fan-out end in an order that nobody controls.  `schedule_independence` says that
nothing but the log tells which one it was: every pod is started once and has one result, its own,
and a round leaves the same fleet and the same failures behind in every order.
-/

namespace FaultInjection

open Concurrency

/-- **Exactly once.**  What a fan-out over different pods, each with an outcome of its own, leaves
behind. -/
structure ExactlyOnce {ω α : Type} (pods : List String) (outcome : String → α) (start : ℕ)
    (out : Outcome ω α) : Prop where
  /-- It ends by itself. -/
  completed : ∃ T, out.ending = .completed T
  /-- Each pod has started once, in the order of the list. -/
  started : starts out.log = pods
  /-- The places were taken greedily. -/
  orderly : Orderly pods start out.log
  /-- There is one result for each pod. -/
  entries : (results out.log).Perm (pods.map fun pod => (pod, outcome pod))
  /-- The result that counts for a pod is its own. -/
  counted : ∀ pod, resultOf? (results out.log) pod = if pod ∈ pods then some (outcome pod) else none

/-- A fan-out of operations with outcomes of their own runs each of them exactly once. -/
theorem exactlyOnce_fanOut {ω α : Type} {op : String → Operation ω α} {pods : List String}
    {outcome : String → α} {world : ω} (hpods : pods.Nodup) (hop : Yields op pods world outcome)
    (start : ℕ) : ExactlyOnce pods outcome start (fanOut op pods none start world) := by
  obtain ⟨T, hcompleted⟩ := exists_completed hpods hop start
  exact {
    completed := ⟨T, hcompleted⟩
    started := (perm_ends_of_completed hcompleted).1
    orderly := orderly_fanOut op pods start world
    entries := perm_results hpods hop start
    counted := resultOf?_fanOut hpods hop start }

/-- A round leaves a fleet and a result behind. -/
structure Round.Leaves {ω : Type} (round : Round ω) (fleet : Fleet)
    (result : Except Failure Unit) : Prop where
  fleet : round.fleet = fleet
  result : round.result = some result

/-- **Schedule independence.**  What the outcomes of some pods decide, whatever the worlds and the
durations. -/
structure ScheduleIndependent {α : Type} (pods : List String) (outcome : String → α)
    (fleet : Fleet) (command : Command) (injected : String → Except Failure Unit)
    (executed : String → Except Failure String) : Prop where
  /-- A fan-out runs each operation exactly once. -/
  once : ∀ {ω : Type} (op : String → Operation ω α) (world : ω) (start : ℕ),
    Yields op pods world outcome → ExactlyOnce pods outcome start (fanOut op pods none start world)
  /-- Every order in which operations in `slots` places can end does occur, and no other one. -/
  orders : ∀ order, Attainable pods order ↔
    ∃ op : String → Operation Unit α, Yields op pods () outcome ∧
      ends (fanOut op pods none 0 ()).log = order
  /-- A round of injection settles each pending pod by its own outcome, and lists the failures in the
  order of the pods. -/
  injection : ∀ {ω : Type} (access : PodAccess ω) (world : ω) (start : ℕ),
    access.Injects fleet world injected → (fleet.inject access none start world).Leaves
      { fleet with targets := fleet.targets.map (·.after injected) }
      (Fleet.verdict .injection (fleet.pending.filterMap (failureOf injected)))
  /-- So does a round of execution, which leaves the fleet as it is. -/
  execution : ∀ {ω : Type} (access : PodAccess ω) (world : ω) (start : ℕ),
    access.Executes fleet command world executed →
      (fleet.exec access command none start world).Leaves fleet
        (if fleet.injected = [] then .error (.noTargets access.scope)
          else Fleet.verdict .execution (fleet.injected.filterMap (failureOf executed)))

/-- **Schedules make no difference** but in the log. -/
theorem schedule_independence {α : Type} {pods : List String} (hpods : pods.Nodup)
    (outcome : String → α) {fleet : Fleet} (hnames : fleet.Distinct) (command : Command)
    (injected : String → Except Failure Unit) (executed : String → Except Failure String) :
    ScheduleIndependent pods outcome fleet command injected executed where
  once := by
    intro ω op world start hop
    exact exactlyOnce_fanOut hpods hop start
  orders := by
    intro order
    constructor
    · intro horder
      exact exists_order hpods horder outcome
    · rintro ⟨op, hop, rfl⟩
      obtain ⟨T, hcompleted⟩ := exists_completed hpods hop 0
      exact attainable_of_completed hcompleted
  injection := by
    intro ω access world start hop
    obtain ⟨T, hround⟩ := Fleet.inject_of_injects hnames hop start
    rw [hround]
    exact ⟨rfl, rfl⟩
  execution := by
    intro ω access world start hop
    by_cases hnil : fleet.injected = []
    · rw [Fleet.exec_of_nil hnil, if_pos hnil]
      exact ⟨rfl, rfl⟩
    · obtain ⟨T, hround⟩ := Fleet.exec_of_executes (hnames.namesIn _) hnil hop start
      rw [hround, if_neg hnil]
      exact ⟨rfl, rfl⟩

/-- Access to pods that refuse the agent, of which `a` takes longer to do so than the others. -/
def slowRefusals : PodAccess Unit where
  scope := "default"
  list := fun _ world => (.ok ["a", "b"], world)
  inject := fun pod _ _ => .after (if pod = "a" then 3 else 1) (.error (.notReady pod "refused"))
  exec := fun pod _ _ => .after (if pod = "a" then 3 else 1) (.ok pod)

/-- Two pods that are pending. -/
def pendingPair : Fleet := Fleet.ofNames ["a", "b"] .usual "agent"

/-- Of two pods the first one is named first, although its operation takes longer. -/
theorem failures_of_slowRefusals :
    ["a", "b"].Nodup ∧ pendingPair.Distinct ∧
      (pendingPair.inject slowRefusals none 0 ()).result =
        some (.error (.injection [⟨"a", "Agent container in pod a is not ready: refused"⟩,
          ⟨"b", "Agent container in pod b is not ready: refused"⟩])) := by
  have hpods : ["a", "b"].Nodup := by decide
  have hnames : pendingPair.Distinct := hpods
  have hop : slowRefusals.Injects pendingPair ()
      fun pod => .error (.notReady pod "refused") :=
    yields_after _ _ _
  have hindependent := schedule_independence hpods (fun pod => pod) hnames ⟨.http, []⟩
    (fun pod => .error (.notReady pod "refused")) (fun pod => .ok pod)
  refine ⟨hpods, hnames, ?_⟩
  rw [(hindependent.injection slowRefusals () 0 hop).result]
  decide

end FaultInjection
