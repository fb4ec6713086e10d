import FaultInjection.Proofs.Concurrency.Cancellation
import FaultInjection.Proofs.Concurrency.Outcomes
import FaultInjection.Proofs.Fleet.Settlement

/-!
# Rounds

What a round makes of its fan-out: a fan-out that completes settles the pods, one that is cancelled
changes nothing (`inject_of_completed`, `inject_of_cancelled` and so on).  When the pods have
different names and every operation has an outcome of its own, the fleet and the result afterwards
are told by the outcomes alone (`inject_of_injects`, `exec_of_executes`).
-/

namespace FaultInjection

open Concurrency

variable {ω : Type}

namespace Fleet

/-! ## The fan-out of a round -/

/-- The fan-out of a round of injection. -/
def injection (fleet : Fleet) (access : PodAccess ω) (cancelAt : Option ℕ) (start : ℕ) (world : ω) :
    Outcome ω (Except Failure Unit) :=
  fanOut (access.inject · (Agent.container fleet.image) fleet.timeout.bound?) fleet.pending cancelAt
    start world

/-- The fan-out of a round of execution. -/
def execution (fleet : Fleet) (access : PodAccess ω) (command : Command) (cancelAt : Option ℕ)
    (start : ℕ) (world : ω) : Outcome ω (Except Failure String) :=
  fanOut (access.exec · Agent.containerName command.args) fleet.injected cancelAt start world

/-- The result of a round that has come to its end. -/
def verdict (failure : List PodFailure → Failure) (failures : List PodFailure) :
    Except Failure Unit :=
  if failures = [] then .ok () else .error (failure failures)

variable {fleet : Fleet} {access : PodAccess ω} {command : Command} {cancelAt : Option ℕ}
  {start T : ℕ} {world : ω}

/-! ## Rounds by the ending of their fan-out -/

/-- A fan-out of injections that completes settles the pods. -/
theorem inject_of_completed
    (h : (fleet.injection access cancelAt start world).ending = .completed T) :
    fleet.inject access cancelAt start world =
      { fleet := { fleet with
          targets := settle (results (fleet.injection access cancelAt start world).log)
            fleet.targets }
        world := (fleet.injection access cancelAt start world).world
        ending := .completed T
        result := some (verdict .injection
          (failuresOf (results (fleet.injection access cancelAt start world).log)
            (fleet.targets.map (·.name)))) } := by
  unfold injection at h
  simp only [inject, h]
  rfl

/-- A fan-out of injections that is cancelled settles nothing. -/
theorem inject_of_cancelled
    (h : (fleet.injection access cancelAt start world).ending = .cancelled T) :
    fleet.inject access cancelAt start world =
      { fleet, world := (fleet.injection access cancelAt start world).world, ending := .cancelled T
        result := some (.error (.cancelled injectionStage)) } := by
  unfold injection at h
  simp only [inject, h]
  rfl

/-- A fan-out of injections that never ends has no result. -/
theorem inject_of_never (h : (fleet.injection access cancelAt start world).ending = .never) :
    fleet.inject access cancelAt start world =
      { fleet, world := (fleet.injection access cancelAt start world).world, ending := .never
        result := none } := by
  unfold injection at h
  simp only [inject, h]
  rfl

/-- The ending of a round of injection is that of its fan-out. -/
theorem ending_inject : (fleet.inject access cancelAt start world).ending =
    (fleet.injection access cancelAt start world).ending := by
  cases h : (fleet.injection access cancelAt start world).ending with
  | completed T => rw [inject_of_completed h]
  | cancelled T => rw [inject_of_cancelled h]
  | never => rw [inject_of_never h]

/-- So is the world that it leaves behind. -/
theorem world_inject : (fleet.inject access cancelAt start world).world =
    (fleet.injection access cancelAt start world).world := by
  cases h : (fleet.injection access cancelAt start world).ending with
  | completed T => rw [inject_of_completed h]
  | cancelled T => rw [inject_of_cancelled h]
  | never => rw [inject_of_never h]

/-- Without an injected pod nothing is executed. -/
theorem exec_of_nil (h : fleet.injected = []) : fleet.exec access command cancelAt start world =
    { fleet, world, ending := .completed start
      result := some (.error (.noTargets access.scope)) } := by
  rw [exec, if_pos h]

/-- A fan-out of commands that completes leaves the fleet as it is. -/
theorem exec_of_completed (hne : fleet.injected ≠ [])
    (h : (fleet.execution access command cancelAt start world).ending = .completed T) :
    fleet.exec access command cancelAt start world =
      { fleet, world := (fleet.execution access command cancelAt start world).world
        ending := .completed T
        result := some (verdict .execution
          (failuresOf (results (fleet.execution access command cancelAt start world).log)
            fleet.injected)) } := by
  unfold execution at h
  simp only [exec, if_neg hne, h]
  rfl

/-- A fan-out of commands that is cancelled leaves the fleet as it is. -/
theorem exec_of_cancelled (hne : fleet.injected ≠ [])
    (h : (fleet.execution access command cancelAt start world).ending = .cancelled T) :
    fleet.exec access command cancelAt start world =
      { fleet, world := (fleet.execution access command cancelAt start world).world
        ending := .cancelled T, result := some (.error (.cancelled executionStage)) } := by
  unfold execution at h
  simp only [exec, if_neg hne, h]
  rfl

/-- A fan-out of commands that never ends has no result. -/
theorem exec_of_never (hne : fleet.injected ≠ [])
    (h : (fleet.execution access command cancelAt start world).ending = .never) :
    fleet.exec access command cancelAt start world =
      { fleet, world := (fleet.execution access command cancelAt start world).world
        ending := .never, result := none } := by
  unfold execution at h
  simp only [exec, if_neg hne, h]
  rfl

/-- A round of execution leaves the fleet as it is. -/
theorem fleet_exec : (fleet.exec access command cancelAt start world).fleet = fleet := by
  by_cases hnil : fleet.injected = []
  · rw [exec_of_nil hnil]
  · cases h : (fleet.execution access command cancelAt start world).ending with
    | completed T => rw [exec_of_completed hnil h]
    | cancelled T => rw [exec_of_cancelled hnil h]
    | never => rw [exec_of_never hnil h]

/-- The ending of a round of execution is that of its fan-out. -/
theorem ending_exec (hne : fleet.injected ≠ []) :
    (fleet.exec access command cancelAt start world).ending =
      (fleet.execution access command cancelAt start world).ending := by
  cases h : (fleet.execution access command cancelAt start world).ending with
  | completed T => rw [exec_of_completed hne h]
  | cancelled T => rw [exec_of_cancelled hne h]
  | never => rw [exec_of_never hne h]

/-- The pods are told apart by their names. -/
def Distinct (fleet : Fleet) : Prop := (fleet.targets.map (·.name)).Nodup

theorem Distinct.namesIn {fleet : Fleet} (h : fleet.Distinct) (state : TargetState) :
    (fleet.namesIn state).Nodup :=
  h.sublist (List.filter_sublist.map _)

/-- Of different pods one is in a state when its name is among the names in that state. -/
theorem Distinct.mem_namesIn_iff {fleet : Fleet} (h : fleet.Distinct) {state : TargetState}
    {t : Target} (ht : t ∈ fleet.targets) : t.name ∈ fleet.namesIn state ↔ t.state = state := by
  unfold Fleet.namesIn
  rw [List.mem_map]
  constructor
  · rintro ⟨u, hu, hname⟩
    obtain ⟨hmem, hstate⟩ := List.mem_filter.mp hu
    rw [← List.inj_on_of_nodup_map h hmem ht hname]
    simpa using hstate
  · intro hstate
    exact ⟨t, List.mem_filter.mpr ⟨ht, by simpa using hstate⟩, rfl⟩

/-- A fan-out of injections that completes has called the pending pods. -/
theorem starts_injection
    (h : (fleet.injection access cancelAt start world).ending = .completed T) :
    starts (fleet.injection access cancelAt start world).log = fleet.pending :=
  (starts_ends_of_completed h).1

/-- A fan-out of injections that completes has the results of the pending pods. -/
theorem perm_ends_injection
    (h : (fleet.injection access cancelAt start world).ending = .completed T) :
    (ends (fleet.injection access cancelAt start world).log).Perm fleet.pending :=
  (starts_ends_of_completed h).2

/-- A fan-out of commands that completes has called the pods with the agent. -/
theorem starts_execution
    (h : (fleet.execution access command cancelAt start world).ending = .completed T) :
    starts (fleet.execution access command cancelAt start world).log = fleet.injected :=
  (starts_ends_of_completed h).1

/-- A fan-out of commands that completes has the results of the pods with the agent. -/
theorem perm_ends_execution
    (h : (fleet.execution access command cancelAt start world).ending = .completed T) :
    (ends (fleet.execution access command cancelAt start world).log).Perm fleet.injected :=
  (starts_ends_of_completed h).2

/-- A pod that was not pending has no result. -/
theorem Distinct.resultOf?_eq_none (hnames : fleet.Distinct)
    (h : (fleet.injection access cancelAt start world).ending = .completed T) {t : Target}
    (ht : t ∈ fleet.targets) (hstate : t.state ≠ .pending) :
    resultOf? (results (fleet.injection access cancelAt start world).log) t.name = none := by
  rw [resultOf?_eq_none_iff]
  intro p hp hname
  apply hstate
  rw [← hnames.mem_namesIn_iff ht, ← hname]
  exact (perm_ends_injection h).mem_iff.mp (List.mem_map_of_mem hp)

/-- A pod that was not pending stays as it is. -/
theorem Distinct.settled_eq_self (hnames : fleet.Distinct)
    (h : (fleet.injection access cancelAt start world).ending = .completed T) {t : Target}
    (ht : t ∈ fleet.targets) (hstate : t.state ≠ .pending) :
    t.settled (results (fleet.injection access cancelAt start world).log) = t := by
  rw [Target.settled, hnames.resultOf?_eq_none h ht hstate]

/-- A pod that was pending is settled by a result of its own. -/
theorem Distinct.exists_settled (hnames : fleet.Distinct)
    (h : (fleet.injection access cancelAt start world).ending = .completed T) {t : Target}
    (ht : t ∈ fleet.targets) (hstate : t.state = .pending) :
    ∃ result,
      resultOf? (results (fleet.injection access cancelAt start world).log) t.name = some result ∧
      t.settled (results (fleet.injection access cancelAt start world).log) =
        { t with state := stateAfter result } := by
  have hpending : t.name ∈ fleet.pending := (hnames.mem_namesIn_iff ht).mpr hstate
  obtain ⟨p, hp, hname⟩ := List.mem_map.mp ((perm_ends_injection h).mem_iff.mpr hpending)
  cases hresult : resultOf? (results (fleet.injection access cancelAt start world).log) t.name with
  | none => exact absurd hname (resultOf?_eq_none_iff.mp hresult p hp)
  | some result =>
      refine ⟨result, rfl, ?_⟩
      rw [Target.settled, hresult]

end Fleet

/-! ## Rounds by the outcomes of the operations -/

/-- The result that counts for a pod of a fan-out is its outcome, and no other pod has one. -/
theorem resultOf?_fanOut {α : Type} {op : String → Operation ω α} {pods : List String}
    {outcome : String → α} {world : ω} (hpods : pods.Nodup) (hop : Yields op pods world outcome)
    (start : ℕ) (pod : String) :
    resultOf? (results (fanOut op pods none start world).log) pod =
      if pod ∈ pods then some (outcome pod) else none := by
  have hperm := perm_results hpods hop start
  split
  · next hpod =>
    apply resultOf?_eq_some_of_forall
    · exact hperm.mem_iff.mpr (List.mem_map_of_mem hpod)
    · intro p hp hname
      rw [outcome_of_mem_results hpods hop start p hp, hname]
  · next hpod =>
    rw [resultOf?_eq_none_iff]
    intro p hp hname
    obtain ⟨pod', hpod', rfl⟩ := List.mem_map.mp (hperm.mem_iff.mp hp)
    exact hpod (hname ▸ hpod')

/-- The injections of a round have outcomes of their own. -/
def PodAccess.Injects (access : PodAccess ω) (fleet : Fleet) (world : ω)
    (outcome : String → Except Failure Unit) : Prop :=
  Yields (access.inject · (Agent.container fleet.image) fleet.timeout.bound?) fleet.pending world
    outcome

/-- The commands of a round have outcomes of their own. -/
def PodAccess.Executes (access : PodAccess ω) (fleet : Fleet) (command : Command) (world : ω)
    (outcome : String → Except Failure String) : Prop :=
  Yields (access.exec · Agent.containerName command.args) fleet.injected world outcome

/-- A target after a round in which every pending pod had its outcome. -/
def Target.after (outcome : String → Except Failure Unit) (t : Target) : Target :=
  if t.state = .pending then { t with state := stateAfter (outcome t.name) } else t

/-- The failure of a pod with an outcome, if it failed. -/
def failureOf {α : Type} (outcome : String → Except Failure α) (pod : String) : Option PodFailure :=
  match outcome pod with
  | .error e => some ⟨pod, e.message⟩
  | .ok _ => none

theorem failureOf_eq_none_iff {α : Type} {outcome : String → Except Failure α} {pod : String} :
    failureOf outcome pod = none ↔ ∃ a, outcome pod = .ok a := by
  unfold failureOf
  cases outcome pod <;> simp

namespace Fleet

variable {fleet : Fleet} {access : PodAccess ω} {command : Command}

/-- **Injection by outcomes.**  Every pending pod is settled by its own outcome and every other one
stays as it is; the failures stand in the order of the pods. -/
theorem inject_of_injects (hnames : fleet.Distinct) {outcome : String → Except Failure Unit}
    {world : ω} (hop : access.Injects fleet world outcome) (start : ℕ) : ∃ T,
    fleet.inject access none start world =
      { fleet := { fleet with targets := fleet.targets.map (·.after outcome) }
        world := (fleet.injection access none start world).world
        ending := .completed T
        result := some (verdict .injection (fleet.pending.filterMap (failureOf outcome))) } := by
  have hpods : fleet.pending.Nodup := hnames.namesIn _
  obtain ⟨T, hcompleted⟩ := exists_completed hpods hop start
  have hresults := resultOf?_fanOut hpods hop start
  refine ⟨T, ?_⟩
  rw [inject_of_completed hcompleted, settle_eq_map hnames, failuresOf_eq_filterMap hnames]
  -- A pod of the fleet has a result exactly if it was pending.
  have htargets : fleet.targets.map
      (·.settled (results (fleet.injection access none start world).log))
        = fleet.targets.map (·.after outcome) := by
    apply List.map_congr_left
    intro t ht
    have hpending : t.name ∈ fleet.pending ↔ t.state = .pending := hnames.mem_namesIn_iff ht
    rw [Target.settled, injection, hresults t.name, Target.after]
    by_cases hstate : t.state = .pending
    · rw [if_pos (hpending.mpr hstate), if_pos hstate]
    · rw [if_neg (mt hpending.mp hstate), if_neg hstate]
  have hfailures : (fleet.targets.map (·.name)).filterMap
      (failureIn (results (fleet.injection access none start world).log))
        = fleet.pending.filterMap (failureOf outcome) := by
    rw [pending, namesIn, List.filterMap_map, List.filterMap_map, List.filterMap_filter]
    apply List.filterMap_congr
    intro t ht
    have hpending : t.name ∈ fleet.pending ↔ t.state = .pending := hnames.mem_namesIn_iff ht
    simp only [Function.comp, failureIn, injection, hresults t.name, decide_eq_true_eq]
    by_cases hstate : t.state = .pending
    · rw [if_pos (hpending.mpr hstate), if_pos hstate, failureOf]
      cases outcome t.name <;> rfl
    · rw [if_neg (mt hpending.mp hstate), if_neg hstate]
  rw [htargets, hfailures]

/-- **Execution by outcomes.**  The failures stand in the order of the pods. -/
theorem exec_of_executes (hnames : fleet.injected.Nodup) (hne : fleet.injected ≠ [])
    {outcome : String → Except Failure String} {world : ω}
    (hop : access.Executes fleet command world outcome) (start : ℕ) : ∃ T,
    fleet.exec access command none start world =
      { fleet
        world := (fleet.execution access command none start world).world
        ending := .completed T
        result := some (verdict .execution (fleet.injected.filterMap (failureOf outcome))) } := by
  obtain ⟨T, hcompleted⟩ := exists_completed hnames hop start
  have hresults := resultOf?_fanOut hnames hop start
  refine ⟨T, ?_⟩
  rw [exec_of_completed hne hcompleted, failuresOf_eq_filterMap hnames]
  have hfailures : fleet.injected.filterMap
      (failureIn (results (fleet.execution access command none start world).log))
        = fleet.injected.filterMap (failureOf outcome) := by
    apply List.filterMap_congr
    intro pod hpod
    rw [failureIn, execution, hresults pod, if_pos hpod, failureOf]
    cases outcome pod <;> rfl
  rw [hfailures]

end Fleet

end FaultInjection
