import FaultInjection.Proofs.Fleet.Reports

/-!
# Namesakes

Pods of a fleet may share a name.  A round of injection then calls such a name several times, but
what came of it is taken by the first of the pods, since its results are gone when a later one is
looked at.  So of the pods of one name only the first ever leaves pending, whatever the rounds so far
have done (`Fleet.FirstOnly`, `single_of_history`).  A command is therefore run once for a name, and
when its results are matched with the pods none of them is missed.
-/

namespace FaultInjection

open Concurrency

variable {α : Type}

/-! ## Matching with repeated names -/

/-- The results that the pods of a list find when they are matched with them one after the other. -/
def lookups : List (String × α) → List String → List (Option α)
  | _, [] => []
  | results, pod :: pods => resultOf? results pod :: lookups (dropResults results pod) pods

/-- The failure of a pod that has found a result. -/
def failureFound (pod : String) : Option (Except Failure α) → Option PodFailure
  | some (.error e) => some ⟨pod, e.message⟩
  | _ => none

/-- The failures of a round are those of the results that are found. -/
theorem failuresOf_eq_lookups (results : List (String × Except Failure α)) (pods : List String) :
    failuresOf results pods =
      (List.zipWith failureFound pods (lookups results pods)).filterMap id := by
  induction pods generalizing results with
  | nil => rfl
  | cons pod pods ih =>
      have hfound : failureFound pod (resultOf? results pod) = failureIn results pod := rfl
      rw [failuresOf_cons, ih, lookups, List.zipWith_cons_cons, hfound, List.filterMap_cons]
      cases failureIn results pod <;> rfl

/-- Of different pods each finds its own result. -/
theorem lookups_eq_map {results : List (String × α)} {pods : List String} (h : pods.Nodup) :
    lookups results pods = pods.map (resultOf? results) := by
  induction pods generalizing results with
  | nil => rfl
  | cons pod pods ih =>
      rw [List.nodup_cons] at h
      rw [lookups, ih h.2, List.map_cons]
      congr 1
      apply List.map_congr_left
      intro pod' hpod'
      exact resultOf?_dropResults_of_ne fun heq => h.1 (heq ▸ hpod')

/-- A target whose name has no results stays as it is. -/
theorem mem_of_mem_settle {results : List (String × Except Failure Unit)} {ts : List Target}
    {u : Target} (hu : u ∈ settle results ts) (hnone : resultOf? results u.name = none) :
    u ∈ ts := by
  induction ts generalizing results with
  | nil => cases hu
  | cons t ts ih =>
      rw [settle_cons, List.mem_cons] at hu
      rcases hu with rfl | hu
      · rw [Target.settled_name] at hnone
        rw [Target.settled, hnone]
        exact List.mem_cons_self
      · refine List.mem_cons_of_mem t (ih hu ?_)
        -- What is dropped for the first target was not there for this one.
        rw [resultOf?_eq_none_iff] at hnone ⊢
        exact fun p hp => hnone p (List.mem_filter.mp hp).1

/-! ## Fleets with namesakes -/

/-- Of the pods of one name only the first has left pending: every later one is pending. -/
def FirstOnly (ts : List Target) : Prop :=
  ts.Pairwise fun t u => u.name = t.name → u.state = .pending

/-- **One round.**  Also after the results of a round only the first of each name is not pending. -/
theorem FirstOnly.settle {ts : List Target} (h : FirstOnly ts)
    (results : List (String × Except Failure Unit)) :
    FirstOnly (FaultInjection.settle results ts) := by
  induction ts generalizing results with
  | nil => exact List.Pairwise.nil
  | cons t ts ih =>
      obtain ⟨hlater, hrest⟩ := List.pairwise_cons.mp h
      rw [settle_cons]
      refine List.pairwise_cons.mpr ⟨?_, ih hrest _⟩
      intro u hu hname
      rw [Target.settled_name] at hname
      -- The results for the name are dropped, so its later pods are those of before.
      refine hlater u (mem_of_mem_settle hu ?_) hname
      rw [hname, resultOf?_dropResults_self]

namespace Fleet

theorem firstOnly_ofNames (names : List String) (timeout : InjectTimeout) (image : String) :
    FirstOnly (ofNames names timeout image).targets :=
  List.pairwise_map.mpr (List.pairwise_of_forall fun _ _ _ => rfl)

/-- The pods that have the agent stand among the pods in their order, -/
theorem injected_sublist (fleet : Fleet) :
    fleet.injected.Sublist (fleet.targets.map (·.name)) :=
  List.filter_sublist.map _

/-- and none of their names comes twice. -/
theorem nodup_injected {fleet : Fleet} (h : FirstOnly fleet.targets) : fleet.injected.Nodup := by
  rw [injected, namesIn, List.Nodup, List.pairwise_map]
  refine (h.filter _).imp_of_mem ?_
  intro t u _ hu hlater hname
  have hinjected : u.state = .injected := by simpa using (List.mem_filter.mp hu).2
  rw [hlater hname.symm] at hinjected
  cases hinjected

end Fleet

/-! ## Rounds of a history -/

namespace Entry

variable {e : Entry} {command : Command} {T : ℕ}

/-- What a command has given in the pods, in the order in which it came. -/
def outputs (e : Entry) (command : Command) : List (String × Except Failure String) :=
  results (e.request.execution e.fleet command).log

/-- A round keeps all but the first pods of each name pending. -/
theorem firstOnly_after (h : FirstOnly e.fleet.targets) : FirstOnly e.after.targets := by
  cases hkind : e.request.kind with
  | execution command => rwa [after_of_execution hkind]
  | injection =>
      rcases after_of_injection hkind with ⟨T, -, -, hafter⟩ | ⟨-, hafter⟩
      · rw [hafter]
        exact h.settle _
      · rwa [hafter]

/-- The fan-out of a command that comes to its end. -/
theorem completed_execution (hkind : e.request.kind = .execution command)
    (hne : e.fleet.injected ≠ []) (h : e.ending = .completed T) :
    (e.request.execution e.fleet command).ending = .completed T := by
  rw [ending, RoundRequest.round, hkind] at h
  exact (Fleet.ending_exec hne).symm.trans h

/-- A command that comes to its end has been run once in each pod with the agent. -/
theorem calls_of_completed (hkind : e.request.kind = .execution command)
    (h : e.ending = .completed T) : e.calls = e.fleet.injected.map command.call := by
  by_cases hnil : e.fleet.injected = []
  · rw [calls_of_injected_nil hkind hnil, hnil, List.map_nil]
  · rw [calls_of_execution hkind hnil, RoundRequest.execution,
      Fleet.starts_execution (completed_execution hkind hnil h)]

/-- It reports the failures of the results that are found. -/
theorem result_of_execution (hkind : e.request.kind = .execution command)
    (hne : e.fleet.injected ≠ []) (h : e.ending = .completed T) :
    e.result = some (Fleet.verdict .execution
      (failuresOf (e.outputs command) e.fleet.injected)) := by
  have hcompleted := completed_execution hkind hne h
  rw [result, RoundRequest.round, hkind]
  exact congrArg Round.result (Fleet.exec_of_completed hne hcompleted)

/-- **A command of which nothing is missed.** -/
structure Matched (e : Entry) (command : Command) : Prop where
  /-- There is one result for each pod with the agent. -/
  outputs : ((e.outputs command).map (·.1)).Perm e.fleet.injected
  /-- Each of them finds a result when they are matched, -/
  found : none ∉ lookups (e.outputs command) e.fleet.injected
  /-- and each result is found by its own pod. -/
  own : ∀ p ∈ e.outputs command,
    (p.1, some p.2) ∈ e.fleet.injected.zip (lookups (e.outputs command) e.fleet.injected)
  /-- What they find tells the result of the round, -/
  result : e.result = some (Fleet.verdict .execution ((List.zipWith failureFound e.fleet.injected
    (lookups (e.outputs command) e.fleet.injected)).filterMap id))
  /-- which reports every failure. -/
  reported : ∀ pod failure, (pod, .error failure) ∈ e.outputs command →
    ∃ failures, e.result = some (.error (.execution failures)) ∧ ⟨pod, failure.message⟩ ∈ failures

theorem matched_of_completed (hnames : e.fleet.injected.Nodup)
    (hkind : e.request.kind = .execution command) (hne : e.fleet.injected ≠ [])
    (h : e.ending = .completed T) : e.Matched command := by
  have houtputs : ((e.outputs command).map (·.1)).Perm e.fleet.injected :=
    Fleet.perm_ends_execution (completed_execution hkind hne h)
  have hcounts : ∀ p ∈ e.outputs command, resultOf? (e.outputs command) p.1 = some p.2 :=
    fun p hp => (consistent_of_nodup (houtputs.nodup_iff.mpr hnames)).resultOf?_eq_some hp
  exact {
    outputs := houtputs
    found := by
      rw [lookups_eq_map hnames, List.mem_map]
      rintro ⟨pod, hpod, hnone⟩
      obtain ⟨p, hp, rfl⟩ := List.mem_map.mp (houtputs.mem_iff.mpr hpod)
      rw [hcounts p hp] at hnone
      cases hnone
    own := by
      intro p hp
      rw [lookups_eq_map hnames, ← List.map_prod_left_eq_zip, List.mem_map]
      exact ⟨p.1, houtputs.mem_iff.mp (List.mem_map_of_mem hp), by rw [hcounts p hp]⟩
    result := by rw [result_of_execution hkind hne h, failuresOf_eq_lookups]
    reported := by
      intro pod failure hfailure
      have hmem : ⟨pod, failure.message⟩ ∈ failuresOf (e.outputs command) e.fleet.injected := by
        rw [failuresOf_eq_filterMap hnames, List.mem_filterMap]
        refine ⟨pod, houtputs.mem_iff.mp (List.mem_map_of_mem hfailure), ?_⟩
        rw [failureIn, hcounts _ hfailure]
      refine ⟨_, ?_, hmem⟩
      rw [result_of_execution hkind hne h, Fleet.verdict, if_neg (List.ne_nil_of_mem hmem)] }

/-- **A round of pods of which some share a name.** -/
structure Single (names : List String) (e : Entry) : Prop where
  /-- The pods and their order do not change. -/
  order : e.fleet.targets.map (·.name) = names ∧ e.after.targets.map (·.name) = names
  /-- Of the pods of one name only the first has left pending. -/
  firstOnly : FirstOnly e.fleet.targets ∧ FirstOnly e.after.targets
  /-- The pods with the agent are some of the pods, in their order and without a repeated name. -/
  injected : (e.fleet.injected.Sublist names ∧ e.fleet.injected.Nodup) ∧
    (e.after.injected.Sublist names ∧ e.after.injected.Nodup)
  /-- No pod is called twice for a command, also if the round is cancelled or never ends. -/
  atMostOnce : e.execPods.Nodup ∧ e.execPods.Sublist e.fleet.injected
  /-- A command that comes to its end has called each pod with the agent once, and no other, -/
  called : ∀ command T, e.request.kind = .execution command → e.ending = .completed T →
    e.calls = e.fleet.injected.map command.call
  /-- and nothing of it is missed. -/
  matched : ∀ command T, e.request.kind = .execution command → e.ending = .completed T →
    e.fleet.injected ≠ [] → e.Matched command

end Entry

/-! ## Whole histories -/

/-- **One of each name.**  In every round of a history, also if names repeat in the fleet, only the
first pod of each name has ever left pending.  So the names with the agent do not repeat, a command
is run once for each of them, and each of its results is found. -/
theorem single_of_history (names : List String) (timeout : InjectTimeout) (image : String)
    (requests : List RoundRequest) :
    ∀ e ∈ history (Fleet.ofNames names timeout image) requests, e.Single names := by
  intro e he
  obtain ⟨past, rest, hhistory⟩ := List.append_of_mem he
  have hbegin : (Fleet.ofNames names timeout image).targets.map (·.name) = names ∧
      FirstOnly (Fleet.ofNames names timeout image).targets :=
    ⟨by simp [Fleet.ofNames, Function.comp_def], Fleet.firstOnly_ofNames names timeout image⟩
  have hfleet : e.fleet.targets.map (·.name) = names ∧ FirstOnly e.fleet.targets := by
    refine @history_induction (fun _ fleet => fleet.targets.map (·.name) = names ∧
      FirstOnly fleet.targets) ?_ _ requests past [] rest e hbegin hhistory
    rintro past e ⟨hsame, hfirst⟩ -
    exact ⟨e.map_name_after.trans hsame, Entry.firstOnly_after hfirst⟩
  obtain ⟨hsame, hfirst⟩ := hfleet
  have hlast := Entry.firstOnly_after hfirst
  have hinjected := Fleet.nodup_injected hfirst
  have hafter : e.after.targets.map (·.name) = names := e.map_name_after.trans hsame
  exact {
    order := ⟨hsame, hafter⟩
    firstOnly := ⟨hfirst, hlast⟩
    injected := ⟨⟨hsame ▸ e.fleet.injected_sublist, hinjected⟩,
      ⟨hafter ▸ e.after.injected_sublist, Fleet.nodup_injected hlast⟩⟩
    atMostOnce := ⟨hinjected.sublist e.execPods_sublist, e.execPods_sublist⟩
    called := fun _ _ hkind hending => Entry.calls_of_completed hkind hending
    matched := fun _ _ hkind hending hne => Entry.matched_of_completed hinjected hkind hne hending }

/-- The fleet of two pods of one name, of which the first has the agent. -/
def twinFleet : Fleet := ⟨[⟨"a", .injected⟩, ⟨"a", .pending⟩], .usual, "agent"⟩

/-- Two rounds of injection leave the second of two namesakes pending, although it was called in
both, and a command is run once. -/
theorem single_twins : ∃ e ∈ history (Fleet.ofNames ["a", "a"] .usual "agent")
    [onlyFirst .injection none, onlyFirst .injection none,
      onlyFirst (.execution ⟨.http, []⟩) none],
    e.fleet = twinFleet ∧ e.execPods = ["a"] ∧ e.Single ["a", "a"] := by
  have hmem : ⟨twinFleet, onlyFirst (.execution ⟨.http, []⟩) none⟩ ∈
      history (Fleet.ofNames ["a", "a"] .usual "agent") [onlyFirst .injection none,
        onlyFirst .injection none, onlyFirst (.execution ⟨.http, []⟩) none] := by
    have hfirst : ((onlyFirst .injection none).round
        (Fleet.ofNames ["a", "a"] .usual "agent")).fleet = twinFleet := by decide +kernel
    have hsecond : ((onlyFirst .injection none).round twinFleet).fleet = twinFleet := by
      decide +kernel
    rw [history, if_neg (by decide +kernel), hfirst, history, if_neg (by decide +kernel), hsecond,
      history]
    simp
  exact ⟨_, hmem, rfl, by decide +kernel, single_of_history _ .usual "agent" _ _ hmem⟩

end FaultInjection
