import FaultInjection.Proofs.Concurrency.Orders
import FaultInjection.Proofs.Fleet.Calls

/-!
# Histories

A fleet goes through a sequence of rounds, each with the cluster as it is by then, and each
cancelled or not.  A round that never ends is the last one.  `Entry.Safe` says what holds of every
round of such a history and those before it, and `safe_of_history` that it does when the pods have
different names: a pod that has been settled stays so, is never called for an injection again, and
is called for a command only after its injection has succeeded.
-/

namespace FaultInjection

open Concurrency

/-! ## Requests -/

/-- The two kinds of rounds. -/
inductive RoundKind where
  | injection
  | execution (command : Command)

/-- A request for a round, with the cluster as it is by then. -/
structure RoundRequest : Type 1 where
  kind : RoundKind
  /-- What is known of the cluster. -/
  World : Type
  access : PodAccess World
  cancelAt : Option ℕ
  start : ℕ
  world : World

namespace RoundRequest

/-- The round of a request. -/
def round (request : RoundRequest) (fleet : Fleet) : Round request.World :=
  match request.kind with
  | .injection => fleet.inject request.access request.cancelAt request.start request.world
  | .execution command =>
    fleet.exec request.access command request.cancelAt request.start request.world

/-- What the round of a request asks of the cluster. -/
def calls (request : RoundRequest) (fleet : Fleet) : List Call :=
  match request.kind with
  | .injection => fleet.injectCalls request.access request.cancelAt request.start request.world
  | .execution command =>
    fleet.execCalls request.access command request.cancelAt request.start request.world

/-- The fan-out of a request for an injection. -/
def injection (request : RoundRequest) (fleet : Fleet) :
    Outcome request.World (Except Failure Unit) :=
  fleet.injection request.access request.cancelAt request.start request.world

/-- The fan-out of a request for a command. -/
def execution (request : RoundRequest) (fleet : Fleet) (command : Command) :
    Outcome request.World (Except Failure String) :=
  fleet.execution request.access command request.cancelAt request.start request.world

/-- The results of the injections of a request, in the order in which they came. -/
def returns (request : RoundRequest) (fleet : Fleet) : List (String × Except Failure Unit) :=
  match request.kind with
  | .injection => results (request.injection fleet).log
  | .execution _ => []

end RoundRequest

/-! ## Entries -/

/-- The pod that a call brings the agent into. -/
def Call.injectPod? : Call → Option String
  | .inject pod _ => some pod
  | _ => none

/-- The pod that a call runs a command in. -/
def Call.execPod? : Call → Option String
  | .exec pod _ _ => some pod
  | _ => none

/-- One entry of a history: a request, and the fleet that it found. -/
structure Entry : Type 1 where
  fleet : Fleet
  request : RoundRequest

namespace Entry

/-- The fleet afterwards. -/
def after (e : Entry) : Fleet := (e.request.round e.fleet).fleet

def ending (e : Entry) : Ending := (e.request.round e.fleet).ending

def Cancelled (e : Entry) : Prop := ∃ T, e.ending = .cancelled T

def calls (e : Entry) : List Call := e.request.calls e.fleet

/-- The pods that were called for an injection, in the order of the calls. -/
def injectPods (e : Entry) : List String := e.calls.filterMap Call.injectPod?

/-- The pods that were called for a command, in the order of the calls. -/
def execPods (e : Entry) : List String := e.calls.filterMap Call.execPod?

/-- An injection of the pod has succeeded. -/
def Returned (e : Entry) (pod : String) : Prop := (pod, .ok ()) ∈ e.request.returns e.fleet

end Entry

/-- **The history of a fleet** under some requests. -/
def history : Fleet → List RoundRequest → List Entry
  | _, [] => []
  | fleet, request :: requests =>
    ⟨fleet, request⟩ ::
      if (request.round fleet).ending = .never then []
      else history (request.round fleet).fleet requests

/-! ## One entry -/

/-- What has been settled in one fleet is the same in another. -/
def Frozen (fleet later : Fleet) : Prop :=
  ∀ (i : ℕ) (t : Target), fleet.targets[i]? = some t → t.state ≠ .pending →
    later.targets[i]? = some t

theorem Frozen.refl (fleet : Fleet) : Frozen fleet fleet := fun _ _ h _ => h

theorem Frozen.trans {fleet later latest : Fleet} (h : Frozen fleet later)
    (h' : Frozen later latest) : Frozen fleet latest :=
  fun i t ht hstate => h' i t (h i t ht hstate) hstate

namespace Entry

variable {e : Entry}

/-- A round of injection leaves the fleet as it is, or settles it by its results. -/
theorem after_of_injection (hkind : e.request.kind = .injection) :
    (∃ T, (e.request.injection e.fleet).ending = .completed T ∧ e.ending = .completed T ∧
      e.after =
        ⟨settle (e.request.returns e.fleet) e.fleet.targets, e.fleet.timeout, e.fleet.image⟩) ∨
    (∀ T, e.ending ≠ .completed T) ∧ e.after = e.fleet := by
  simp only [after, ending, RoundRequest.round, RoundRequest.returns, hkind]
  cases h : (e.request.injection e.fleet).ending with
  | completed T =>
      rw [Fleet.inject_of_completed h]
      exact Or.inl ⟨T, rfl, rfl, rfl⟩
  | cancelled T =>
      rw [Fleet.inject_of_cancelled h]
      exact Or.inr ⟨fun _ h => (nomatch h), rfl⟩
  | never =>
      rw [Fleet.inject_of_never h]
      exact Or.inr ⟨fun _ h => (nomatch h), rfl⟩

/-- A round of execution leaves the fleet as it is. -/
theorem after_of_execution {command : Command} (hkind : e.request.kind = .execution command) :
    e.after = e.fleet := by
  simp only [after, RoundRequest.round, hkind]
  exact Fleet.fleet_exec

/-- The pods keep their names and their order. -/
theorem map_name_after (e : Entry) :
    e.after.targets.map (·.name) = e.fleet.targets.map (·.name) := by
  cases hkind : e.request.kind with
  | injection =>
      rcases after_of_injection hkind with ⟨T, -, -, hafter⟩ | ⟨-, hafter⟩
      · rw [hafter]
        exact map_name_settle _ _
      · rw [hafter]
  | execution command => rw [after_of_execution hkind]

theorem calls_of_injection (hkind : e.request.kind = .injection) :
    e.calls = (starts (e.request.injection e.fleet).log).map e.fleet.injectCall := by
  rw [calls, RoundRequest.calls, hkind]
  exact Fleet.injectCalls_eq

theorem injectPods_of_injection (hkind : e.request.kind = .injection) :
    e.injectPods = starts (e.request.injection e.fleet).log := by
  rw [injectPods, calls_of_injection hkind, List.filterMap_map]
  exact List.filterMap_some

/-- An injection runs no command. -/
theorem execPods_of_injection (hkind : e.request.kind = .injection) : e.execPods = [] := by
  rw [execPods, calls_of_injection hkind, List.filterMap_map]
  exact List.filterMap_eq_nil_iff.mpr fun _ _ => rfl

theorem calls_of_execution {command : Command} (hkind : e.request.kind = .execution command)
    (hne : e.fleet.injected ≠ []) :
    e.calls = (starts (e.request.execution e.fleet command).log).map command.call := by
  rw [calls, RoundRequest.calls, hkind]
  exact Fleet.execCalls_eq hne

theorem calls_of_injected_nil {command : Command} (hkind : e.request.kind = .execution command)
    (hnil : e.fleet.injected = []) : e.calls = [] := by
  rw [calls, RoundRequest.calls, hkind]
  exact Fleet.execCalls_of_nil hnil

/-- A command injects nothing. -/
theorem injectPods_of_execution {command : Command}
    (hkind : e.request.kind = .execution command) : e.injectPods = [] := by
  by_cases hnil : e.fleet.injected = []
  · rw [injectPods, calls_of_injected_nil hkind hnil, List.filterMap_nil]
  · rw [injectPods, calls_of_execution hkind hnil, List.filterMap_map]
    exact List.filterMap_eq_nil_iff.mpr fun _ _ => rfl

/-- Only pending pods are called for an injection, in their order. -/
theorem injectPods_sublist (e : Entry) : e.injectPods.Sublist e.fleet.pending := by
  cases hkind : e.request.kind with
  | injection =>
      rw [injectPods_of_injection hkind]
      exact (starts_fanOut _ _ _ _ _).sublist
  | execution command =>
      rw [injectPods_of_execution hkind]
      exact List.nil_sublist _

/-- Only pods with the agent are called for a command, in their order. -/
theorem execPods_sublist (e : Entry) : e.execPods.Sublist e.fleet.injected := by
  cases hkind : e.request.kind with
  | injection =>
      rw [execPods_of_injection hkind]
      exact List.nil_sublist _
  | execution command =>
      by_cases hnil : e.fleet.injected = []
      · rw [execPods, calls_of_injected_nil hkind hnil, List.filterMap_nil]
        exact List.nil_sublist _
      · have hpods : e.execPods = starts (e.request.execution e.fleet command).log := by
          rw [execPods, calls_of_execution hkind hnil, List.filterMap_map]
          exact List.filterMap_some
        rw [hpods]
        exact (starts_fanOut _ _ _ _ _).sublist

/-- A pod is called for an injection only by a round of injection. -/
theorem kind_of_mem_injectPods {pod : String} (hpod : pod ∈ e.injectPods) :
    e.request.kind = .injection := by
  cases hkind : e.request.kind with
  | injection => rfl
  | execution command =>
      rw [injectPods_of_execution hkind] at hpod
      cases hpod

/-! ## One entry of different pods -/

/-- What a round of injection that completes makes of the pods. -/
theorem after_targets (hnames : e.fleet.Distinct) (hkind : e.request.kind = .injection) {T : ℕ}
    (h : e.ending = .completed T) :
    e.after.targets = e.fleet.targets.map (·.settled (e.request.returns e.fleet)) := by
  rcases after_of_injection hkind with ⟨T, -, -, hafter⟩ | ⟨hnot, -⟩
  · rw [hafter]
    exact settle_eq_map hnames
  · exact absurd h (hnot T)

/-- A round of injection settles each pod by itself: those that were pending by results of their
own, and the others not at all. -/
theorem settled_cases (hnames : e.fleet.Distinct) (hkind : e.request.kind = .injection) {T : ℕ}
    (h : e.ending = .completed T) {t : Target} (ht : t ∈ e.fleet.targets) :
    (t.state ≠ .pending ∧ t.settled (e.request.returns e.fleet) = t) ∨
    (t.state = .pending ∧ t.name ∈ e.injectPods ∧
      ∃ result, (t.name, result) ∈ e.request.returns e.fleet ∧
        t.settled (e.request.returns e.fleet) = { t with state := stateAfter result }) := by
  rcases after_of_injection hkind with ⟨T, hcompleted, -, -⟩ | ⟨hnot, -⟩
  · have hreturns : e.request.returns e.fleet = results (e.request.injection e.fleet).log := by
      rw [RoundRequest.returns, hkind]
    rw [hreturns]
    by_cases hstate : t.state = .pending
    · right
      obtain ⟨result, hresult, heq⟩ := hnames.exists_settled hcompleted ht hstate
      refine ⟨hstate, ?_, result, mem_of_resultOf? hresult, heq⟩
      rw [injectPods_of_injection hkind, RoundRequest.injection,
        Fleet.starts_injection hcompleted]
      exact (hnames.mem_namesIn_iff ht).mpr hstate
    · exact Or.inl ⟨hstate, hnames.settled_eq_self hcompleted ht hstate⟩
  · exact absurd h (hnot T)

/-- A settled pod stays as it is. -/
theorem frozen (hnames : e.fleet.Distinct) : Frozen e.fleet e.after := by
  cases hkind : e.request.kind with
  | execution command =>
      rw [after_of_execution hkind]
      exact Frozen.refl _
  | injection =>
      rcases after_of_injection hkind with ⟨T, -, hending, -⟩ | ⟨-, hafter⟩
      · intro i t ht hstate
        rw [after_targets hnames hkind hending, List.getElem?_map, ht, Option.map_some]
        rcases settled_cases hnames hkind hending (List.mem_of_getElem? ht) with
          ⟨-, heq⟩ | ⟨hpending, -⟩
        · rw [heq]
        · exact absurd hpending hstate
      · rw [hafter]
        exact Frozen.refl _

/-- After a round of injection that completes no pod is pending. -/
theorem pending_after (hnames : e.fleet.Distinct) (hkind : e.request.kind = .injection) {T : ℕ}
    (h : e.ending = .completed T) : e.after.pending = [] := by
  rw [Fleet.pending, Fleet.namesIn, List.map_eq_nil_iff, List.filter_eq_nil_iff,
    after_targets hnames hkind h]
  intro u hu
  obtain ⟨t, ht, rfl⟩ := List.mem_map.mp hu
  rw [decide_eq_true_eq]
  rcases settled_cases hnames hkind h ht with ⟨hstate, heq⟩ | ⟨-, -, result, -, heq⟩
  · rwa [heq]
  · rw [heq]
    cases result <;> simp [stateAfter]

/-- Without a pending pod nothing changes. -/
theorem after_eq_of_pending_nil (hnames : e.fleet.Distinct) (hnil : e.fleet.pending = []) :
    e.after = e.fleet := by
  cases hkind : e.request.kind with
  | execution command => exact after_of_execution hkind
  | injection =>
      rcases after_of_injection hkind with ⟨T, -, hending, hafter⟩ | ⟨-, hafter⟩
      · have htargets : e.after.targets = e.fleet.targets := by
          rw [after_targets hnames hkind hending]
          refine (List.map_congr_left fun t ht => ?_).trans (List.map_id _)
          rcases settled_cases hnames hkind hending ht with ⟨-, heq⟩ | ⟨hstate, -⟩
          · exact heq
          · have hmem := (hnames.mem_namesIn_iff ht).mpr hstate
            rw [← Fleet.pending, hnil] at hmem
            cases hmem
        rw [hafter] at htargets
        have hsame : settle (e.request.returns e.fleet) e.fleet.targets = e.fleet.targets :=
          htargets
        rw [hafter, hsame]
      · exact hafter

/-- A pod that has the agent had it before, or its injection has just succeeded. -/
theorem mem_injected_after (hnames : e.fleet.Distinct) {pod : String}
    (hpod : pod ∈ e.after.injected) : pod ∈ e.fleet.injected ∨
      ((∃ T, e.ending = .completed T) ∧ pod ∈ e.injectPods ∧ e.Returned pod) := by
  cases hkind : e.request.kind with
  | execution command =>
      rw [after_of_execution hkind] at hpod
      exact Or.inl hpod
  | injection =>
      rcases after_of_injection hkind with ⟨T, -, hending, -⟩ | ⟨-, hafter⟩
      · rw [Fleet.injected, Fleet.namesIn, after_targets hnames hkind hending] at hpod
        obtain ⟨u, hu, rfl⟩ := List.mem_map.mp hpod
        obtain ⟨hu, hstate⟩ := List.mem_filter.mp hu
        obtain ⟨t, ht, rfl⟩ := List.mem_map.mp hu
        rw [decide_eq_true_eq] at hstate
        rw [Target.settled_name]
        rcases settled_cases hnames hkind hending ht with
          ⟨-, heq⟩ | ⟨-, hcalled, result, hresult, heq⟩
        · rw [heq] at hstate
          exact Or.inl ((hnames.mem_namesIn_iff ht).mpr hstate)
        · rw [heq] at hstate
          cases result with
          | ok u => exact Or.inr ⟨⟨T, hending⟩, hcalled, hresult⟩
          | error e => cases hstate
      · rw [hafter] at hpod
        exact Or.inl hpod

end Entry

/-! ## Whole histories -/

/-- What is known of a fleet with a past. -/
structure Sound (names : List String) (past : List Entry) (fleet : Fleet) : Prop where
  names : fleet.targets.map (·.name) = names
  /-- What was settled before has stayed the same. -/
  frozen : ∀ u ∈ past, Frozen u.fleet fleet
  /-- After a round of injection that was not cancelled nothing is pending. -/
  settled : ∀ u ∈ past, u.request.kind = .injection → ¬ u.Cancelled → fleet.pending = []
  /-- Every pod with the agent got it in a round that was not cancelled. -/
  injected : ∀ pod ∈ fleet.injected,
    ∃ u ∈ past, ¬ u.Cancelled ∧ pod ∈ u.injectPods ∧ u.Returned pod

theorem sound_ofNames (names : List String) (timeout : InjectTimeout) (image : String) :
    Sound names [] (Fleet.ofNames names timeout image) where
  names := by simp [Fleet.ofNames, Function.comp_def]
  frozen := by simp
  settled := by simp
  injected := by simp [Fleet.injected, Fleet.namesIn, Fleet.ofNames]

/-- A round that ends adds to the past. -/
theorem Sound.step {names : List String} {past : List Entry} {e : Entry} (hnames : names.Nodup)
    (h : Sound names past e.fleet) (hends : e.ending ≠ .never) :
    Sound names (past ++ [e]) e.after := by
  have hdistinct : e.fleet.Distinct := by
    rw [Fleet.Distinct, h.names]
    exact hnames
  refine ⟨(e.map_name_after).trans h.names, ?_, ?_, ?_⟩
  · intro u hu
    rcases List.mem_append.mp hu with hu | hu
    · exact (h.frozen u hu).trans (Entry.frozen hdistinct)
    · rw [List.mem_singleton.mp hu]
      exact Entry.frozen hdistinct
  · intro u hu hkind hcancelled
    rcases List.mem_append.mp hu with hu | hu
    · -- With nothing pending the round changes nothing.
      have hnil := h.settled u hu hkind hcancelled
      rw [Entry.after_eq_of_pending_nil hdistinct hnil, hnil]
    · rw [List.mem_singleton.mp hu] at hkind hcancelled
      cases hending : e.ending with
      | completed T => exact Entry.pending_after hdistinct hkind hending
      | cancelled T => exact absurd ⟨T, hending⟩ hcancelled
      | never => exact absurd hending hends
  · intro pod hpod
    rcases Entry.mem_injected_after hdistinct hpod with hpod | ⟨⟨T, hending⟩, hcalled, hreturned⟩
    · obtain ⟨u, hu, hinjected⟩ := h.injected pod hpod
      exact ⟨u, List.mem_append_left _ hu, hinjected⟩
    · refine ⟨e, by simp, ?_, hcalled, hreturned⟩
      rintro ⟨T', hcancelled⟩
      rw [hending] at hcancelled
      cases hcancelled

/-- **Induction on histories.**  What every round that ends keeps, of the fleet and the rounds
before it, holds at every entry of a history. -/
theorem history_induction {P : List Entry → Fleet → Prop}
    (hstep : ∀ (past : List Entry) (e : Entry), P past e.fleet → e.ending ≠ .never →
      P (past ++ [e]) e.after)
    {fleet : Fleet} {requests : List RoundRequest} {past before rest : List Entry} {e : Entry}
    (h : P before fleet) (hhistory : history fleet requests = past ++ e :: rest) :
    P (before ++ past) e.fleet := by
  -- Each request that the entry leaves behind goes from the requests to what came before.
  induction requests generalizing fleet past before with
  | nil => simp [history] at hhistory
  | cons request requests ih =>
      rw [history] at hhistory
      cases past with
      | nil =>
          obtain ⟨rfl, -⟩ := List.cons.inj hhistory
          rwa [List.append_nil]
      | cons u past =>
          obtain ⟨rfl, hrest⟩ := List.cons.inj hhistory
          split at hrest
          · simp at hrest
          · next hends =>
            rw [List.append_cons]
            exact ih (hstep before ⟨fleet, request⟩ h hends) hrest

/-- **Every fleet of a history** is sound with what came before it. -/
theorem sound_of_history {names : List String} (hnames : names.Nodup) {fleet : Fleet}
    {requests : List RoundRequest} {past before rest : List Entry} {e : Entry}
    (h : Sound names before fleet) (hhistory : history fleet requests = past ++ e :: rest) :
    Sound names (before ++ past) e.fleet :=
  history_induction (fun _ _ hsound hends => hsound.step hnames hends) h hhistory

/-- **A safe round**, after those of the past. -/
structure Entry.Safe (names : List String) (past : List Entry) (e : Entry) : Prop where
  /-- The pods and their order do not change. -/
  names : e.fleet.targets.map (·.name) = names ∧ e.after.targets.map (·.name) = names
  /-- A pod that has been settled stays so, in this round and since every earlier one. -/
  frozen : Frozen e.fleet e.after ∧ ∀ u ∈ past, Frozen u.fleet e.after
  /-- After a round of injection that completes no pod is pending. -/
  settled : e.request.kind = .injection → ∀ T, e.ending = .completed T → e.after.pending = []
  /-- Since a round of injection that was not cancelled no pod is pending, no round changes
  anything, and one of injection calls nothing. -/
  quiet : ∀ u ∈ past, u.request.kind = .injection → ¬ u.Cancelled →
    e.fleet.pending = [] ∧ e.after = e.fleet ∧ (e.request.kind = .injection → e.calls = [])
  /-- A pod is called for an injection once in a round, and again only after cancelled rounds. -/
  once : e.injectPods.Nodup ∧
    ∀ pod ∈ e.injectPods, ∀ u ∈ past, pod ∈ u.injectPods → u.Cancelled
  /-- A pod is called for a command only after its injection has succeeded, in a round that was not
  cancelled. -/
  gated : ∀ pod ∈ e.execPods, ∃ u ∈ past, ¬ u.Cancelled ∧ pod ∈ u.injectPods ∧ u.Returned pod

theorem Sound.safe {names : List String} {past : List Entry} {e : Entry} (hnames : names.Nodup)
    (h : Sound names past e.fleet) : e.Safe names past := by
  have hdistinct : e.fleet.Distinct := by
    rw [Fleet.Distinct, h.names]
    exact hnames
  have hfrozen := Entry.frozen hdistinct
  refine ⟨⟨h.names, (e.map_name_after).trans h.names⟩,
    ⟨hfrozen, fun u hu => (h.frozen u hu).trans hfrozen⟩,
    fun hkind T hending => Entry.pending_after hdistinct hkind hending, ?_,
    ⟨(hdistinct.namesIn _).sublist e.injectPods_sublist, ?_⟩,
    fun pod hpod => h.injected pod (e.execPods_sublist.subset hpod)⟩
  · intro u hu hkind hcancelled
    have hnil := h.settled u hu hkind hcancelled
    refine ⟨hnil, Entry.after_eq_of_pending_nil hdistinct hnil, ?_⟩
    intro hinjection
    have hpods := e.injectPods_sublist
    rw [hnil, List.sublist_nil, Entry.injectPods_of_injection hinjection] at hpods
    rw [Entry.calls_of_injection hinjection, hpods, List.map_nil]
  · -- A pod that is called is pending, and none is after a round that was not cancelled.
    intro pod hpod u hu hpodu
    by_contra hcancelled
    have hpending := e.injectPods_sublist.subset hpod
    rw [h.settled u hu (Entry.kind_of_mem_injectPods hpodu) hcancelled] at hpending
    cases hpending

/-- **Safety of whole histories.**  Every round of the history of a fleet of different pods is safe,
whatever the cluster does in each round. -/
theorem safe_of_history {names : List String} (hnames : names.Nodup) (timeout : InjectTimeout)
    (image : String) (requests : List RoundRequest) {past rest : List Entry} {e : Entry}
    (h : history (Fleet.ofNames names timeout image) requests = past ++ e :: rest) :
    e.Safe names past := by
  have hsound := sound_of_history hnames (sound_ofNames names timeout image) h
  rw [List.nil_append] at hsound
  exact hsound.safe hnames

/-- A request to pods of which only `a` accepts the agent. -/
def onlyFirst (kind : RoundKind) (cancelAt : Option ℕ) : RoundRequest where
  kind
  World := Unit
  access := {
    scope := "default"
    list := fun _ world => (.ok ["a", "b"], world)
    inject := fun pod _ _ =>
      .after 1 (if pod = "a" then .ok () else .error (.notReady pod "refused"))
    exec := fun pod _ _ => .after 1 (.ok pod) }
  cancelAt
  start := 0
  world := ()

/-- A command reaches the pod that has accepted the agent, after a round that was cancelled and one
that was not. -/
theorem safe_onlyFirst : ∃ past e, ["a", "b"].Nodup ∧
    history (Fleet.ofNames ["a", "b"] .usual "agent") [onlyFirst .injection (some 1),
      onlyFirst .injection none, onlyFirst (.execution ⟨.http, []⟩) none] = past ++ e :: [] ∧
    past.map (·.injectPods) = [["a", "b"], ["a", "b"]] ∧ e.execPods = ["a"] ∧
    e.Safe ["a", "b"] past := by
  have hpods : ["a", "b"].Nodup := by decide
  have hhistory : history (Fleet.ofNames ["a", "b"] .usual "agent") [onlyFirst .injection (some 1),
      onlyFirst .injection none, onlyFirst (.execution ⟨.http, []⟩) none] =
        [⟨Fleet.ofNames ["a", "b"] .usual "agent", onlyFirst .injection (some 1)⟩,
          ⟨Fleet.ofNames ["a", "b"] .usual "agent", onlyFirst .injection none⟩] ++
        ⟨⟨[⟨"a", .injected⟩,
            ⟨"b", .failed "Agent container in pod b is not ready: refused"⟩], .usual, "agent"⟩,
          onlyFirst (.execution ⟨.http, []⟩) none⟩ :: [] := by
    have hfirst : ((onlyFirst .injection (some 1)).round
        (Fleet.ofNames ["a", "b"] .usual "agent")).fleet =
          Fleet.ofNames ["a", "b"] .usual "agent" := by decide +kernel
    have hsecond : ((onlyFirst .injection none).round
        (Fleet.ofNames ["a", "b"] .usual "agent")).fleet =
          ⟨[⟨"a", .injected⟩, ⟨"b", .failed "Agent container in pod b is not ready: refused"⟩],
            .usual, "agent"⟩ := by decide +kernel
    rw [history, if_neg (by decide +kernel), hfirst, history, if_neg (by decide +kernel), hsecond,
      history, history, ite_self]
    rfl
  exact ⟨_, _, hpods, hhistory, by decide +kernel, by decide +kernel,
    safe_of_history hpods .usual "agent" _ hhistory⟩

end FaultInjection
