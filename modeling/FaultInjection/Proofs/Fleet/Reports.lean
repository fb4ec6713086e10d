import FaultInjection.Proofs.Fleet.History

/-!
# Reports of failed pods

A round of injection that succeeds speaks of the pods that were pending when it began, and of no
others.  A pod that has failed before is not tried again, so the success says nothing about it
(`not_injected_of_success`).  Over a whole history it is known which pods these are: the failed pods
of a fleet are exactly those that the rounds so far have reported (`mem_failed_of_history`), and a
successful round leaves every other pod with the agent (`accomplished_of_history`).
-/

namespace FaultInjection

open Concurrency

/-! ## Failed pods -/

/-- The failure that a target stands for, if it has failed. -/
def Target.failure? (t : Target) : Option PodFailure :=
  match t.state with
  | .failed reason => some ⟨t.name, reason⟩
  | _ => none

theorem Target.failure?_eq_some_iff {t : Target} {f : PodFailure} :
    t.failure? = some f ↔ t = ⟨f.pod, .failed f.reason⟩ := by
  obtain ⟨name, state⟩ := t
  obtain ⟨pod, reason⟩ := f
  cases state <;> simp [failure?]

/-- The pods of a fleet that have failed, and why. -/
def Fleet.failed (fleet : Fleet) : List PodFailure := fleet.targets.filterMap (·.failure?)

theorem Fleet.mem_failed_iff {fleet : Fleet} {f : PodFailure} :
    f ∈ fleet.failed ↔ ⟨f.pod, .failed f.reason⟩ ∈ fleet.targets := by
  rw [failed, List.mem_filterMap]
  constructor
  · rintro ⟨t, ht, hf⟩
    rwa [← Target.failure?_eq_some_iff.mp hf]
  · intro ht
    exact ⟨_, ht, rfl⟩

/-- Where no pod is pending, all have the agent unless one has failed. -/
theorem Fleet.forall_injected_iff {fleet : Fleet} (hnil : fleet.pending = []) :
    (∀ t ∈ fleet.targets, t.state = .injected) ↔ fleet.failed = [] := by
  have hpending : ∀ t ∈ fleet.targets, t.state ≠ .pending := by
    simpa [Fleet.pending, Fleet.namesIn] using hnil
  rw [failed, List.filterMap_eq_nil_iff]
  refine forall₂_congr fun t ht => ?_
  have hstate := hpending t ht
  unfold Target.failure?
  cases h : t.state with
  | pending => exact absurd h hstate
  | injected => simp
  | failed reason => simp

/-- What a completed round leaves failed is what had failed before, and what fails in it. -/
theorem Fleet.Distinct.failure?_settled_iff {ω : Type} {fleet : Fleet} (hnames : fleet.Distinct)
    {access : PodAccess ω} {cancelAt : Option ℕ} {start T : ℕ} {world : ω}
    (h : (fleet.injection access cancelAt start world).ending = .completed T) {t : Target}
    (ht : t ∈ fleet.targets) {f : PodFailure} :
    (t.settled (results (fleet.injection access cancelAt start world).log)).failure? = some f ↔
      t.failure? = some f ∨
        failureIn (results (fleet.injection access cancelAt start world).log) t.name = some f := by
  by_cases hstate : t.state = .pending
  · obtain ⟨result, hresult, hsettled⟩ := hnames.exists_settled h ht hstate
    have hbefore : t.failure? = none := by rw [Target.failure?, hstate]
    rw [hsettled, hbefore, failureIn, hresult]
    cases result with
    | ok u => simp [Target.failure?, stateAfter]
    | error e => simp [Target.failure?, stateAfter]
  · have hin : failureIn (results (fleet.injection access cancelAt start world).log) t.name
        = none := by
      rw [failureIn, Fleet.Distinct.resultOf?_eq_none hnames h ht hstate]
    rw [hnames.settled_eq_self h ht hstate, hin]
    simp

/-! ## What a round reports -/

theorem Fleet.verdict_eq_error_iff {failure : List PodFailure → Failure}
    {failures : List PodFailure} {e : Failure} :
    verdict failure failures = .error e ↔ failures ≠ [] ∧ failure failures = e := by
  unfold verdict
  split <;> simp_all

namespace Entry

variable {e : Entry}

/-- The result of the round. -/
def result (e : Entry) : Option (Except Failure Unit) := (e.request.round e.fleet).result

/-- The round has reported the failure of a pod. -/
def Reports (e : Entry) (f : PodFailure) : Prop :=
  ∃ failures, e.result = some (.error (.injection failures)) ∧ f ∈ failures

/-- A round of injection has its failures as its result, or was cancelled, or has no result. -/
theorem result_of_injection (hkind : e.request.kind = .injection) :
    (∃ T, e.ending = .completed T ∧ e.result = some (Fleet.verdict .injection
      (failuresOf (e.request.returns e.fleet) (e.fleet.targets.map (·.name))))) ∨
    (∀ T, e.ending ≠ .completed T) ∧
      (e.result = some (.error (.cancelled Fleet.injectionStage)) ∨ e.result = none) := by
  simp only [result, ending, RoundRequest.round, RoundRequest.returns, hkind]
  cases h : (e.request.injection e.fleet).ending with
  | completed T =>
      rw [Fleet.inject_of_completed h]
      exact Or.inl ⟨T, rfl, rfl⟩
  | cancelled T =>
      rw [Fleet.inject_of_cancelled h]
      exact Or.inr ⟨by simp, Or.inl rfl⟩
  | never =>
      rw [Fleet.inject_of_never h]
      exact Or.inr ⟨by simp, Or.inr rfl⟩

/-- A round of execution does not speak of the agent. -/
theorem result_ne_of_execution {command : Command} (hkind : e.request.kind = .execution command)
    (failures : List PodFailure) : e.result ≠ some (.error (.injection failures)) := by
  simp only [result, RoundRequest.round, hkind]
  by_cases hnil : e.fleet.injected = []
  · rw [Fleet.exec_of_nil hnil]
    simp
  · cases h : (e.request.execution e.fleet command).ending with
    | completed T =>
        rw [Fleet.exec_of_completed hnil h]
        simp [Fleet.verdict_eq_error_iff]
    | cancelled T =>
        rw [Fleet.exec_of_cancelled hnil h]
        simp
    | never =>
        rw [Fleet.exec_of_never hnil h]
        simp

/-- Failed pods are reported by completed rounds of injection, and there is always one of them. -/
theorem result_eq_injection_iff {failures : List PodFailure} :
    e.result = some (.error (.injection failures)) ↔
      e.request.kind = .injection ∧ (∃ T, e.ending = .completed T) ∧ failures ≠ [] ∧
        failuresOf (e.request.returns e.fleet) (e.fleet.targets.map (·.name)) = failures := by
  cases hkind : e.request.kind with
  | injection =>
      rcases result_of_injection hkind with ⟨T, hending, hresult⟩ | ⟨hnot, hresult | hresult⟩
      · rw [hresult, Option.some.injEq, Fleet.verdict_eq_error_iff, Failure.injection.injEq]
        constructor
        · rintro ⟨hne, rfl⟩
          exact ⟨rfl, ⟨T, hending⟩, hne, rfl⟩
        · rintro ⟨-, -, hne, rfl⟩
          exact ⟨hne, rfl⟩
      · simp [hresult, hnot]
      · simp [hresult, hnot]
  | execution command => simp [result_ne_of_execution hkind]

/-- A completed round of injection reports every failure in it. -/
theorem reports_iff (hkind : e.request.kind = .injection) {T : ℕ} (h : e.ending = .completed T)
    {f : PodFailure} : e.Reports f ↔
      f ∈ failuresOf (e.request.returns e.fleet) (e.fleet.targets.map (·.name)) := by
  constructor
  · rintro ⟨failures, hresult, hf⟩
    rwa [(result_eq_injection_iff.mp hresult).2.2.2]
  · intro hf
    exact ⟨_, result_eq_injection_iff.mpr ⟨hkind, ⟨T, h⟩, List.ne_nil_of_mem hf, rfl⟩, hf⟩

/-- A successful round of injection has come to its end. -/
theorem exists_completed_of_ok (hkind : e.request.kind = .injection)
    (h : e.result = some (.ok ())) : ∃ T, e.ending = .completed T := by
  rcases result_of_injection hkind with ⟨T, hending, -⟩ | ⟨-, hresult | hresult⟩
  · exact ⟨T, hending⟩
  · rw [hresult] at h
    cases h
  · rw [hresult] at h
    cases h

/-- **One round.**  The failed pods after a round are those that had failed before, and those that
it reports. -/
theorem mem_failed_after (hnames : e.fleet.Distinct) {f : PodFailure} :
    f ∈ e.after.failed ↔ f ∈ e.fleet.failed ∨ e.Reports f := by
  cases hkind : e.request.kind with
  | execution command =>
      have hnone : ¬ e.Reports f := by
        rintro ⟨failures, hresult, -⟩
        exact result_ne_of_execution hkind failures hresult
      rw [after_of_execution hkind]
      simp [hnone]
  | injection =>
      rcases after_of_injection hkind with ⟨T, hcompleted, hending, -⟩ | ⟨hnot, hafter⟩
      · have hreturns : e.request.returns e.fleet = results (e.request.injection e.fleet).log := by
          rw [RoundRequest.returns, hkind]
        rw [reports_iff hkind hending, failuresOf_eq_filterMap hnames, Fleet.failed, Fleet.failed,
          after_targets hnames hkind hending, hreturns]
        -- Each pod by itself: it had failed, or its own operation fails.
        simp only [List.filterMap_map, List.mem_filterMap, Function.comp_apply, ← exists_or,
          ← and_or_left]
        refine exists_congr fun t => and_congr_right fun ht => ?_
        exact hnames.failure?_settled_iff hcompleted ht
      · have hnone : ¬ e.Reports f := by
          rintro ⟨failures, hresult, -⟩
          obtain ⟨T, hending⟩ := (result_eq_injection_iff.mp hresult).2.1
          exact hnot T hending
        rw [hafter]
        simp [hnone]

end Entry

/-! ## Whole histories -/

/-- **The failed pods of a history** are exactly those that its rounds have reported. -/
theorem mem_failed_of_history {names : List String} (hnames : names.Nodup)
    (timeout : InjectTimeout) (image : String) {requests : List RoundRequest}
    {past rest : List Entry} {e : Entry}
    (h : history (Fleet.ofNames names timeout image) requests = past ++ e :: rest)
    (f : PodFailure) : f ∈ e.fleet.failed ↔ ∃ u ∈ past, u.Reports f := by
  -- The names come along in the induction, since a round settles its pods by them.
  have hboth : e.fleet.targets.map (·.name) = names ∧
      ∀ f, f ∈ e.fleet.failed ↔ ∃ u ∈ [] ++ past, u.Reports f := by
    refine history_induction (P := fun before fleet => fleet.targets.map (·.name) = names ∧
      ∀ f, f ∈ fleet.failed ↔ ∃ u ∈ before, u.Reports f) ?_ ?_ h
    · rintro before e ⟨hsame, hfailed⟩ -
      have hdistinct : e.fleet.Distinct := by
        rw [Fleet.Distinct, hsame]
        exact hnames
      refine ⟨(e.map_name_after).trans hsame, fun f => ?_⟩
      rw [Entry.mem_failed_after hdistinct, hfailed f]
      simp [or_and_right, exists_or]
    · simp [Fleet.ofNames, Fleet.failed, Target.failure?, Function.comp_def]
  exact hboth.2 f

/-- **What a successful round leaves behind**, after those of the past. -/
structure Entry.Accomplished (past : List Entry) (e : Entry) : Prop where
  /-- Nothing is left to do. -/
  settled : e.after.pending = []
  /-- The pods without the agent are those that an earlier round has reported, and they have failed
  for the reason that was reported. -/
  failed : ∀ f : PodFailure,
    ⟨f.pod, .failed f.reason⟩ ∈ e.after.targets ↔ ∃ u ∈ past, u.Reports f
  /-- Every pod has the agent exactly if no earlier round has reported failures. -/
  injected : (∀ t ∈ e.after.targets, t.state = .injected) ↔
    ∀ u ∈ past, ∀ failures, u.result ≠ some (.error (.injection failures))

/-- **All or nothing.**  When a round of injection succeeds, every pod of the fleet has the agent,
except those that the rounds before it have reported as failed. -/
theorem accomplished_of_history {names : List String} (hnames : names.Nodup)
    (timeout : InjectTimeout) (image : String) (requests : List RoundRequest)
    {past rest : List Entry} {e : Entry}
    (h : history (Fleet.ofNames names timeout image) requests = past ++ e :: rest)
    (hkind : e.request.kind = .injection) (hok : e.result = some (.ok ())) :
    e.Accomplished past := by
  have hdistinct : e.fleet.Distinct := by
    rw [Fleet.Distinct, (sound_of_history hnames (sound_ofNames names timeout image) h).names]
    exact hnames
  obtain ⟨T, hending⟩ := Entry.exists_completed_of_ok hkind hok
  have hsettled : e.after.pending = [] := Entry.pending_after hdistinct hkind hending
  -- A round that succeeds reports nothing, so its failed pods are those of the past.
  have hfailed : ∀ f, f ∈ e.after.failed ↔ ∃ u ∈ past, u.Reports f := by
    intro f
    have hnone : ¬ e.Reports f := by
      rintro ⟨failures, hresult, -⟩
      rw [hok] at hresult
      cases hresult
    rw [Entry.mem_failed_after hdistinct, mem_failed_of_history hnames timeout image h f]
    simp [hnone]
  refine ⟨hsettled, fun f => ?_, ?_⟩
  · rw [← hfailed f, Fleet.mem_failed_iff]
  · rw [Fleet.forall_injected_iff hsettled, List.eq_nil_iff_forall_not_mem]
    constructor
    · intro hnil u hu failures hresult
      obtain ⟨f, hf⟩ := List.exists_mem_of_ne_nil _ (Entry.result_eq_injection_iff.mp hresult).2.2.1
      exact hnil f ((hfailed f).mpr ⟨u, hu, failures, hresult, hf⟩)
    · intro hall f hf
      obtain ⟨u, hu, failures, hresult, -⟩ := (hfailed f).mp hf
      exact hall u hu failures hresult

/-! ## A pod that stays failed -/

/-- The fleet of two pods of which one has refused the agent. -/
def refusedFleet : Fleet :=
  ⟨[⟨"a", .injected⟩, ⟨"b", .failed "Agent container in pod b is not ready: refused"⟩], .usual,
    "agent"⟩

/-- The agent is brought into two pods, one refuses it, and it is asked for once more. -/
theorem history_refused :
    history (Fleet.ofNames ["a", "b"] .usual "agent")
        [onlyFirst .injection none, onlyFirst .injection none] =
      [⟨Fleet.ofNames ["a", "b"] .usual "agent", onlyFirst .injection none⟩] ++
        ⟨refusedFleet, onlyFirst .injection none⟩ :: [] := by
  have hfirst : ((onlyFirst .injection none).round (Fleet.ofNames ["a", "b"] .usual "agent")).fleet
      = refusedFleet := by decide +kernel
  rw [history, if_neg (by decide +kernel), hfirst, history, history, ite_self]
  rfl

/-- The second round has nothing to do and succeeds. -/
theorem result_refused :
    (Entry.mk refusedFleet (onlyFirst .injection none)).result = some (.ok ()) := by
  decide +kernel

/-- The success of the second round leaves out the pod that the first one has reported. -/
theorem accomplished_refused : ∃ past e, ["a", "b"].Nodup ∧
    history (Fleet.ofNames ["a", "b"] .usual "agent")
      [onlyFirst .injection none, onlyFirst .injection none] = past ++ e :: [] ∧
    e.request.kind = .injection ∧ e.result = some (.ok ()) ∧ e.Accomplished past ∧
    ∃ u ∈ past, u.Reports ⟨"b", "Agent container in pod b is not ready: refused"⟩ := by
  have hpods : ["a", "b"].Nodup := by decide
  have haccomplished := accomplished_of_history hpods .usual "agent" _ history_refused rfl
    result_refused
  refine ⟨_, _, hpods, history_refused, rfl, result_refused, haccomplished, ?_⟩
  exact (haccomplished.failed _).mp (by decide +kernel)

/-- A round of injection can succeed while a pod of the fleet is without the agent. -/
theorem not_injected_of_success : ¬ ∀ (names : List String) (timeout : InjectTimeout)
    (image : String) (requests : List RoundRequest) (past rest : List Entry) (e : Entry),
    names.Nodup → history (Fleet.ofNames names timeout image) requests = past ++ e :: rest →
      e.request.kind = .injection → e.result = some (.ok ()) →
        ∀ t ∈ e.after.targets, t.state = .injected := by
  intro hall
  have hinjected := hall ["a", "b"] .usual "agent" _ _ _ _ (by decide) history_refused rfl
    result_refused
  have hfailed : ∃ t ∈ (Entry.mk refusedFleet (onlyFirst .injection none)).after.targets,
      t.state ≠ .injected := by decide +kernel
  obtain ⟨t, ht, hstate⟩ := hfailed
  exact hstate (hinjected t ht)

end FaultInjection
