import FaultInjection.Disruption
import FaultInjection.Proofs.Fleet.Cancellation
import FaultInjection.Proofs.Fleet.History

/-!
# Preparation

A disruption is prepared in four stages: its selector is checked, then the namespace, the pods are
listed, and the agent is brought into all of them.  It fails closed (`Preparation.FailClosed`): it
is ready only after every stage, its failure is that of the first stage that fails, and until then
nothing that belongs to a later stage has been asked of the cluster.
-/

namespace FaultInjection

open Concurrency

variable {ω : Type}

/-! ## Preparations -/

/-- Everything that a preparation is about. -/
structure Preparation (ω : Type) where
  access : PodAccess ω
  selector : Selector
  timeout : InjectTimeout
  image : String
  cancelAt : Option ℕ
  start : ℕ
  world : ω

namespace Preparation

/-- What is prepared. -/
def prepared (p : Preparation ω) : Prepared ω :=
  Disruption.prepare p.access p.selector p.timeout p.image p.cancelAt p.start p.world

/-- The preparation that notes what it asks of the cluster. -/
def recorded (p : Preparation ω) : Preparation (ω × List Call) :=
  { access := p.access.recorded, selector := p.selector, timeout := p.timeout, image := p.image
    cancelAt := p.cancelAt, start := p.start, world := (p.world, []) }

/-- What the preparation asks of the cluster. -/
def calls (p : Preparation ω) : List Call := p.recorded.prepared.world.2

/-- What the cluster lists for the selector. -/
def listing (p : Preparation ω) : Except Failure (List String) × ω :=
  p.access.list p.selector.filter p.world

/-- The pods that were listed, before anything has happened to them. -/
def fleet (p : Preparation ω) (names : List String) : Fleet :=
  Fleet.ofNames names p.timeout p.image

/-- The injection of the pods that were listed, without a cancellation. -/
def rollout (p : Preparation ω) (names : List String) : Outcome ω (Except Failure Unit) :=
  (p.fleet names).injection p.access none p.start p.listing.2

/-- The selector asks for something, and for pods of the namespace that can be reached. -/
def Admitted (p : Preparation ω) : Prop :=
  p.selector.isUnrestricted = false ∧ p.access.scope = p.selector.scopeOrDefault

/-! ## Stages -/

section

variable {p : Preparation ω} {names : List String} {e : Failure} {T c : ℕ}

theorem prepared_of_unrestricted (h : p.selector.isUnrestricted = true) :
    p.prepared = ⟨p.world, .completed p.start, some (.error (.selector
      "namespace, select and exclude attributes in pod selector cannot all be empty"))⟩ := by
  simp only [prepared, Disruption.prepare, Selector.validate, h, if_true]

theorem prepared_of_mismatch (h : p.selector.isUnrestricted = false)
    (hscope : p.access.scope ≠ p.selector.scopeOrDefault) :
    p.prepared = ⟨p.world, .completed p.start, some (.error
      (Disruption.mismatch p.selector.scopeOrDefault p.access.scope))⟩ := by
  simp [prepared, Disruption.prepare, Selector.validate, h, hscope]

theorem prepared_of_unlisted (h : p.Admitted) (hlisting : p.listing.1 = .error e) :
    p.prepared = ⟨p.listing.2, .completed p.start, some (.error e)⟩ := by
  have hlist : p.access.list p.selector.filter p.world = (.error e, p.listing.2) :=
    Prod.ext hlisting rfl
  simp [prepared, Disruption.prepare, Selector.targets, Selector.validate, h.1, h.2, hlist]

theorem prepared_of_listed (h : p.Admitted) (hlisting : p.listing.1 = .ok names) :
    p.prepared =
      let round := (p.fleet names).inject p.access p.cancelAt p.start p.listing.2
      ⟨round.world, round.ending, round.result.map fun r => r.map fun _ => round.fleet⟩ := by
  have hlist : p.access.list p.selector.filter p.world = (.ok names, p.listing.2) :=
    Prod.ext hlisting rfl
  simp [prepared, Disruption.prepare, Selector.targets, Selector.validate, h.1, h.2, hlist, fleet]

theorem map_name_fleet (p : Preparation ω) (names : List String) :
    (p.fleet names).targets.map (·.name) = names := by
  simp [fleet, Fleet.ofNames, Function.comp_def]

theorem pending_fleet (p : Preparation ω) (names : List String) :
    (p.fleet names).pending = names := by
  simp [fleet, Fleet.ofNames, Fleet.pending, Fleet.namesIn, List.filter_map, Function.comp_def]

/-! ## The last stage -/

/-- The injection is over before it is cancelled; a cancellation at the same time comes first. -/
def Finishes (p : Preparation ω) (names : List String) (T : ℕ) : Prop :=
  (p.rollout names).ending = .completed T ∧ ∀ c, p.cancelAt = some c → T < c

/-- The failures of the injection, in the order of the pods. -/
def failures (p : Preparation ω) (names : List String) : List PodFailure :=
  failuresOf (results (p.rollout names).log) names

/-- The pods after the injection. -/
def settled (p : Preparation ω) (names : List String) : Fleet :=
  ⟨settle (results (p.rollout names).log) (p.fleet names).targets, p.timeout, p.image⟩

theorem result_of_finishes (h : p.Admitted) (hlisting : p.listing.1 = .ok names)
    (hfinishes : p.Finishes names T) : p.prepared.result =
      some ((Fleet.verdict .injection (p.failures names)).map fun _ => p.settled names) := by
  -- A cancellation after the end changes nothing.
  have hround : (p.fleet names).inject p.access p.cancelAt p.start p.listing.2 =
      (p.fleet names).inject p.access none p.start p.listing.2 := by
    cases hcancel : p.cancelAt with
    | none => rfl
    | some c =>
        exact (Fleet.inject_some_of_lt (Fleet.ending_inject.trans hfinishes.1)
          (hfinishes.2 c hcancel)).1
  rw [prepared_of_listed h hlisting, hround, Fleet.inject_of_completed hfinishes.1, map_name_fleet]
  rfl

theorem result_of_cancelled (h : p.Admitted) (hlisting : p.listing.1 = .ok names)
    (hcancel : p.cancelAt = some c)
    (hlate : c ≤ p.start ∨ ∀ T, (p.rollout names).ending = .completed T → c ≤ T) :
    p.prepared.result = some (.error (.cancelled Fleet.injectionStage)) := by
  have habandoned : ((p.fleet names).inject p.access (some c) p.start p.listing.2).Abandoned
      (p.fleet names) Fleet.injectionStage (max p.start c) :=
    (Fleet.inject_some_of_le (by rwa [Fleet.ending_inject])).1
  rw [prepared_of_listed h hlisting, hcancel]
  simp only [habandoned.result]
  rfl

theorem result_of_never (h : p.Admitted) (hlisting : p.listing.1 = .ok names)
    (hcancel : p.cancelAt = none) (hnever : (p.rollout names).ending = .never) :
    p.prepared.result = none := by
  rw [prepared_of_listed h hlisting, hcancel, Fleet.inject_of_never hnever]
  rfl

/-- The injection is over before a cancellation, or is cancelled, or never ends. -/
theorem finishes_or (p : Preparation ω) (names : List String) :
    (∃ T, p.Finishes names T) ∨
    (∃ c, p.cancelAt = some c ∧
      (c ≤ p.start ∨ ∀ T, (p.rollout names).ending = .completed T → c ≤ T)) ∨
    (p.cancelAt = none ∧ (p.rollout names).ending = .never) := by
  cases hending : (p.rollout names).ending with
  | completed T =>
      cases hcancel : p.cancelAt with
      | none => exact Or.inl ⟨T, hending, by simp [hcancel]⟩
      | some c =>
          by_cases hlt : T < c
          · left
            refine ⟨T, hending, ?_⟩
            intro c' hc'
            rw [hcancel] at hc'
            obtain rfl := Option.some.inj hc'
            exact hlt
          · right; left
            refine ⟨c, rfl, Or.inr ?_⟩
            intro T' hT'
            rw [← Ending.completed.inj hT']
            exact not_lt.mp hlt
  | cancelled c => exact absurd hending (ending_ne_cancelled _ _ _ _ _)
  | never =>
      cases hcancel : p.cancelAt with
      | none => exact Or.inr (Or.inr ⟨rfl, rfl⟩)
      | some c => exact Or.inr (Or.inl ⟨c, rfl, Or.inr fun T hT => (nomatch hT)⟩)

/-! ## Calls -/

theorem calls_of_unrestricted (h : p.selector.isUnrestricted = true) : p.calls = [] := by
  rw [calls, prepared_of_unrestricted (p := p.recorded) h]
  rfl

theorem calls_of_mismatch (h : p.selector.isUnrestricted = false)
    (hscope : p.access.scope ≠ p.selector.scopeOrDefault) : p.calls = [] := by
  rw [calls, prepared_of_mismatch (p := p.recorded) h hscope]
  rfl

theorem calls_of_unlisted (h : p.Admitted) (hlisting : p.listing.1 = .error e) :
    p.calls = [.list] := by
  rw [calls, prepared_of_unlisted (p := p.recorded) h hlisting]
  rfl

/-- With pods listed, the listing is followed by injections only, in the order of the pods. -/
theorem calls_of_listed (h : p.Admitted) (hlisting : p.listing.1 = .ok names) :
    ∃ pods, pods <+: names ∧ p.calls = .list :: pods.map (p.fleet names).injectCall := by
  refine ⟨starts ((p.fleet names).injection p.access p.cancelAt p.start p.listing.2).log, ?_, ?_⟩
  · have hstarts : starts ((p.fleet names).injection p.access p.cancelAt p.start p.listing.2).log
        <+: (p.fleet names).pending := starts_fanOut _ _ _ _ _
    rwa [pending_fleet] at hstarts
  · have hrecorded : p.recorded.listing.2 = (p.listing.2, [.list]) := rfl
    rw [calls, prepared_of_listed (p := p.recorded) h hlisting, hrecorded]
    exact congrArg (·.world.2)
      (Fleet.inject_recorded (p.fleet names) p.access p.cancelAt p.start p.listing.2 [.list])

end

/-! ## Failing closed -/

/-- **Ready.**  What it takes for a disruption to be ready. -/
structure Ready (p : Preparation ω) : Prop where
  /-- The selector asks for something. -/
  restricted : p.selector.scope ≠ "" ∨ p.selector.select.isEmpty = false ∨
    p.selector.exclude.isEmpty = false
  /-- It asks for pods of the namespace that can be reached. -/
  reached : p.access.scope =
    if p.selector.scope = "" then Selector.defaultScope else p.selector.scope
  /-- The pods are listed, the injection is over before it is cancelled, and it has succeeded for
  each of them. -/
  injected : ∃ names T, p.listing.1 = .ok names ∧ p.Finishes names T ∧
    (results (p.rollout names).log).Perm (names.map fun pod => (pod, .ok ()))

/-- The calls for one pod do not differ in their results. -/
def PerPod (p : Preparation ω) : Prop :=
  ∀ names, p.listing.1 = .ok names → Consistent (results (p.rollout names).log)

/-- **Failing closed.** -/
structure FailClosed (p : Preparation ω) : Prop where
  /-- There is a disruption exactly if everything that it takes is there. -/
  ready : p.PerPod → ((∃ fleet, p.prepared.result = some (.ok fleet)) ↔ p.Ready)
  /-- Also if the calls for one pod differ, it takes an injection without failures. -/
  closed : (∃ fleet, p.prepared.result = some (.ok fleet)) ↔ p.Admitted ∧
    ∃ names T, p.listing.1 = .ok names ∧ p.Finishes names T ∧ p.failures names = []
  /-- Its pods are those that were listed, in their order. -/
  targets : ∀ names fleet, p.listing.1 = .ok names → names.Nodup →
    p.prepared.result = some (.ok fleet) → fleet.injected = names
  /-- A selector that asks for nothing is refused before anything is asked of the cluster. -/
  unrestricted : p.selector.isUnrestricted = true →
    p.prepared.result = some (.error (.selector
      "namespace, select and exclude attributes in pod selector cannot all be empty")) ∧
    p.calls = []
  /-- So is one for another namespace. -/
  mismatched : p.selector.isUnrestricted = false → p.access.scope ≠ p.selector.scopeOrDefault →
    p.prepared.result =
      some (.error (Disruption.mismatch p.selector.scopeOrDefault p.access.scope)) ∧
    p.calls = []
  /-- Without a list nothing is injected. -/
  unlisted : p.Admitted → ∀ e, p.listing.1 = .error e →
    p.prepared.result = some (.error e) ∧ p.calls = [.list]
  /-- A cancellation before the end of the injection is reported. -/
  cancelled : p.Admitted → ∀ names c, p.listing.1 = .ok names → p.cancelAt = some c →
    (c ≤ p.start ∨ ∀ T, (p.rollout names).ending = .completed T → c ≤ T) →
    p.prepared.result = some (.error (.cancelled Fleet.injectionStage))
  /-- So are failures of the injection. -/
  failed : p.Admitted → ∀ names T, p.listing.1 = .ok names → p.Finishes names T →
    p.failures names ≠ [] → p.prepared.result = some (.error (.injection (p.failures names)))
  /-- There is no result of an injection that neither ends nor is cancelled. -/
  never : p.Admitted → ∀ names, p.listing.1 = .ok names → p.cancelAt = none →
    (p.rollout names).ending = .never → p.prepared.result = none
  /-- The listing is followed by injections only, each of a pod that was listed. -/
  listed : p.Admitted → ∀ names, p.listing.1 = .ok names →
    ∃ pods, pods <+: names ∧ p.calls = .list :: pods.map (p.fleet names).injectCall
  /-- No command is run. -/
  noExec : ∀ call ∈ p.calls, call.execPod? = none

section

variable {p : Preparation ω} {names : List String} {T : ℕ}

theorem isUnrestricted_eq_false_iff {s : Selector} : s.isUnrestricted = false ↔
    s.scope ≠ "" ∨ s.select.isEmpty = false ∨ s.exclude.isEmpty = false := by
  simp [Selector.isUnrestricted, imp_iff_not_or, or_assoc]

/-- An injection that is over has a result for each of the pods. -/
theorem perm_ends_of_finishes (h : p.Finishes names T) :
    (ends (p.rollout names).log).Perm names := by
  have hends := Fleet.perm_ends_injection h.1
  rwa [pending_fleet] at hends

/-- Of different pods each one has a single call. -/
theorem perPod_of_nodup (h : ∀ names, p.listing.1 = .ok names → names.Nodup) : p.PerPod := by
  intro names hlisting
  have hpods : (p.fleet names).pending.Nodup := by
    rw [pending_fleet]
    exact h names hlisting
  exact consistent_of_nodup (nodup_ends _ hpods _ _)

/-- It is without failures if it has succeeded for each of them. -/
theorem failures_eq_nil_iff (h : p.Finishes names T)
    (hconsistent : Consistent (results (p.rollout names).log)) : p.failures names = [] ↔
      (results (p.rollout names).log).Perm (names.map fun pod => (pod, .ok ())) := by
  have hends := perm_ends_of_finishes h
  rw [failures, hconsistent.failuresOf_eq_nil_iff hends]
  constructor
  · intro hall
    have hresults : results (p.rollout names).log =
        (ends (p.rollout names).log).map fun pod => (pod, .ok ()) :=
      results_eq_map_ends fun q hq => (hall q hq).choose_spec
    rw [hresults]
    exact hends.map _
  · intro hperm q hq
    obtain ⟨pod, -, rfl⟩ := List.mem_map.mp (hperm.mem_iff.mp hq)
    exact ⟨(), rfl⟩

/-- Different pods all have the agent when there are no failures. -/
theorem injected_settled (hnames : names.Nodup) (h : p.Finishes names T)
    (hnil : p.failures names = []) : (p.settled names).injected = names := by
  have hdistinct : (p.fleet names).Distinct := by
    rw [Fleet.Distinct, map_name_fleet]
    exact hnames
  have hsettled : (p.settled names).targets = names.map fun name => ⟨name, .injected⟩ := by
    have htargets : (p.fleet names).targets = names.map fun name => ⟨name, .pending⟩ := rfl
    rw [settled, settle_eq_map hdistinct, htargets, List.map_map]
    apply List.map_congr_left
    intro name hname
    have ht : (⟨name, .pending⟩ : Target) ∈ (p.fleet names).targets := by
      rw [htargets]
      exact List.mem_map_of_mem hname
    obtain ⟨result, hresult, heq⟩ := hdistinct.exists_settled h.1 ht rfl
    -- The result that settles the pod is no failure.
    have hfailure := failuresOf_eq_nil_iff.mp hnil name hname
    rw [failureIn, rollout, hresult] at hfailure
    rw [Function.comp_apply, rollout, heq]
    cases result with
    | ok u => rfl
    | error e => cases hfailure
  simp [Fleet.injected, Fleet.namesIn, hsettled, List.filter_map, Function.comp_def]

/-- A disruption comes of an injection that is over before a cancellation and has no failures. -/
theorem exists_of_result_ok {fleet : Fleet} (h : p.prepared.result = some (.ok fleet)) :
    p.Admitted ∧ ∃ names T, p.listing.1 = .ok names ∧ p.Finishes names T ∧
      p.failures names = [] ∧ fleet = p.settled names := by
  cases hrestricted : p.selector.isUnrestricted with
  | true =>
      rw [prepared_of_unrestricted hrestricted] at h
      cases h
  | false =>
      by_cases hscope : p.access.scope = p.selector.scopeOrDefault
      · have hadmitted : p.Admitted := ⟨hrestricted, hscope⟩
        refine ⟨hadmitted, ?_⟩
        cases hlisting : p.listing.1 with
        | error e =>
            rw [prepared_of_unlisted hadmitted hlisting] at h
            cases h
        | ok names =>
            rcases p.finishes_or names with ⟨T, hfinishes⟩ | ⟨c, hcancel, hlate⟩ | ⟨hcancel, hnever⟩
            · rw [result_of_finishes hadmitted hlisting hfinishes, Fleet.verdict] at h
              split at h
              · next hnil => exact ⟨names, T, rfl, hfinishes, hnil, by cases h; rfl⟩
              · cases h
            · rw [result_of_cancelled hadmitted hlisting hcancel hlate] at h
              cases h
            · rw [result_of_never hadmitted hlisting hcancel hnever] at h
              cases h
      · rw [prepared_of_mismatch hrestricted hscope] at h
        cases h

/-- There is a disruption exactly if the selector is admitted, pods are listed, and their injection
is over before it is cancelled and has no failures. -/
theorem exists_ok_iff (p : Preparation ω) : (∃ fleet, p.prepared.result = some (.ok fleet)) ↔
    p.Admitted ∧ ∃ names T, p.listing.1 = .ok names ∧ p.Finishes names T ∧
      p.failures names = [] := by
  constructor
  · rintro ⟨fleet, hresult⟩
    obtain ⟨hadmitted, names, T, hlisting, hfinishes, hnil, -⟩ := exists_of_result_ok hresult
    exact ⟨hadmitted, names, T, hlisting, hfinishes, hnil⟩
  · rintro ⟨hadmitted, names, T, hlisting, hfinishes, hnil⟩
    refine ⟨p.settled names, ?_⟩
    rw [result_of_finishes hadmitted hlisting hfinishes, hnil]
    rfl

/-- Where the calls for one pod do not differ, no failures means that every call has succeeded. -/
theorem ready_iff (hper : p.PerPod) : p.Ready ↔
    p.Admitted ∧ ∃ names T, p.listing.1 = .ok names ∧ p.Finishes names T ∧
      p.failures names = [] := by
  constructor
  · rintro ⟨hrestricted, hscope, names, T, hlisting, hfinishes, hperm⟩
    exact ⟨⟨isUnrestricted_eq_false_iff.mpr hrestricted, hscope⟩, names, T, hlisting, hfinishes,
      (failures_eq_nil_iff hfinishes (hper names hlisting)).mpr hperm⟩
  · rintro ⟨⟨hrestricted, hscope⟩, names, T, hlisting, hfinishes, hnil⟩
    exact ⟨isUnrestricted_eq_false_iff.mp hrestricted, hscope, names, T, hlisting, hfinishes,
      (failures_eq_nil_iff hfinishes (hper names hlisting)).mp hnil⟩

/-- Nothing that a preparation asks of the cluster is a command. -/
theorem execPod?_of_mem_calls {call : Call} (hcall : call ∈ p.calls) : call.execPod? = none := by
  cases hrestricted : p.selector.isUnrestricted with
  | true =>
      rw [calls_of_unrestricted hrestricted] at hcall
      cases hcall
  | false =>
      by_cases hscope : p.access.scope = p.selector.scopeOrDefault
      · cases hlisting : p.listing.1 with
        | error e =>
            rw [calls_of_unlisted ⟨hrestricted, hscope⟩ hlisting, List.mem_singleton] at hcall
            rw [hcall]
            rfl
        | ok names =>
            obtain ⟨pods, -, hcalls⟩ := calls_of_listed ⟨hrestricted, hscope⟩ hlisting
            rw [hcalls, List.mem_cons] at hcall
            rcases hcall with rfl | hcall
            · rfl
            · obtain ⟨pod, -, rfl⟩ := List.mem_map.mp hcall
              rfl
      · rw [calls_of_mismatch hrestricted hscope] at hcall
        cases hcall

end

end Preparation

/-- **Preparation fails closed**, whatever the cluster lists and whatever becomes of the
injections. -/
theorem preparation_failClosed (p : Preparation ω) : p.FailClosed where
  ready := fun hper => p.exists_ok_iff.trans (Preparation.ready_iff hper).symm
  closed := p.exists_ok_iff
  targets := by
    intro names fleet hlisting hnames hresult
    obtain ⟨-, names', T, hlisting', hfinishes, hnil, rfl⟩ :=
      Preparation.exists_of_result_ok hresult
    rw [hlisting] at hlisting'
    obtain rfl := Except.ok.inj hlisting'
    exact Preparation.injected_settled hnames hfinishes hnil
  unrestricted := by
    intro h
    rw [Preparation.prepared_of_unrestricted h]
    exact ⟨rfl, Preparation.calls_of_unrestricted h⟩
  mismatched := by
    intro h hscope
    rw [Preparation.prepared_of_mismatch h hscope]
    exact ⟨rfl, Preparation.calls_of_mismatch h hscope⟩
  unlisted := by
    intro h e hlisting
    rw [Preparation.prepared_of_unlisted h hlisting]
    exact ⟨rfl, Preparation.calls_of_unlisted h hlisting⟩
  cancelled := fun h _ _ hlisting hcancel hlate =>
    Preparation.result_of_cancelled h hlisting hcancel hlate
  failed := by
    intro h names T hlisting hfinishes hne
    rw [Preparation.result_of_finishes h hlisting hfinishes, Fleet.verdict, if_neg hne]
    rfl
  never := fun h _ hlisting hcancel hnever =>
    Preparation.result_of_never h hlisting hcancel hnever
  listed := fun h _ hlisting => Preparation.calls_of_listed h hlisting
  noExec := fun _ hcall => Preparation.execPod?_of_mem_calls hcall

/-- Three pods, of which two are for the web. -/
def webPods : List (String × Labels) :=
  [("web-a", .ofList [("app", "web")]), ("db", .empty), ("web-b", .ofList [("app", "web")])]

/-- The preparation of those two, of which the first one takes longer to have the agent.  The
cancellation comes after that. -/
def webPreparation : Preparation Unit where
  access := {
    scope := "default"
    list := fun filter world =>
      (.ok ((webPods.filter fun p => filter.passes p.2).map (·.1)), world)
    inject := fun pod _ _ => .after (if pod = "web-a" then 3 else 1) (.ok ())
    exec := fun pod _ _ => .after 1 (.ok pod) }
  selector := ⟨"", .ofList [("app", "web")], .empty⟩
  timeout := .usual
  image := "agent"
  cancelAt := some 4
  start := 0
  world := ()

/-- They become the pods of the disruption in the order of the list, not in that of their ends. -/
theorem targets_webPreparation : webPreparation.PerPod ∧ webPreparation.Ready ∧
    ends (webPreparation.rollout ["web-a", "web-b"]).log = ["web-b", "web-a"] ∧
    ∃ fleet, webPreparation.prepared.result = some (.ok fleet) ∧
      fleet.injected = ["web-a", "web-b"] := by
  have hlisting : webPreparation.listing.1 = .ok ["web-a", "web-b"] := by decide
  have hper : webPreparation.PerPod := by
    refine Preparation.perPod_of_nodup fun names hnames => ?_
    rw [hlisting] at hnames
    rw [← Except.ok.inj hnames]
    decide
  have hends : (webPreparation.rollout ["web-a", "web-b"]).ending = .completed 3 := by
    decide +kernel
  have hready : webPreparation.Ready := by
    refine ⟨by decide, by decide, ["web-a", "web-b"], 3, hlisting, ⟨hends, ?_⟩, by decide +kernel⟩
    intro c hc
    obtain rfl := Option.some.inj hc
    decide
  have hclosed := preparation_failClosed webPreparation
  obtain ⟨fleet, hresult⟩ := (hclosed.ready hper).mpr hready
  exact ⟨hper, hready, by decide +kernel, fleet, hresult,
    hclosed.targets _ fleet hlisting (by decide) hresult⟩

end FaultInjection
