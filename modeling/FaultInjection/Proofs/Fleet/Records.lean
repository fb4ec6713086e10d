import FaultInjection.Proofs.Fleet.Cancellation
import FaultInjection.Proofs.Fleet.Reports

/-!
# Records of a round of injection

What came of a round of injection is written down three times: in the states of the pods, in the
failure that the round returns, and in the message of that failure.  The records agree
(`Fleet.Recorded`, `recorded_of_injects`): the failure lists the pods that have failed in this round,
in the order of the fleet and with the reasons in their states, and the message counts and names the
same pods.
-/

namespace FaultInjection

open Concurrency Number

variable {ω : Type}

/-! ## What is new in a fleet -/

/-- The pods that were pending and have failed since, each with the reason in its state. -/
def Fleet.newFailures (fleet later : Fleet) : List PodFailure :=
  (fleet.targets.zip later.targets).filterMap fun p =>
    if p.1.state = .pending then p.2.failure? else none

/-- What was pending has failed afterwards exactly if its own outcome is a failure. -/
theorem Target.failure?_after {t : Target} (hstate : t.state = .pending)
    (outcome : String → Except Failure Unit) :
    (t.after outcome).failure? = failureOf outcome t.name := by
  rw [Target.after, if_pos hstate, failureOf, Target.failure?]
  cases outcome t.name <;> rfl

/-- The new failures of a fleet that has been settled by outcomes are those of the outcomes. -/
theorem Fleet.newFailures_after {fleet later : Fleet} {outcome : String → Except Failure Unit}
    (h : later.targets = fleet.targets.map (·.after outcome)) :
    fleet.newFailures later = fleet.pending.filterMap (failureOf outcome) := by
  have hzip : fleet.targets.zip later.targets =
      fleet.targets.map fun t => (t, t.after outcome) := by
    rw [h, List.map_prod_left_eq_zip]
  -- Both are now read off the targets of before, so they are compared target by target.
  rw [newFailures, hzip, pending, namesIn, List.filterMap_map, List.filterMap_map,
    List.filterMap_filter]
  apply List.filterMap_congr
  intro t _
  simp only [Function.comp_apply, decide_eq_true_eq]
  split
  · next hstate => exact Target.failure?_after hstate outcome
  · rfl

/-! ## Messages -/

/-- The number that a message of some failures tells, between the words before and after it. -/
def toldCount (what message : String) : ℕ :=
  digitsValue 0 ((message.toList.drop (what ++ " failed for ").toList.length).takeWhile isDigit)

/-- A message tells how many failures it lists. -/
theorem toldCount_listing (what : String) (failures : List PodFailure) :
    toldCount what (Failure.listing what failures) = failures.length := by
  have hdigits : ∀ r, ((decimal failures.length) ++ " pod(s): ".toList ++ r).takeWhile isDigit =
      decimal failures.length := by
    intro r
    rw [List.append_assoc, List.takeWhile_append_of_pos fun c => isDigit_of_mem_decimal]
    simp [isDigit]
  simp only [toldCount, Failure.listing, String.toList_append, decimalText, String.toList_ofList,
    List.append_assoc] at hdigits ⊢
  rw [← List.append_assoc what.toList, List.drop_left, hdigits, digitsValue_decimal]

/-! ## Rounds that are not cancelled -/

namespace Fleet

variable {fleet : Fleet} {access : PodAccess ω} {cancelAt : Option ℕ} {start : ℕ} {world : ω}

/-- A round of injection that is not cancelled is the one without a cancellation. -/
theorem inject_of_not_cancelled
    (h : ∀ T, (fleet.inject access cancelAt start world).ending ≠ .cancelled T) :
    fleet.inject access cancelAt start world = fleet.inject access none start world ∧
      fleet.injectCalls access cancelAt start world =
        fleet.injectCalls access none start world := by
  cases cancelAt with
  | none => exact ⟨rfl, rfl⟩
  | some c =>
      -- The cancellation cuts the round short, or comes after its end and changes nothing.
      by_cases hlate : c ≤ start ∨
          ∀ T, (fleet.inject access none start world).ending = .completed T → c ≤ T
      · exact absurd (inject_some_of_le hlate).1.ending (h _)
      · push Not at hlate
        obtain ⟨-, T, hending, hlt⟩ := hlate
        exact inject_some_of_lt hending hlt

/-- **One round of injection**, with the outcomes of its pods. -/
structure Recorded (fleet : Fleet) (outcome : String → Except Failure Unit) (round : Round ω)
    (calls : List Call) : Prop where
  /-- It comes to its end. -/
  completed : ∃ T, round.ending = .completed T
  /-- Each pending pod is called once, with the bound of the fleet, and no other pod is called. -/
  calls : calls = fleet.pending.map fun pod => .inject pod fleet.timeout.bound?
  /-- The bound is the one that was configured as a number of seconds. -/
  bound : ∀ secs, fleet.timeout = .ofSecs secs →
    (secs < 0 → fleet.timeout.bound? = none) ∧
    (secs = 0 → fleet.timeout.bound? = some (.ofSecs 30)) ∧
    ∀ n : ℕ, 0 < n → secs = n → fleet.timeout.bound? = some (.ofSecs n)
  /-- Each pending pod has the agent if its own call has succeeded, and else it has failed for the
  reason of its own failure.  The other pods are as before. -/
  states : round.fleet = { fleet with targets := fleet.targets.map (·.after outcome) }
  /-- The round succeeds exactly if every call has. -/
  succeeds : round.result = some (.ok ()) ↔ ∀ pod ∈ fleet.pending, outcome pod = .ok ()
  /-- Otherwise it lists the pods that have failed in it, as their states tell them, -/
  lists : round.result ≠ some (.ok ()) →
    round.result = some (.error (.injection (fleet.newFailures round.fleet)))
  /-- names them as the failed pods, -/
  names : (Failure.injection (fleet.newFailures round.fleet)).pods =
    (fleet.newFailures round.fleet).map (·.pod)
  /-- counts them, -/
  counts : toldCount "Agent injection"
      (Failure.injection (fleet.newFailures round.fleet)).message =
    (fleet.newFailures round.fleet).length
  /-- and tells for each of them the reason. -/
  tells : (Failure.injection (fleet.newFailures round.fleet)).message =
    "Agent injection failed for " ++ decimalText (fleet.newFailures round.fleet).length
      ++ " pod(s): " ++ "; ".intercalate
        ((fleet.newFailures round.fleet).map fun f => f.pod ++ ": " ++ f.reason)

end Fleet

/-- **The records of a round agree.**  Whatever becomes of the calls for different pods, and however
long they take, a round that is not cancelled calls each pending pod once, settles it by its own
outcome, and reports exactly the pods that have failed, in their order and with their reasons. -/
theorem recorded_of_injects {fleet : Fleet} (hnames : fleet.Distinct) {access : PodAccess ω}
    {cancelAt : Option ℕ} {start : ℕ} {world : ω} {outcome : String → Except Failure Unit}
    (hop : access.Injects fleet world outcome)
    (hcancel : ∀ T, (fleet.inject access cancelAt start world).ending ≠ .cancelled T) :
    fleet.Recorded outcome (fleet.inject access cancelAt start world)
      (fleet.injectCalls access cancelAt start world) := by
  obtain ⟨hround, hcalls⟩ := Fleet.inject_of_not_cancelled hcancel
  obtain ⟨T, hinject⟩ := Fleet.inject_of_injects hnames hop start
  have hcompleted : (fleet.injection access none start world).ending = .completed T := by
    rw [← Fleet.ending_inject, hinject]
  rw [hround, hcalls, Fleet.injectCalls_eq, Fleet.starts_injection hcompleted]
  have hnew : fleet.newFailures (fleet.inject access none start world).fleet =
      fleet.pending.filterMap (failureOf outcome) :=
    Fleet.newFailures_after (by rw [hinject])
  have hresult : (fleet.inject access none start world).result =
      some (Fleet.verdict .injection (fleet.pending.filterMap (failureOf outcome))) := by
    rw [hinject]
  have hnone : fleet.pending.filterMap (failureOf outcome) = [] ↔
      ∀ pod ∈ fleet.pending, outcome pod = .ok () := by
    rw [List.filterMap_eq_nil_iff]
    exact forall₂_congr fun _ _ => failureOf_eq_none_iff.trans Unique.exists_iff
  exact {
    completed := ⟨T, by rw [hinject]⟩
    calls := rfl
    bound := by
      rintro secs htimeout
      rw [htimeout]
      refine ⟨fun hneg => ?_, fun hzero => ?_, fun n hn hsecs => ?_⟩
      · rw [InjectTimeout.ofSecs, if_neg (by omega), if_pos hneg]
        rfl
      · rw [hzero]
        rfl
      · rw [hsecs, InjectTimeout.ofSecs, if_neg (by omega), if_neg (by omega)]
        rfl
    states := by rw [hinject]
    succeeds := by
      rw [hresult, ← hnone, Fleet.verdict]
      simp
    lists := by
      intro hne
      rw [hresult, Fleet.verdict] at hne ⊢
      split
      · next hnil => exact absurd (by rw [if_pos hnil]) hne
      · rw [hnew]
    names := rfl
    counts := toldCount_listing _ _
    tells := rfl }

/-- A fleet in which two pods are pending, one has the agent and one has failed before. -/
def mixedFleet : Fleet :=
  ⟨[⟨"a", .pending⟩, ⟨"c", .injected⟩, ⟨"b", .pending⟩, ⟨"d", .failed "gone"⟩], .ofSecs 7, "agent"⟩

/-- Of the pods that refuse the agent only those are called and reported that were pending. -/
theorem recorded_mixed : mixedFleet.Distinct ∧
    slowRefusals.Injects mixedFleet () (fun pod => .error (.notReady pod "refused")) ∧
    (∀ T, (mixedFleet.inject slowRefusals (some 9) 0 ()).ending ≠ .cancelled T) ∧
    mixedFleet.injectCalls slowRefusals (some 9) 0 () =
      [.inject "a" (some (.ofSecs 7)), .inject "b" (some (.ofSecs 7))] ∧
    (mixedFleet.inject slowRefusals (some 9) 0 ()).result =
      some (.error (.injection [⟨"a", "Agent container in pod a is not ready: refused"⟩,
        ⟨"b", "Agent container in pod b is not ready: refused"⟩])) := by
  have hnames : mixedFleet.Distinct := by
    rw [Fleet.Distinct]
    decide
  have hop : slowRefusals.Injects mixedFleet () fun pod => .error (.notReady pod "refused") :=
    yields_after _ _ _
  have hcancel : ∀ T, (mixedFleet.inject slowRefusals (some 9) 0 ()).ending ≠ .cancelled T := by
    intro T
    have hending : (mixedFleet.inject slowRefusals (some 9) 0 ()).ending = .completed 3 := by
      decide +kernel
    rw [hending]
    simp
  have hrecorded := recorded_of_injects hnames hop hcancel
  refine ⟨hnames, hop, hcancel, hrecorded.calls, ?_⟩
  rw [hrecorded.lists (by decide +kernel), hrecorded.states]
  decide +kernel

end FaultInjection
