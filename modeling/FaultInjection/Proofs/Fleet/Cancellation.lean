import FaultInjection.Proofs.Fleet.Calls
import FaultInjection.Proofs.Fleet.Schedules

/-!
# Cancelled rounds

A cancellation stops a round as a whole.  It comes too late to change anything, or it leaves the
fleet as it was, also those pods whose own operation was over, and nothing has been asked of the
cluster beyond what the round would have asked by then (`cancellation_exact`).
-/

namespace FaultInjection

open Concurrency

variable {ω : Type}

/-- **An abandoned round.**  The fleet is as before, and the result names the stage. -/
structure Round.Abandoned (round : Round ω) (fleet : Fleet) (stage : String) (time : ℕ) : Prop where
  fleet : round.fleet = fleet
  result : round.result = some (.error (.cancelled stage))
  ending : round.ending = .cancelled time

/-- **Calls cut short.**  What a round has called before the moment `c`, beside the fan-out of the
full round. -/
structure CallsCutShort {α : Type} (c : ℕ) (pods : List String) (call : String → Call)
    (full : Outcome ω α) (calls : List Call) : Prop where
  /-- What was called is what the full round calls before the moment. -/
  earlier : calls = (startsBefore c full.log).map call
  /-- It is the beginning of the pods, in their order. -/
  inOrder : startsBefore c full.log <+: pods

/-- The starts of a fan-out that is cut short. -/
theorem callsCutShort_of_cutShort {α : Type} {op : String → Operation ω α} {pods : List String}
    {c start : ℕ} {world : ω} (call : String → Call)
    (h : CutShort c start (fanOut op pods none start world)
      (fanOut op pods (some c) start world)) :
    CallsCutShort c pods call (fanOut op pods none start world)
      ((starts (fanOut op pods (some c) start world).log).map call) where
  earlier := by rw [h.log, startsBefore]
  inOrder := by
    rw [startsBefore, ← h.log]
    exact (starts_mono h.past).trans (orderly_fanOut op pods start world).inOrder

namespace Fleet

variable {fleet : Fleet} {access : PodAccess ω} {command : Command} {c start T : ℕ} {world : ω}

/-! ## Injection -/

theorem inject_some_of_lt (h : (fleet.inject access none start world).ending = .completed T)
    (hlt : T < c) :
    fleet.inject access (some c) start world = fleet.inject access none start world ∧
      fleet.injectCalls access (some c) start world =
        fleet.injectCalls access none start world := by
  rw [ending_inject] at h
  have hsame : fleet.injection access (some c) start world =
      fleet.injection access none start world := fanOut_some_of_lt h hlt
  constructor
  · rw [inject, fanOut_some_of_lt h hlt]
    rfl
  · rw [injectCalls_eq, injectCalls_eq, hsame]

theorem inject_some_of_le (hlate : c ≤ start ∨
      ∀ T, (fleet.inject access none start world).ending = .completed T → c ≤ T) :
    (fleet.inject access (some c) start world).Abandoned fleet injectionStage (max start c) ∧
      CallsCutShort c fleet.pending fleet.injectCall (fleet.injection access none start world)
        (fleet.injectCalls access (some c) start world) ∧
      fleet.injectCalls access (some c) start world <+:
        fleet.injectCalls access none start world := by
  rw [ending_inject] at hlate
  have hcut : CutShort c start (fleet.injection access none start world)
      (fleet.injection access (some c) start world) := cutShort_of_le hlate
  rw [inject_of_cancelled hcut.ending, injectCalls_eq, injectCalls_eq]
  exact ⟨⟨rfl, rfl, rfl⟩, callsCutShort_of_cutShort fleet.injectCall hcut,
    (starts_mono hcut.past).map fleet.injectCall⟩

/-! ## Execution -/

theorem exec_some_of_lt (h : (fleet.exec access command none start world).ending = .completed T)
    (hlt : T < c) :
    fleet.exec access command (some c) start world = fleet.exec access command none start world ∧
      fleet.execCalls access command (some c) start world =
        fleet.execCalls access command none start world := by
  by_cases hnil : fleet.injected = []
  · rw [exec_of_nil hnil, exec_of_nil hnil, execCalls_of_nil hnil, execCalls_of_nil hnil]
    exact ⟨rfl, rfl⟩
  · rw [ending_exec hnil] at h
    have hsame : fleet.execution access command (some c) start world =
        fleet.execution access command none start world := fanOut_some_of_lt h hlt
    constructor
    · rw [exec, fanOut_some_of_lt h hlt]
      rfl
    · rw [execCalls_eq hnil, execCalls_eq hnil, hsame]

theorem exec_some_of_le (hne : fleet.injected ≠ []) (hlate : c ≤ start ∨
      ∀ T, (fleet.exec access command none start world).ending = .completed T → c ≤ T) :
    (fleet.exec access command (some c) start world).Abandoned fleet executionStage
        (max start c) ∧
      CallsCutShort c fleet.injected command.call
        (fleet.execution access command none start world)
        (fleet.execCalls access command (some c) start world) ∧
      fleet.execCalls access command (some c) start world <+:
        fleet.execCalls access command none start world := by
  rw [ending_exec hne] at hlate
  have hcut : CutShort c start (fleet.execution access command none start world)
      (fleet.execution access command (some c) start world) := cutShort_of_le hlate
  rw [exec_of_cancelled hne hcut.ending, execCalls_eq hne, execCalls_eq hne]
  exact ⟨⟨rfl, rfl, rfl⟩, callsCutShort_of_cutShort command.call hcut,
    (starts_mono hcut.past).map command.call⟩

end Fleet

/-! ## Both rounds -/

/-- A round as it is seen from outside: with its fan-out and with what it calls. -/
structure TracedRound (ω α : Type) where
  round : Round ω
  fanOut : Outcome ω α
  calls : List Call

/-- A round that begins at `start` is not over before the moment `c`. -/
def Round.Unfinished (round : Round ω) (c start : ℕ) : Prop :=
  c ≤ start ∨ ∀ T, round.ending = .completed T → c ≤ T

/-- **A cancellation is exact.**  What a cancellation at `c` makes of a round that begins at `start`
and goes as `traced none` without one. -/
structure CancelledExactly {α : Type} (c start : ℕ) (fleet : Fleet) (stage : String)
    (pods : List String) (call : String → Call) (traced : Option ℕ → TracedRound ω α) : Prop where
  /-- After the end of the round it changes nothing. -/
  late : ∀ T, (traced none).round.ending = .completed T → T < c →
    (traced (some c)).round = (traced none).round ∧ (traced (some c)).calls = (traced none).calls
  /-- Otherwise the round ends with it, and every pod is as it was. -/
  abandoned : (traced none).round.Unfinished c start →
    (traced (some c)).round.Abandoned fleet stage (max start c)
  /-- What was called is what the full round calls before that moment, -/
  cutShort : (traced none).round.Unfinished c start →
    CallsCutShort c pods call (traced none).fanOut (traced (some c)).calls
  /-- with which the full round begins. -/
  begun : (traced none).round.Unfinished c start →
    (traced (some c)).calls <+: (traced none).calls

namespace Fleet

/-- A round of injection from outside. -/
def tracedInject (fleet : Fleet) (access : PodAccess ω) (start : ℕ) (world : ω)
    (cancelAt : Option ℕ) : TracedRound ω (Except Failure Unit) :=
  ⟨fleet.inject access cancelAt start world, fleet.injection access cancelAt start world,
    fleet.injectCalls access cancelAt start world⟩

/-- A round of execution from outside. -/
def tracedExec (fleet : Fleet) (access : PodAccess ω) (command : Command) (start : ℕ) (world : ω)
    (cancelAt : Option ℕ) : TracedRound ω (Except Failure String) :=
  ⟨fleet.exec access command cancelAt start world,
    fleet.execution access command cancelAt start world,
    fleet.execCalls access command cancelAt start world⟩

/-- **Exact cancellations.**  What a cancellation at `c` makes of the rounds of a fleet. -/
structure ExactlyCancelled (fleet : Fleet) (access : PodAccess ω) (command : Command)
    (c start : ℕ) (world : ω) : Prop where
  injection : CancelledExactly c start fleet injectionStage fleet.pending fleet.injectCall
    (fleet.tracedInject access start world)
  execution : fleet.injected ≠ [] → CancelledExactly c start fleet executionStage fleet.injected
    command.call (fleet.tracedExec access command start world)
  /-- Without a pod that has the agent there is nothing to cancel. -/
  nobody : fleet.injected = [] → fleet.exec access command (some c) start world =
      fleet.exec access command none start world ∧
    fleet.execCalls access command (some c) start world =
      fleet.execCalls access command none start world

end Fleet

/-- **Cancellation is atomic and exact**, in both rounds of every fleet. -/
theorem cancellation_exact (fleet : Fleet) (access : PodAccess ω) (command : Command)
    (c start : ℕ) (world : ω) : fleet.ExactlyCancelled access command c start world where
  injection := {
    late := fun _ => Fleet.inject_some_of_lt
    abandoned := fun h => (Fleet.inject_some_of_le h).1
    cutShort := fun h => (Fleet.inject_some_of_le h).2.1
    begun := fun h => (Fleet.inject_some_of_le h).2.2 }
  execution := fun hne => {
    late := fun _ => Fleet.exec_some_of_lt
    abandoned := fun h => (Fleet.exec_some_of_le hne h).1
    cutShort := fun h => (Fleet.exec_some_of_le hne h).2.1
    begun := fun h => (Fleet.exec_some_of_le hne h).2.2 }
  nobody := by
    intro hnil
    rw [Fleet.exec_of_nil hnil, Fleet.exec_of_nil hnil, Fleet.execCalls_of_nil hnil,
      Fleet.execCalls_of_nil hnil]
    exact ⟨rfl, rfl⟩

/-- A pod that has refused the agent before the cancellation is pending again, although the round
would have gone on after it. -/
theorem refusal_forgotten :
    (pendingPair.inject slowRefusals none 0 ()).ending = .completed 3 ∧
      ends (before 2 (pendingPair.injection slowRefusals none 0 ()).log) = ["b"] ∧
      (pendingPair.inject slowRefusals (some 2) 0 ()).fleet = pendingPair := by
  have hending : (pendingPair.inject slowRefusals none 0 ()).ending = .completed 3 := by
    decide +kernel
  have hexact := cancellation_exact pendingPair slowRefusals ⟨.http, []⟩ 2 0 ()
  refine ⟨hending, by decide +kernel, (hexact.injection.abandoned (Or.inr ?_)).fleet⟩
  intro T hT
  obtain rfl := Ending.completed.inj (hending.symm.trans hT)
  decide

end FaultInjection
