import FaultInjection.Proofs.Concurrency.Trips
import FaultInjection.Proofs.Fleet.Rounds
import FaultInjection.Proofs.Kube.Readiness
import FaultInjection.Rehearsal

/-!
# Waiting for agents

Whatever its pod does, bringing in one agent takes no longer than the bound of its waiting
(`Kube.within_injectContainer`, `Rehearsal.within_inject`).  So a round of injection takes no longer
than the bound for every `slots` pods, and no time at all without a bound (`Fleet.Prompt`).  With the
times of all fan-outs this is `greedy_times`.
-/

namespace FaultInjection

open Concurrency

/-! ## One agent -/

namespace Kube

/-- A question ends the waiting, or is followed by a sleep until the next one or the bound. -/
theorem poll_cases (scope pod container : String) (bound : Duration) (n : ℕ) (server : Server) :
    (∃ result, (poll scope pod container bound n server).1 = .finished result) ∨
      Duration.ofSecs n < bound ∧ (poll scope pod container bound n server).1 =
        .asleep (min (Duration.ofSecs (n + 1)).nanos bound.nanos - (Duration.ofSecs n).nanos) := by
  by_cases hn : Duration.ofSecs n < bound
  · by_cases hdecides : ∃ result, Decides pod container (question scope pod server).1 result
    · obtain ⟨result, hdecides⟩ := hdecides
      exact Or.inl ⟨result, by rw [poll_of_decides hn hdecides]⟩
    · exact Or.inr ⟨hn, by rw [poll_of_undecided hn (not_exists.mp hdecides)]⟩
  · exact Or.inl ⟨_, by rw [poll_of_le hn]⟩

/-- So does every turn of an injection that waits. -/
theorem turn_cases (scope pod : String) (container : Container) (bound : Duration) (n : ℕ)
    (server : Server) :
    (∃ result, ((injectContainer scope pod container (some bound)).turn n server).1 =
        .finished result) ∨
      Duration.ofSecs n < bound ∧
        ((injectContainer scope pod container (some bound)).turn n server).1 =
          .asleep (min (Duration.ofSecs (n + 1)).nanos bound.nanos - (Duration.ofSecs n).nanos) := by
  cases n with
  | zero =>
      rcases hadd : addContainer scope pod container server with ⟨e | ⟨⟨⟩⟩, later⟩
      · exact Or.inl ⟨_, by rw [turn_zero_of_refused hadd]⟩
      · rw [turn_zero_of_added hadd]
        exact poll_cases scope pod container.name bound 0 later
  | succ n =>
      rw [turn_succ]
      exact poll_cases scope pod container.name bound (n + 1) server

/-- An agent takes no longer than the bound, and no time without one. -/
theorem within_injectContainer (scope pod : String) (container : Container)
    (wait : Option Duration) :
    (injectContainer scope pod container wait).Within (wait.elim 0 (·.nanos)) := by
  cases wait with
  | none =>
      refine within_of_turns (fun _ => 0) ?_
      intro turn hturn server
      rw [more_of_unwaited, Nat.le_zero] at hturn
      subst hturn
      left
      rcases hadd : addContainer scope pod container server with ⟨e | ⟨⟨⟩⟩, later⟩
      · exact ⟨_, by rw [turn_zero_of_refused hadd]⟩
      · exact ⟨_, by rw [turn_zero_of_unwaited hadd]⟩
  | some bound =>
      -- After a number of seconds no more than the rest of the bound is left.
      have hleft : bound.nanos - (Duration.ofSecs 0).nanos = bound.nanos := by
        rw [Duration.ofSecs, Nat.zero_mul, Nat.sub_zero]
      rw [Option.elim_some, ← hleft]
      refine within_of_turns (fun n => bound.nanos - (Duration.ofSecs n).nanos) ?_
      intro n _ server
      rcases turn_cases scope pod container bound n server with hends | ⟨hn, hasleep⟩
      · exact Or.inl hends
      · refine Or.inr ⟨lt_questionsBefore_iff.mpr hn, _, hasleep, ?_⟩
        have hlt : (Duration.ofSecs n).nanos < bound.nanos := hn
        have hnext : (Duration.ofSecs n).nanos ≤ (Duration.ofSecs (n + 1)).nanos :=
          Nat.mul_le_mul_right _ n.le_succ
        show _ + (bound.nanos - (Duration.ofSecs (n + 1)).nanos) ≤ _
        omega

end Kube

/-- In a rehearsal, too, an agent takes no longer than the bound, and no time without one. -/
theorem Rehearsal.within_inject (pod : String) (wait : Option Duration) :
    (Rehearsal.inject pod wait).Within (wait.elim 0 (·.nanos)) := by
  refine within_of_turns (fun turn => if turn = 0 then wait.elim 0 (·.nanos) else 0) ?_
  intro turn _ r
  cases turn with
  | succ turn => exact Or.inl ⟨_, rfl⟩
  | zero =>
      have hshort : ∀ nanos ≤ wait.elim 0 (·.nanos), min nanos longestSleep + 0 ≤
          wait.elim 0 (·.nanos) := fun nanos hle => (min_le_left _ _).trans hle
      simp only [Rehearsal.inject]
      split
      · exact Or.inl ⟨_, rfl⟩
      · exact Or.inl ⟨_, rfl⟩
      · next bound =>
        split
        · next hready =>
          split
          · exact Or.inl ⟨_, rfl⟩
          · exact Or.inr ⟨Nat.one_pos, _, rfl, hshort _ hready.2⟩
        · exact Or.inr ⟨Nat.one_pos, _, rfl, hshort _ le_rfl⟩

/-! ## Rounds of injection -/

/-- **How long a round of injection takes**, whatever the world does. -/
structure Fleet.Prompt {ω : Type} (fleet : Fleet) (access : PodAccess ω) : Prop where
  /-- With a bound it ends, no later than after the bound for every `slots` pods. -/
  bounded : ∀ bound, fleet.timeout.bound? = some bound → ∀ start world, ∃ T,
    (fleet.inject access none start world).ending = .completed T ∧
      T ≤ start + (fleet.pending.length + slots - 1) / slots * bound.nanos
  /-- Without a bound it ends at once. -/
  unbounded : fleet.timeout.bound? = none → ∀ start world,
    (fleet.inject access none start world).ending = .completed start

/-- A round whose injections stay within the bound of their waiting. -/
theorem Fleet.prompt_of_within {ω : Type} {fleet : Fleet} {access : PodAccess ω}
    (h : ∀ pod ∈ fleet.pending, (access.inject pod (Agent.container fleet.image)
      fleet.timeout.bound?).Within (fleet.timeout.bound?.elim 0 (·.nanos))) :
    fleet.Prompt access := by
  have hround : ∀ start world, ∃ T, (fleet.inject access none start world).ending = .completed T ∧
      start ≤ T ∧ T ≤ start + (fleet.pending.length + slots - 1) / slots *
        fleet.timeout.bound?.elim 0 (·.nanos) := by
    intro start world
    rw [Fleet.ending_inject]
    obtain ⟨T, hcompleted⟩ := exists_completed_of_returns (fun pod hpod => (h pod hpod).1) start world
    obtain ⟨trips, hscheduled⟩ := exists_scheduled hcompleted
    obtain ⟨T', hending, hle⟩ := hscheduled.exists_ending_le (hscheduled.lasted_le h)
    exact ⟨T', hending, le_of_completed hending, hle⟩
  constructor
  · intro bound hbound start world
    obtain ⟨T, hending, -, hle⟩ := hround start world
    rw [hbound] at hle
    exact ⟨T, hending, hle⟩
  · intro hnone start world
    obtain ⟨T, hending, hge, hle⟩ := hround start world
    rw [hnone, Option.elim_none, Nat.mul_zero, Nat.add_zero] at hle
    rw [hending, Nat.le_antisymm hle hge]

/-! ## Times -/

/-- **The timetable** of a fan-out that is over at `T`: the trips of its operations, which begin
`slots` at a time and then with every end. -/
structure Timetable {ω α : Type} (op : String → Operation ω α) (pods : List String) (start : ℕ)
    (world : ω) (T : ℕ) (trips : List Trip) : Prop where
  scheduled : Scheduled op pods start (fanOut op pods none start world) trips
  /-- Operations that take a time of their own last that long, in the order of the pods. -/
  lasted : ∀ lasted : String → ℕ, (∀ pod ∈ pods, (op pod).Takes (lasted pod)) →
    trips.map (·.lasted) = pods.map lasted
  /-- With a place for each pod the fan-out takes the time of the longest operation, -/
  few : pods.length ≤ slots → T = start + (trips.map (·.lasted)).max?.getD 0
  /-- and with operations no longer than `b` no more than `b` for every `slots` pods. -/
  bounded : ∀ b, (∀ t ∈ trips, t.lasted ≤ b) →
    T ≤ start + (pods.length + slots - 1) / slots * b

/-- **Greedy fan-outs**, and the rounds of injection among them. -/
structure Greedy {ω α : Type} (op : String → Operation ω α) (pods : List String) (start : ℕ)
    (world : ω) : Prop where
  /-- Operations that end, whatever they find, are over at some time. -/
  completes : (∀ pod ∈ pods, (op pod).Returns) →
    ∃ T, (fanOut op pods none start world).ending = .completed T
  /-- What is over at some time has a timetable. -/
  timed : ∀ T, (fanOut op pods none start world).ending = .completed T →
    ∃ trips, Timetable op pods start world T trips
  /-- A round of injection takes no longer than its bound for every `slots` pods that have no agent
  yet, in a cluster -/
  prompt : ∀ (fleet : Fleet) (scope : String), fleet.Prompt (Kube.access scope)
  /-- and in a rehearsal. -/
  rehearsed : ∀ (fleet : Fleet) (scope : String) (pods : List (String × Labels)),
    fleet.Prompt (Rehearsal.access scope pods)

/-- **Times.**  Every fan-out is greedy. -/
theorem greedy_times {ω α : Type} (op : String → Operation ω α) (pods : List String) (start : ℕ)
    (world : ω) : Greedy op pods start world where
  completes h := exists_completed_of_returns h start world
  timed := by
    intro T hT
    obtain ⟨trips, hscheduled⟩ := exists_scheduled hT
    refine ⟨trips, hscheduled, fun _ => hscheduled.map_lasted, ?_, ?_⟩
    · intro hfew
      exact Ending.completed.inj (hT.symm.trans (hscheduled.ending_of_few hfew))
    · intro b hb
      obtain ⟨T', hT', hle⟩ := hscheduled.exists_ending_le hb
      rw [hT, Ending.completed.injEq] at hT'
      exact hT'.trans_le hle
  prompt fleet scope :=
    Fleet.prompt_of_within fun pod _ => Kube.within_injectContainer scope pod _ _
  rehearsed _ _ _ := Fleet.prompt_of_within fun pod _ => Rehearsal.within_inject pod _

/-- Eleven pods, nine of them with one name. -/
def elevenPods : List String := "first" :: (List.replicate 9 "other" ++ ["last"])

/-- How long the operations of these pods take. -/
def elevenTimes (pod : String) : ℕ := if pod = "first" then 5 else if pod = "last" then 3 else 7

/-- With eleven pods the last one waits until the first one has ended. -/
theorem greedy_times_eleven :
    (∀ pod ∈ elevenPods, (Operation.after (elevenTimes pod) ()).Returns) ∧ ∃ T trips,
      (fanOut (fun pod => .after (elevenTimes pod) ()) elevenPods none 0 ()).ending =
        .completed T ∧ T ≤ 14 ∧ trips.map (·.lasted) = [5, 7, 7, 7, 7, 7, 7, 7, 7, 7, 3] ∧
      Scheduled (fun pod => .after (elevenTimes pod) ()) elevenPods 0
        (fanOut (fun pod => .after (elevenTimes pod) ()) elevenPods none 0 ()) trips := by
  have hreturns : ∀ pod ∈ elevenPods, (Operation.after (elevenTimes pod) ()).Returns :=
    fun pod _ => (takes_after (elevenTimes pod) ()).1
  have hgreedy := greedy_times (fun pod => .after (elevenTimes pod) ()) elevenPods 0 ()
  obtain ⟨T, hT⟩ := hgreedy.completes hreturns
  obtain ⟨trips, htimetable⟩ := hgreedy.timed T hT
  have hlasted : trips.map (·.lasted) = [5, 7, 7, 7, 7, 7, 7, 7, 7, 7, 3] := by
    rw [htimetable.lasted elevenTimes fun pod _ => takes_after (elevenTimes pod) ()]
    decide
  refine ⟨hreturns, T, trips, hT, htimetable.bounded 7 ?_, hlasted, htimetable.scheduled⟩
  have hseven : ∀ n ∈ trips.map (·.lasted), n ≤ 7 := by
    rw [hlasted]
    decide
  exact fun t ht => hseven _ (List.mem_map_of_mem ht)

end FaultInjection
