import FaultInjection.Proofs.Concurrency.Outcomes
import Mathlib.Data.List.Nodup

/-!
# Orders of completion

With `slots` places the operations over some pods can end in any order in which each of them has a
place before it ends: the `k`-th to end is among the first `k + slots` pods.  Such an order is
`Attainable`.  The operations of every fan-out that completes end in an attainable order
(`attainable_of_completed`), and for every attainable order there are operations, with any outcomes,
that end in it (`exists_order`).
-/

namespace FaultInjection.Concurrency

variable {ω α : Type}

open State

/-! ## Attainable orders -/

/-- **An order in which operations can end.** -/
structure Attainable (pods order : List String) : Prop where
  /-- Each pod comes once. -/
  perm : order.Perm pods
  /-- With `k` operations ended, no more than `k + slots` have started. -/
  started : ∀ k (h : k < order.length), order[k] ∈ pods.take (k + slots)

/-- The end at a position of the order is an event of the log. -/
theorem exists_past_of_ends {log : List (Event α)} {k : ℕ} (hk : k < (ends log).length) :
    ∃ past time result, past ++ [.ended (ends log)[k] time result] <+: log ∧
      (results past).length = k := by
  induction log using List.reverseRecOn with
  | nil => simp [ends] at hk
  | append_singleton log e ih =>
      by_cases hlt : k < (ends log).length
      · obtain ⟨past, time, result, hpast, hlength⟩ := ih hlt
        refine ⟨past, time, result, ?_, hlength⟩
        have hget : (ends (log ++ [e]))[k] = (ends log)[k] := by
          simp only [ends_append]
          exact List.getElem_append_left hlt
        rw [hget]
        exact hpast.trans (List.prefix_append _ _)
      · cases e with
        | started pod time => simp at hk hlt; omega
        | ended pod time result =>
            have hlast : k = (ends log).length := by
              simp only [ends_append, ends_ended, List.length_append,
                List.length_singleton] at hk
              omega
            subst hlast
            refine ⟨log, time, result, ?_, (length_ends log).symm⟩
            have hget : (ends (log ++ [Event.ended pod time result]))[(ends log).length] = pod := by
              simp only [ends_append, ends_ended]
              exact List.getElem_concat_length rfl _
            rw [hget]

/-- **Only attainable orders.**  The operations of a fan-out that completes end in an attainable
order. -/
theorem attainable_of_completed {op : String → Operation ω α} {pods : List String} {start T : ℕ}
    {world : ω} (h : (fanOut op pods none start world).ending = .completed T) :
    Attainable pods (ends (fanOut op pods none start world).log) where
  perm := (perm_ends_of_completed h).2
  started := by
    intro k hk
    have horderly := orderly_fanOut op pods start world
    obtain ⟨past, time, result, hpast, hlength⟩ := exists_past_of_ends hk
    have hstarts : starts past <+: pods :=
      (starts_mono ((List.prefix_append past _).trans hpast)).trans horderly.inOrder
    have hlimited := horderly.limited past ((List.prefix_append past _).trans hpast)
    have htake : starts past <+: pods.take (k + slots) :=
      List.prefix_take_iff.mpr ⟨hstarts, by omega⟩
    exact htake.subset (horderly.begun past _ time result hpast)

/-! ## Operations that end in a given order -/

/-- The operation that sleeps for a time and then returns a result. -/
def Operation.after (nanos : ℕ) (result : α) : Operation Unit α where
  more := 1
  turn := fun turn world => (if turn = 0 then .asleep nanos else .finished result, world)

/-- Operations that sleep first have outcomes of their own, however long each of them sleeps. -/
theorem independent_after (nanos : String → ℕ) (pods : List String) (outcome : String → α) :
    Independent (fun pod => .after (nanos pod) (outcome pod)) pods (fun _ _ _ => True) outcome := by
  refine independent_of_forall fun pod _ turn world => ?_
  by_cases hzero : turn = 0
  · subst hzero
    exact Or.inr ⟨Nat.one_pos, nanos pod, rfl⟩
  · left
    simp [Operation.after, hzero]

theorem yields_after (nanos : String → ℕ) (pods : List String) (outcome : String → α) :
    Yields (fun pod => .after (nanos pod) (outcome pod)) pods () outcome :=
  ⟨_, independent_after nanos pods outcome, fun _ _ => trivial⟩

/-- When a pod gets a place if one operation ends at each of the times `1`, `2`, `3` and so on. -/
def turnOf (pods : List String) (pod : String) : ℕ := pods.idxOf pod + 1 - slots

/-- Operations that end one by one in an order, at the times `1`, `2`, `3` and so on. -/
def inTurn (pods order : List String) (outcome : String → α) (pod : String) : Operation Unit α :=
  .after (order.idxOf pod + 1 - turnOf pods pod) (outcome pod)

/-- How far a fan-out of such operations has come. -/
structure Follows (pods order : List String) (s : State Unit α) : Prop where
  /-- The clock counts the ends. -/
  now : s.now = (ends s.log).length
  /-- The operations have ended in the order. -/
  ended : ends s.log = order.take s.now
  /-- What is in flight has just got its place, or ends in its turn. -/
  flights : ∀ f ∈ s.flights, f.turn = 0 ∧ f.due = s.now ∧ turnOf pods f.pod = s.now ∨
    f.turn = 1 ∧ f.due = order.idxOf f.pod + 1
  /-- Since the first end no more than one place has been free. -/
  busy : s.now = 0 ∨ s.waiting = [] ∨ s.now + slots ≤ (starts s.log).length + 1

variable {pods order : List String}

theorem follows_initial : Follows pods order (initial pods 0 () : State Unit α) where
  now := rfl
  ended := rfl
  flights := by simp [initial]
  busy := Or.inl rfl

/-- What is in flight has its turn to end still to come. -/
theorem Follows.now_le_idxOf {op : String → Operation Unit α} {s : State Unit α}
    (hfollows : Follows pods order s) (haccounted : Accounted op pods s) (hpods : pods.Nodup)
    (horder : Attainable pods order) {f : Flight Unit α} (hf : f ∈ s.flights) :
    s.now ≤ order.idxOf f.pod ∧ order.idxOf f.pod < order.length := by
  have hmem : f.pod ∈ order := horder.perm.mem_iff.mpr (haccounted.pod_mem hf)
  refine ⟨?_, List.idxOf_lt_length_iff.mpr hmem⟩
  have hstarts : (starts s.log).Nodup := by
    rw [← haccounted.split] at hpods
    exact hpods.of_append_left
  have hdisjoint := (List.nodup_append.mp (haccounted.started.nodup_iff.mp hstarts)).2.2
  by_contra hlt
  have hended : f.pod ∈ ends s.log := by
    rw [hfollows.ended, List.mem_take_iff_idxOf_lt hmem]
    omega
  exact hdisjoint f.pod hended f.pod
    (List.mem_append_left _ (List.mem_map_of_mem hf)) rfl

/-- When no pod waits for a free place, the operation whose turn it is to end is in flight. -/
theorem Follows.exists_next {op : String → Operation Unit α} {s : State Unit α}
    (hfollows : Follows pods order s) (haccounted : Accounted op pods s) (hpods : pods.Nodup)
    (horder : Attainable pods order) (hfull : s.Full) (hstuck : s.stuck = [])
    (hnow : s.now < order.length) : ∃ g ∈ s.flights, order.idxOf g.pod = s.now := by
  have hnodup : order.Nodup := horder.perm.nodup_iff.mpr hpods
  have hstarted : order[s.now] ∈ starts s.log := by
    have htake := horder.started s.now hnow
    rcases haccounted.full_iff.mp hfull with hlength | hall
    · rw [← haccounted.split, List.take_append_of_le_length, List.take_of_length_le] at htake
      · exact htake
      · rw [hlength, ← length_ends, ← hfollows.now]
      · rw [hlength, ← length_ends, ← hfollows.now]
    · rw [hall]
      exact List.mem_of_mem_take htake
  rw [haccounted.started.mem_iff, hstuck, List.append_nil, List.mem_append] at hstarted
  rcases hstarted with hended | hflying
  · rw [hfollows.ended, List.mem_take_iff_idxOf_lt (List.getElem_mem hnow),
      hnodup.idxOf_getElem] at hended
    omega
  · obtain ⟨g, hg, hpod⟩ := List.mem_map.mp hflying
    exact ⟨g, hg, by rw [hpod, hnodup.idxOf_getElem]⟩

/-- The first turn of such an operation is its sleep, and its second one its end. -/
theorem turn_inTurn {outcome : String → α} {s : State Unit α} {f : Flight Unit α}
    (haccounted : Accounted (inTurn pods order outcome) pods s) (hf : f ∈ s.flights)
    {progress : Progress α} {world : Unit}
    (hturn : f.operation.turn f.turn s.world = (progress, world)) :
    progress = if f.turn = 0 then .asleep (order.idxOf f.pod + 1 - turnOf pods f.pod)
      else .finished (outcome f.pod) := by
  rw [haccounted.own f hf] at hturn
  exact (congrArg Prod.fst hturn).symm

/-- A pod gets its place in its turn. -/
theorem Follows.turnOf_eq_now {op : String → Operation Unit α} {s : State Unit α}
    (hfollows : Follows pods order s) (haccounted : Accounted op pods s) (hpods : pods.Nodup)
    (free : s.inFlight < slots) {pod : String} {waiting : List String}
    (next : s.waiting = pod :: waiting) : turnOf pods pod = s.now := by
  have hsplit := haccounted.split
  have hlength := haccounted.length_starts
  have hnow := hfollows.now
  have hidx : pods.idxOf pod = (starts s.log).length := by
    rw [next] at hsplit
    have hnot : pod ∉ starts s.log := by
      intro hmem
      rw [← hsplit] at hpods
      exact (List.nodup_append.mp hpods).2.2 pod hmem pod List.mem_cons_self rfl
    rw [← hsplit, List.idxOf_append_of_notMem hnot, List.idxOf_cons_self, Nat.add_zero]
  rw [length_ends] at hnow
  rw [turnOf, hidx]
  rcases hfollows.busy with hzero | hnone | hbusy
  · omega
  · rw [next] at hnone
    cases hnone
  · omega

/-- Every step follows the order. -/
theorem Follows.step {outcome : String → α} {s t : State Unit α}
    (hstep : Step (inTurn pods order outcome) s t) (hfollows : Follows pods order s)
    (haccounted : Accounted (inTurn pods order outcome) pods s)
    (hpods : pods.Nodup) (horder : Attainable pods order) (hstuck : s.stuck = []) :
    Follows pods order t := by
  cases hstep with
  | @launch pod waiting free next =>
      have hturn := hfollows.turnOf_eq_now haccounted hpods free next
      refine ⟨by simpa [launch] using hfollows.now, by simpa [launch] using hfollows.ended, ?_, ?_⟩
      · exact forall_mem_concat hfollows.flights (Or.inl ⟨rfl, rfl, hturn⟩)
      · rcases hfollows.busy with hzero | hnone | hbusy
        · exact Or.inl hzero
        · rw [next] at hnone
          cases hnone
        · right; right
          simp only [launch, starts_append, starts_started, List.length_append,
            List.length_singleton]
          omega
  | @finish f others result world full first turn =>
      have hf : f ∈ s.flights := mem_of_earliest first (Or.inl rfl)
      obtain ⟨hle, hlt⟩ := hfollows.now_le_idxOf haccounted hpods horder hf
      obtain ⟨g, hg, hgidx⟩ := hfollows.exists_next haccounted hpods horder full hstuck (by omega)
      have hfirst := due_le_of_earliest first
      have hsecond : f.turn ≠ 0 := by
        intro hzero
        have := turn_inTurn haccounted hf turn
        rw [if_pos hzero] at this
        cases this
      -- The one whose turn it is to end is due no later than the earliest, so they are the same.
      have hfdue : f.due = order.idxOf f.pod + 1 := by
        rcases hfollows.flights f hf with ⟨hzero, -, -⟩ | ⟨-, hdue⟩
        · exact absurd hzero hsecond
        · exact hdue
      have hgdue : g.due = s.now + 1 := by
        have := hfirst g hg
        rcases hfollows.flights g hg with ⟨-, hdue, -⟩ | ⟨-, hdue⟩
        · omega
        · omega
      have hidx : order.idxOf f.pod = s.now := by
        have := hfirst g hg
        omega
      have hnow := hfollows.now
      refine ⟨?_, ?_, ?_, ?_⟩
      · simp only [ends_append, ends_ended, List.length_append, List.length_singleton]
        omega
      · have hget : order[s.now] = f.pod := by
          simp only [← hidx, List.getElem_idxOf]
        simp only [ends_append, ends_ended, hfollows.ended]
        rw [hfdue, hidx, ← hget, List.take_concat_get']
      · intro x hx
        have hxs : x ∈ s.flights := mem_of_earliest first (Or.inr hx)
        have := hfirst x hxs
        rcases hfollows.flights x hxs with ⟨-, hdue, -⟩ | hlast
        · omega
        · exact Or.inr hlast
      · right
        rcases haccounted.full_iff.mp full with hlength | hall
        · right
          rw [← length_ends] at hlength
          simp only [starts_append, starts_ended, List.append_nil]
          omega
        · left
          have hsplit := haccounted.split
          rw [hall] at hsplit
          exact List.append_right_eq_self.mp hsplit
  | @sleep f others nanos left world full first turn more =>
      have hf : f ∈ s.flights := mem_of_earliest first (Or.inl rfl)
      obtain ⟨hle, hlt⟩ := hfollows.now_le_idxOf haccounted hpods horder hf
      have hprogress := turn_inTurn haccounted hf turn
      by_cases hzero : f.turn = 0
      · -- The sleep lasts until the place of the pod in the order.
        rw [if_pos hzero, Progress.asleep.injEq] at hprogress
        obtain ⟨-, hdue, hturn⟩ | ⟨hone, -⟩ := hfollows.flights f hf
        · refine ⟨hdue.trans hfollows.now, by simpa [hdue] using hfollows.ended, ?_, ?_⟩
          · refine forall_mem_concat ?_ (Or.inr ?_)
            · intro x hx
              simpa only [hdue] using hfollows.flights x (mem_of_earliest first (Or.inr hx))
            · simp only
              omega
          · simpa only [hdue] using hfollows.busy
        · omega
      · rw [if_neg hzero] at hprogress
        cases hprogress
  | @stick f others progress world full first turn never =>
      exfalso
      have hf : f ∈ s.flights := mem_of_earliest first (Or.inl rfl)
      have hprogress := turn_inTurn haccounted hf turn
      have hturns : f.turn + f.left = 1 := haccounted.turns f hf
      split at hprogress
      · rcases never with hnever | ⟨hleft, -⟩
        · rw [hprogress] at hnever
          cases hnever
        · omega
      · rcases never with hnever | ⟨-, nanos, hnever⟩
        · rw [hprogress] at hnever
          cases hnever
        · rw [hprogress] at hnever
          cases hnever

theorem follows_of_steps {outcome : String → α} {s : State Unit α}
    (hpods : pods.Nodup) (horder : Attainable pods order)
    (h : Steps (inTurn pods order outcome) (initial pods 0 ()) s) : Follows pods order s := by
  have hop : Independent (inTurn pods order outcome) pods (fun _ _ _ => True) outcome :=
    independent_after _ pods outcome
  refine (h.keep (P := fun s => Accounted (inTurn pods order outcome) pods s ∧
    Settled (fun _ _ _ => True) outcome s ∧ Follows pods order s) ?_ ?_).2.2
  · rintro s t hstep ⟨haccounted, hsettled, hfollows⟩
    exact ⟨haccounted.step hstep, hsettled.step hop hpods haccounted hstep,
      hfollows.step hstep haccounted hpods horder hsettled.stuck⟩
  · exact ⟨accounted_initial _ pods 0 (), ⟨by simp [initial], rfl, by simp, by simp⟩,
      follows_initial⟩

/-- **Every attainable order.**  For every attainable order, and any outcomes, there are operations
with these outcomes that end in this order. -/
theorem exists_order (hpods : pods.Nodup) (horder : Attainable pods order) (outcome : String → α) :
    ∃ op : String → Operation Unit α, Yields op pods () outcome ∧
      ends (fanOut op pods none 0 ()).log = order := by
  have hop : Yields (inTurn pods order outcome) pods () outcome := yields_after _ pods outcome
  refine ⟨inTurn pods order outcome, hop, ?_⟩
  obtain ⟨T, hcompleted⟩ := exists_completed hpods hop 0
  have hlength := (perm_ends_of_completed hcompleted).2.length_eq
  obtain ⟨t, hsteps, -, hhalts⟩ := exists_placed_halts (inTurn pods order outcome) pods 0 ()
  have hfollows := follows_of_steps hpods horder hsteps
  generalize fanOut (inTurn pods order outcome) pods none 0 () = out at hcompleted hlength hhalts ⊢
  cases hhalts with
  | completed waiting flights stuck =>
      rw [hfollows.ended]
      apply List.take_of_length_le
      rw [hfollows.now, hlength, horder.perm.length_eq]
  | never => simp at hcompleted
  | cancelled _ cancel => simp at cancel

end FaultInjection.Concurrency
