import FaultInjection.Proofs.Concurrency.Durations
import FaultInjection.Proofs.Concurrency.Times
import Mathlib.Data.List.Perm.Basic

/-!
# Trips

When a fan-out completes, each of its operations has made a `Trip`: it began at some time, lasted for
some time, and then ended.  The trips tell the times of the whole fan-out (`Scheduled`): an operation
begins at the beginning or with the next end, and the fan-out completes with the last one
(`exists_scheduled`).  With a place for each pod it takes the time of the longest operation
(`Scheduled.ending_of_few`), and with operations that last no longer than `b` it takes no longer than
`b` for every `slots` pods (`Scheduled.exists_ending_le`).
-/

namespace FaultInjection.Concurrency

variable {ω α : Type}

open State

/-! ## Trips -/

/-- What has become of an operation of a fan-out. -/
structure Trip where
  /-- The pod that it was for. -/
  pod : String
  /-- When it began. -/
  begun : ℕ
  /-- How long it lasted. -/
  lasted : ℕ
deriving DecidableEq, Repr

/-- When the operation ended. -/
def Trip.ended (t : Trip) : ℕ := t.begun + t.lasted

/-- **What is to come** of a state: the rest of the log, how long what is in flight goes on, and the
trips of the pods that wait. -/
structure Foreseen (op : String → Operation ω α) (s : State ω α) (rest : List (Event α))
    (aloft : List (Flight ω α × ℕ)) (trips : List Trip) : Prop where
  stuck : s.stuck = []
  flights : aloft.map (·.1) = s.flights
  goesOn : ∀ p ∈ aloft, p.1.operation.LastsFrom p.1.turn p.1.left p.2
  waiting : trips.map (·.pod) = s.waiting
  begun : startings rest = trips.map fun t => (t.pod, t.begun)
  lasts : ∀ t ∈ trips, (op t.pod).Lasts t.lasted
  ended : (endings rest).Perm
    (aloft.map (fun p => (p.1.pod, p.1.due + p.2)) ++ trips.map fun t => (t.pod, t.ended))

/-- The last flight of a state, with how long it goes on. -/
theorem exists_concat_aloft {others : List (Flight ω α)} {f : Flight ω α}
    {aloft : List (Flight ω α × ℕ)} (h : aloft.map (·.1) = others ++ [f]) :
    ∃ before nanos, aloft = before ++ [(f, nanos)] ∧ before.map (·.1) = others := by
  obtain ⟨before, last, rfl, hbefore, hlast⟩ := List.map_eq_append_iff.mp h
  obtain ⟨⟨g, nanos⟩, rest, rfl, rfl, hrest⟩ := List.map_eq_cons_iff.mp hlast
  obtain rfl := List.map_eq_nil_iff.mp hrest
  exact ⟨before, nanos, rfl, hbefore⟩

/-- The trip of a pod that starts goes on in its flight. -/
theorem Foreseen.of_launch {op : String → Operation ω α} {s : State ω α} {rest : List (Event α)}
    {aloft : List (Flight ω α × ℕ)} {trips : List Trip} {pod : String} {waiting : List String}
    (next : s.waiting = pod :: waiting)
    (h : Foreseen op (launch op pod waiting s) rest aloft trips) :
    ∃ aloft trips, Foreseen op s (.started pod s.now :: rest) aloft trips := by
  obtain ⟨others, nanos, rfl, hothers⟩ := exists_concat_aloft h.flights
  refine ⟨others, ⟨pod, s.now, nanos⟩ :: trips, h.stuck, hothers, ?_, ?_, ?_, ?_, ?_⟩
  · exact fun p hp => h.goesOn p (List.mem_append_left _ hp)
  · rw [next, List.map_cons, h.waiting]
    rfl
  · rw [startings_started, h.begun, List.map_cons]
  · refine List.forall_mem_cons.mpr ⟨?_, h.lasts⟩
    exact h.goesOn _ (List.mem_append_right _ List.mem_cons_self)
  · have hended := h.ended
    rw [List.map_append, List.append_assoc] at hended
    rwa [endings_started, List.map_cons]

/-- The flights of a state with how long each goes on, told for the earliest one and for the
others. -/
theorem exists_aloft {fs others : List (Flight ω α)} {f : Flight ω α}
    {aloft : List (Flight ω α × ℕ)} (hperm : fs.Perm (f :: others))
    (h : aloft.map (·.1) = others) (nanos : ℕ) :
    ∃ all : List (Flight ω α × ℕ), all.map (·.1) = fs ∧ all.Perm ((f, nanos) :: aloft) := by
  have hmap : fs.Perm (((f, nanos) :: aloft).map (·.1)) := by rwa [List.map_cons, h]
  obtain ⟨all, hall, hperm⟩ :
      Relation.Comp (· = List.map (·.1) ·) List.Perm fs ((f, nanos) :: aloft) := by
    rw [List.eq_map_comp_perm]
    exact hmap
  exact ⟨all, hall.symm, hperm⟩

/-- What is in flight ends with its last turn, or goes on with the next one. -/
theorem Foreseen.of_advance {op : String → Operation ω α} {s : State ω α} {f : Flight ω α}
    {others : List (Flight ω α)} {rest : List (Event α)} {aloft : List (Flight ω α × ℕ)}
    {trips : List Trip} (first : earliest s.flights = some (f, others))
    (h : Foreseen op (advance f others s) rest aloft trips) :
    ∃ rest' aloft trips, (advance f others s).log ++ rest = s.log ++ rest' ∧
      Foreseen op s rest' aloft trips := by
  rcases hturn : f.operation.turn f.turn s.world with ⟨progress, world⟩
  have hperm := perm_of_earliest first
  cases progress with
  | finished result =>
      simp only [advance, hturn] at h ⊢
      -- The end is the next event, and the flight goes on for no time until then.
      obtain ⟨all, hflights, hall⟩ := exists_aloft hperm h.flights 0
      refine ⟨.ended f.pod f.due result :: rest, all, trips, by simp, h.stuck, hflights, ?_,
        h.waiting, h.begun, h.lasts, ?_⟩
      · intro p hp
        rcases List.mem_cons.mp (hall.mem_iff.mp hp) with rfl | hp
        · exact .ends (by rw [hturn])
        · exact h.goesOn p hp
      · rw [endings_ended]
        refine (h.ended.cons _).trans ?_
        exact (hall.map fun p => (p.1.pod, p.1.due + p.2)).symm.append_right _
  | asleep nanos =>
      cases hleft : f.left with
      | zero =>
          simp only [advance, hturn, hleft] at h
          simpa using h.stuck
      | succ left =>
          simp only [advance, hturn, hleft] at h ⊢
          -- Nothing happens, and the flight goes on for this sleep and for what follows it.
          obtain ⟨aloft, more, rfl, hothers⟩ := exists_concat_aloft h.flights
          obtain ⟨all, hflights, hall⟩ := exists_aloft hperm hothers (nanos + more)
          refine ⟨rest, all, trips, rfl, h.stuck, hflights, ?_, h.waiting, h.begun, h.lasts, ?_⟩
          · intro p hp
            rcases List.mem_cons.mp (hall.mem_iff.mp hp) with rfl | hp
            · rw [hleft]
              exact .sleeps (by rw [hturn])
                (h.goesOn _ (List.mem_append_right _ List.mem_cons_self))
            · exact h.goesOn p (List.mem_append_left _ hp)
          · refine h.ended.trans (List.Perm.append_right _ ?_)
            rw [List.map_append]
            refine List.perm_append_comm.trans ?_
            have hends := (hall.map fun p => (p.1.pod, p.1.due + p.2)).symm
            rwa [List.map_cons, ← Nat.add_assoc] at hends
  | stuck =>
      simp only [advance, hturn] at h
      simpa using h.stuck

/-- **All is foreseen** of a run that completes. -/
theorem exists_foreseen (op : String → Operation ω α) (s : State ω α) {T : ℕ}
    (h : (run op none s).ending = .completed T) :
    ∃ rest aloft trips, (run op none s).log = s.log ++ rest ∧ Foreseen op s rest aloft trips := by
  refine run_induction op none (P := fun s out => ∀ T, out.ending = .completed T →
    ∃ rest aloft trips, out.log = s.log ++ rest ∧ Foreseen op s rest aloft trips) ?_ ?_ ?_ s T h
  · intro s out hhalts T hT
    cases hhalts with
    | completed waiting flights stuck =>
        refine ⟨[], [], [], (List.append_nil _).symm, stuck, flights.symm, ?_, waiting.symm, rfl,
          ?_, .refl _⟩
        · exact List.forall_mem_nil _
        · exact List.forall_mem_nil _
    | never => cases hT
    | cancelled => cases hT
  · intro s pod waiting out _ hnext ih T hT
    obtain ⟨rest, aloft, trips, hlog, hforeseen⟩ := ih T hT
    obtain ⟨aloft, trips, hforeseen⟩ := hforeseen.of_launch hnext
    exact ⟨_, aloft, trips, by rw [hlog, launch, List.append_assoc]; rfl, hforeseen⟩
  · intro s f others out _ hfirst _ ih T hT
    obtain ⟨rest, aloft, trips, hlog, hforeseen⟩ := ih T hT
    obtain ⟨rest, aloft, trips, hrest, hforeseen⟩ := hforeseen.of_advance hfirst
    exact ⟨rest, aloft, trips, hlog.trans hrest, hforeseen⟩

/-! ## The times of a fan-out -/

/-- **The times of a fan-out**, told by the trips of its operations. -/
structure Scheduled (op : String → Operation ω α) (pods : List String) (start : ℕ)
    (out : Outcome ω α) (trips : List Trip) : Prop where
  /-- There is a trip for every pod, in the order of the pods. -/
  pods : trips.map (·.pod) = pods
  /-- A trip lasts as long as its operation. -/
  lasts : ∀ t ∈ trips, (op t.pod).Lasts t.lasted
  /-- The log tells when each of the operations begins, -/
  begun : startings out.log = trips.map fun t => (t.pod, t.begun)
  /-- and when it ends. -/
  ended : (endings out.log).Perm (trips.map fun t => (t.pod, t.ended))
  /-- The ends come in the order of time. -/
  sorted : (endTimes out.log).SortedLE
  /-- While places are free, operations begin at the beginning. -/
  early : ∀ i t, trips[i]? = some t → i < slots → t.begun = start
  /-- Any other operation begins with the next end. -/
  late : ∀ i t, trips[i]? = some t → slots ≤ i → (endTimes out.log)[i - slots]? = some t.begun
  /-- The fan-out completes with the last end. -/
  last : out.ending = .completed ((endTimes out.log).getLast?.getD start)

theorem startTimes_eq {log : List (Event α)} {trips : List Trip}
    (h : startings log = trips.map fun t => (t.pod, t.begun)) :
    startTimes log = trips.map (·.begun) := by
  rw [startTimes, h, List.map_map]
  rfl

/-- **The times of a fan-out that completes.** -/
theorem exists_scheduled {op : String → Operation ω α} {pods : List String} {start T : ℕ} {world : ω}
    (h : (fanOut op pods none start world).ending = .completed T) :
    ∃ trips, Scheduled op pods start (fanOut op pods none start world) trips := by
  obtain ⟨rest, aloft, trips, hlog, hforeseen⟩ := exists_foreseen op (initial pods start world) h
  change (fanOut op pods none start world).log = rest at hlog
  have horderly := orderly_fanOut op pods start world
  obtain rfl := List.map_eq_nil_iff.mp hforeseen.flights
  have hbegun := hforeseen.begun
  have hended := hforeseen.ended
  rw [← hlog] at hbegun hended
  refine ⟨trips, hforeseen.waiting, hforeseen.lasts, hbegun, hended,
    sortedLE_endTimes horderly.sorted, ?_, ?_, ?_⟩
  · intro i t ht hi
    apply horderly.startTimes_early hi
    rw [startTimes_eq hbegun, List.getElem?_map, ht]
    rfl
  · intro i t ht hi
    apply horderly.startTimes_late hi
    rw [startTimes_eq hbegun, List.getElem?_map, ht]
    rfl
  · rw [h, ← eq_last_of_completed h]

/-- In an ascending list an entry is no greater than a bound if it has fewer entries before it than
the list has up to the bound. -/
theorem le_of_lt_countP {l : List ℕ} (hl : l.SortedLE) {k n bound : ℕ} (hk : l[k]? = some n)
    (hcount : k < l.countP (· ≤ bound)) : n ≤ bound := by
  by_contra hlt
  obtain ⟨hlength, rfl⟩ := List.getElem?_eq_some_iff.mp hk
  have hdrop : (l.drop k).countP (· ≤ bound) = 0 := by
    have hsorted := (List.sortedLE_iff_pairwise.mp hl).sublist (List.drop_sublist k l)
    rw [List.drop_eq_getElem_cons hlength] at hsorted ⊢
    rw [List.countP_eq_zero]
    intro m hm
    have hle : l[k] ≤ m := by
      rcases List.mem_cons.mp hm with rfl | hm
      · exact le_rfl
      · exact (List.pairwise_cons.mp hsorted).1 m hm
    simpa using lt_of_lt_of_le (not_le.mp hlt) hle
  have htake : (l.take k).countP (· ≤ bound) ≤ k :=
    List.countP_le_length.trans (List.length_take_le k l)
  rw [← List.take_append_drop k l, List.countP_append] at hcount
  omega

namespace Scheduled

variable {op : String → Operation ω α} {pods : List String} {start : ℕ} {out : Outcome ω α}
  {trips : List Trip}

theorem perm_endTimes (h : Scheduled op pods start out trips) :
    (endTimes out.log).Perm (trips.map Trip.ended) := by
  have hperm := h.ended.map (·.2)
  rwa [List.map_map] at hperm

/-- The trips last as long as their operations always do. -/
theorem map_lasted (h : Scheduled op pods start out trips) {lasted : String → ℕ}
    (hop : ∀ pod ∈ pods, (op pod).Takes (lasted pod)) :
    trips.map (·.lasted) = pods.map lasted := by
  rw [← h.pods, List.map_map]
  apply List.map_congr_left
  intro t ht
  refine (hop t.pod ?_).2 t.lasted (h.lasts t ht)
  rw [← h.pods]
  exact List.mem_map_of_mem ht

/-- No trip lasts longer than every operation does. -/
theorem lasted_le (h : Scheduled op pods start out trips) {b : ℕ}
    (hop : ∀ pod ∈ pods, (op pod).Within b) : ∀ t ∈ trips, t.lasted ≤ b := by
  intro t ht
  refine (hop t.pod ?_).2 t.lasted (h.lasts t ht)
  rw [← h.pods]
  exact List.mem_map_of_mem ht

/-- The fan-out is over with the end of one of its operations, or at once if there is none. -/
theorem exists_last (h : Scheduled op pods start out trips) :
    trips = [] ∧ out.ending = .completed start ∨
      ∃ t ∈ trips, out.ending = .completed t.ended ∧ ∀ t' ∈ trips, t'.ended ≤ t.ended := by
  have hlast := h.last
  have hperm := h.perm_endTimes
  cases hends : endTimes out.log using List.reverseRecOn with
  | nil =>
      left
      rw [hends] at hlast hperm
      exact ⟨List.map_eq_nil_iff.mp hperm.symm.eq_nil, hlast⟩
  | append_singleton ends last _ =>
      right
      have hsorted := h.sorted
      rw [hends] at hlast hperm hsorted
      obtain ⟨t, ht, rfl⟩ := List.mem_map.mp (hperm.mem_iff.mp List.mem_concat_self)
      refine ⟨t, ht, by simpa using hlast, ?_⟩
      intro t' ht'
      have hmem := hperm.mem_iff.mpr (List.mem_map_of_mem ht')
      rcases List.mem_append.mp hmem with hbefore | hsame
      · rw [List.sortedLE_iff_pairwise, List.pairwise_append] at hsorted
        exact hsorted.2.2 _ hbefore _ List.mem_cons_self
      · exact (List.mem_singleton.mp hsame).le

/-- **Few pods.**  If all operations have a place from the beginning on, the fan-out takes the time
of the longest one. -/
theorem ending_of_few (h : Scheduled op pods start out trips) (hfew : pods.length ≤ slots) :
    out.ending = .completed (start + (trips.map (·.lasted)).max?.getD 0) := by
  have hbegun : ∀ t ∈ trips, t.begun = start := by
    intro t ht
    obtain ⟨i, hi, hget⟩ := List.getElem_of_mem ht
    have hlength : trips.length = pods.length := by rw [← h.pods, List.length_map]
    exact h.early i t (List.getElem?_eq_some_iff.mpr ⟨hi, hget⟩) (by omega)
  rcases h.exists_last with ⟨rfl, hending⟩ | ⟨t, ht, hending, hlongest⟩
  · exact hending
  · have hmax : (trips.map (·.lasted)).max? = some t.lasted := by
      rw [List.max?_eq_some_iff]
      refine ⟨List.mem_map_of_mem ht, ?_⟩
      intro n hn
      obtain ⟨t', ht', rfl⟩ := List.mem_map.mp hn
      have hle := hlongest t' ht'
      rw [Trip.ended, Trip.ended, hbegun t ht, hbegun t' ht'] at hle
      omega
    rw [hending, hmax, Trip.ended, hbegun t ht]
    rfl

/-- Every place serves its pods one after the other, so an operation that has to wait does so for
one operation fewer than it has rows of `slots` pods before it. -/
theorem begun_le (h : Scheduled op pods start out trips) {b : ℕ} (hb : ∀ t ∈ trips, t.lasted ≤ b)
    {i : ℕ} {t : Trip} (ht : trips[i]? = some t) : t.begun ≤ start + i / slots * b := by
  induction i using Nat.strong_induction_on generalizing t with
  | _ i ih =>
      by_cases hearly : i < slots
      · rw [h.early i t ht hearly]
        exact Nat.le_add_right _ _
      · -- By then the operations of all rows before have ended, one of which had its place.
        have hslots : slots = 10 := rfl
        refine le_of_lt_countP h.sorted (h.late i t ht (by omega)) ?_
        have hi : i < trips.length := (List.getElem?_eq_some_iff.mp ht).1
        have hended : ∀ n ∈ (trips.take (i - slots + 1)).map Trip.ended,
            decide (n ≤ start + i / slots * b) = true := by
          intro n hn
          obtain ⟨t', ht', rfl⟩ := List.mem_map.mp hn
          obtain ⟨j, hj, hget⟩ := List.getElem_of_mem ht'
          rw [List.length_take] at hj
          rw [List.getElem_take] at hget
          have hbegun := ih j (by omega) (List.getElem?_eq_some_iff.mpr ⟨by omega, hget⟩)
          have hlasted := hb t' (List.mem_of_mem_take ht')
          have hrow : (j / slots + 1) * b ≤ i / slots * b := by
            apply Nat.mul_le_mul_right
            rw [hslots] at hj ⊢
            omega
          rw [Nat.succ_mul] at hrow
          rw [decide_eq_true_iff, Trip.ended]
          omega
        calc i - slots < i - slots + 1 := Nat.lt_succ_self _
          _ = ((trips.take (i - slots + 1)).map Trip.ended).length := by
            rw [List.length_map, List.length_take]
            omega
          _ = ((trips.take (i - slots + 1)).map Trip.ended).countP
              (· ≤ start + i / slots * b) := (List.countP_eq_length.mpr hended).symm
          _ ≤ (trips.map Trip.ended).countP (· ≤ start + i / slots * b) :=
            ((List.take_sublist _ _).map _).countP_le
          _ = (endTimes out.log).countP (· ≤ start + i / slots * b) :=
            (h.perm_endTimes.countP_eq _).symm

/-- **Many pods.**  With operations that last no longer than `b` the fan-out takes no longer than `b`
for every `slots` pods, and for those that remain. -/
theorem exists_ending_le (h : Scheduled op pods start out trips) {b : ℕ}
    (hb : ∀ t ∈ trips, t.lasted ≤ b) :
    ∃ T, out.ending = .completed T ∧ T ≤ start + (pods.length + slots - 1) / slots * b := by
  rcases h.exists_last with ⟨rfl, hending⟩ | ⟨t, ht, hending, -⟩
  · exact ⟨start, hending, Nat.le_add_right _ _⟩
  · refine ⟨t.ended, hending, ?_⟩
    obtain ⟨i, hi, hget⟩ := List.getElem_of_mem ht
    have hlength : trips.length = pods.length := by rw [← h.pods, List.length_map]
    have hbegun := h.begun_le hb (List.getElem?_eq_some_iff.mpr ⟨hi, hget⟩)
    have hlasted := hb t ht
    have hslots : slots = 10 := rfl
    have hrow : (i / slots + 1) * b ≤ (pods.length + slots - 1) / slots * b := by
      apply Nat.mul_le_mul_right
      rw [hslots]
      omega
    rw [Nat.succ_mul] at hrow
    rw [Trip.ended]
    omega

end Scheduled

end FaultInjection.Concurrency
