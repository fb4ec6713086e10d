import FaultInjection.Proofs.Concurrency.Log
import Mathlib.Logic.Relation

/-!
# The steps of a fan-out

A fan-out goes from state to state: a waiting pod starts, or the operation in flight whose turn is
next ends, sleeps on, or gets stuck.  `Step` lists these four cases with everything that each of
them changes, and `exists_steps_halts` says that a run is a sequence of steps up to a state in
which it halts.  What is to hold of every run is proved of every step.  In the other direction a run
follows the steps (`run_of_free`, `run_of_turn`, `run_of_step`) and ends where it halts
(`run_of_halts`).
-/

namespace FaultInjection.Concurrency

variable {ω α : Type}

namespace State

/-! ## The turn that comes next -/

/-- **The earliest flight.**  It is the first of those with the least time, and the others keep
their order. -/
theorem split_of_earliest {fs others : List (Flight ω α)} {f : Flight ω α}
    (h : earliest fs = some (f, others)) :
    ∃ pre post, fs = pre ++ f :: post ∧ others = pre ++ post ∧
      (∀ g ∈ pre, f.due < g.due) ∧ ∀ g ∈ post, f.due ≤ g.due := by
  induction fs generalizing f others with
  | nil => simp [earliest] at h
  | cons g r ih =>
      rw [earliest] at h
      cases hr : earliest r with
      | none =>
          rw [hr] at h
          obtain ⟨rfl, rfl⟩ : g = f ∧ [] = others := by simpa using h
          rw [earliest_eq_none_iff] at hr
          subst hr
          exact ⟨[], [], rfl, rfl, by simp, by simp⟩
      | some p =>
          obtain ⟨e, rest⟩ := p
          obtain ⟨pre, post, hfs, hrest, hpre, hpost⟩ := ih hr
          rw [hr] at h
          simp only at h
          split at h
          · next hle =>
            obtain ⟨rfl, rfl⟩ : g = f ∧ r = others := by simpa using h
            refine ⟨[], r, rfl, rfl, by simp, ?_⟩
            intro x hx
            rw [hfs, List.mem_append, List.mem_cons] at hx
            rcases hx with hx | rfl | hx
            · exact hle.trans (hpre x hx).le
            · exact hle
            · exact hle.trans (hpost x hx)
          · next hlt =>
            obtain ⟨rfl, rfl⟩ : e = f ∧ g :: rest = others := by simpa using h
            refine ⟨g :: pre, post, by rw [hfs]; rfl, by rw [hrest]; rfl, ?_, hpost⟩
            intro x hx
            rcases List.mem_cons.mp hx with rfl | hx
            · omega
            · exact hpre x hx

/-- No flight has its turn before the earliest one. -/
theorem due_le_of_earliest {fs others : List (Flight ω α)} {f : Flight ω α}
    (h : earliest fs = some (f, others)) : ∀ g ∈ fs, f.due ≤ g.due := by
  obtain ⟨pre, post, rfl, -, hpre, hpost⟩ := split_of_earliest h
  intro g hg
  rw [List.mem_append, List.mem_cons] at hg
  rcases hg with hg | rfl | hg
  · exact (hpre g hg).le
  · exact le_rfl
  · exact hpost g hg

/-! ## Steps -/

/-- No pod waits while a place is free. -/
def Full (s : State ω α) : Prop := s.inFlight < slots → s.waiting = []

/-- The state in which a fan-out begins. -/
def initial (pods : List String) (start : ℕ) (world : ω) : State ω α :=
  { world, now := start, waiting := pods, flights := [], stuck := [], log := [] }

end State

open State

/-- **One step of a fan-out.** -/
inductive Step (op : String → Operation ω α) : State ω α → State ω α → Prop
  /-- The next waiting pod takes a free place. -/
  | launch {s : State ω α} {pod : String} {waiting : List String} (free : s.inFlight < slots)
      (next : s.waiting = pod :: waiting) : Step op s (launch op pod waiting s)
  /-- An operation ends and frees its place. -/
  | finish {s : State ω α} {f : Flight ω α} {others : List (Flight ω α)} {result : α} {world : ω}
      (full : s.Full) (first : earliest s.flights = some (f, others))
      (turn : f.operation.turn f.turn s.world = (.finished result, world)) :
      Step op s { s with
        world, now := f.due, flights := others, log := s.log ++ [.ended f.pod f.due result] }
  /-- An operation keeps its place and sleeps until its next turn. -/
  | sleep {s : State ω α} {f : Flight ω α} {others : List (Flight ω α)} {nanos left : ℕ} {world : ω}
      (full : s.Full) (first : earliest s.flights = some (f, others))
      (turn : f.operation.turn f.turn s.world = (.asleep nanos, world)) (more : f.left = left + 1) :
      Step op s { s with
        world, now := f.due
        flights := others ++ [{ f with turn := f.turn + 1, left, due := f.due + nanos }] }
  /-- An operation keeps its place for ever. -/
  | stick {s : State ω α} {f : Flight ω α} {others : List (Flight ω α)} {progress : Progress α}
      {world : ω} (full : s.Full) (first : earliest s.flights = some (f, others))
      (turn : f.operation.turn f.turn s.world = (progress, world))
      (never : progress = .stuck ∨ f.left = 0 ∧ ∃ nanos, progress = .asleep nanos) :
      Step op s { s with world, now := f.due, flights := others, stuck := s.stuck ++ [f.pod] }

/-- A turn of the earliest flight is a step. -/
theorem step_advance (op : String → Operation ω α) {s : State ω α} {f : Flight ω α}
    {others : List (Flight ω α)} (full : s.Full) (first : earliest s.flights = some (f, others)) :
    Step op s (advance f others s) := by
  unfold advance
  split
  · next turn => exact .finish full first turn
  · next turn more => exact .sleep full first turn more
  · next progress world finished turn asleep =>
    refine .stick full first turn ?_
    cases progress with
    | finished result => exact absurd rfl (finished result)
    | stuck => exact Or.inl rfl
    | asleep nanos =>
        refine Or.inr ⟨?_, nanos, rfl⟩
        cases hleft : f.left with
        | zero => rfl
        | succ left => exact absurd rfl (asleep nanos left hleft)

/-- Any number of steps. -/
def Steps (op : String → Operation ω α) : State ω α → State ω α → Prop :=
  Relation.ReflTransGen (Step op)

/-- **Invariants.**  What every step keeps is kept by any number of steps. -/
theorem Steps.keep {op : String → Operation ω α} {P : State ω α → Prop}
    (hstep : ∀ s t, Step op s t → P s → P t) {s t : State ω α} (h : Steps op s t) (hs : P s) :
    P t := by
  induction h with
  | refl => exact hs
  | tail _ hlast ih => exact hstep _ _ hlast ih

/-! ## Halting -/

/-- **How a run halts** at a state, and what it leaves behind. -/
inductive Halts (cancelAt : Option ℕ) (t : State ω α) : Outcome ω α → Prop
  /-- Every pod has started and every operation has ended. -/
  | completed (waiting : t.waiting = []) (flights : t.flights = []) (stuck : t.stuck = []) :
      Halts cancelAt t ⟨t.world, .completed t.now, t.log⟩
  /-- Some operation never continues and the others have ended. -/
  | never (full : t.Full) (flights : t.flights = []) (stuck : t.stuck ≠ [])
      (cancel : cancelAt = none) : Halts cancelAt t ⟨t.world, .never, t.log⟩
  /-- Nothing more happens before the cancellation. -/
  | cancelled {c : ℕ} (full : t.Full) (cancel : cancelAt = some c)
      (later : ∀ f ∈ t.flights, c ≤ f.due) (busy : t.flights ≠ [] ∨ t.stuck ≠ []) :
      Halts cancelAt t ⟨t.world, .cancelled c, t.log⟩

/-- Only a cancellation at that time or earlier cuts off. -/
theorem exists_of_cutsOff {cancelAt : Option ℕ} {time : ℕ} (h : cutsOff cancelAt time = true) :
    ∃ c, cancelAt = some c ∧ c ≤ time := by
  cases cancelAt with
  | none => simp [cutsOff] at h
  | some c => exact ⟨c, rfl, by simpa [cutsOff] using h⟩

theorem full_of_nil {s : State ω α} (h : (if s.inFlight < slots then s.waiting else []) = []) :
    s.Full := by
  intro hfree
  rwa [if_pos hfree] at h

/-- **Induction along a run.**  What holds where a run halts, and before a start or a turn whenever
it holds after it, holds of every run. -/
theorem run_induction (op : String → Operation ω α) (cancelAt : Option ℕ)
    {P : State ω α → Outcome ω α → Prop} (halt : ∀ s out, Halts cancelAt s out → P s out)
    (free : ∀ s pod waiting out, s.inFlight < slots → s.waiting = pod :: waiting →
      P (launch op pod waiting s) out → P s out)
    (turn : ∀ s f others out, s.Full → earliest s.flights = some (f, others) →
      cutsOff cancelAt f.due = false → P (advance f others s) out → P s out) (s : State ω α) :
    P s (run op cancelAt s) := by
  induction s using run.induct_unfolding op cancelAt with
  | case1 s pod waiting hw ih =>
      split at hw
      · next hfree => exact free s pod waiting _ hfree hw ih
      · cases hw
  | case2 s hw hf ending =>
      -- Nothing is in flight any more: every operation has ended or is stuck.
      apply halt
      have hflights : s.flights = [] := earliest_eq_none_iff.mp hf
      by_cases hstuck : s.stuck = []
      · have hfree : s.inFlight < slots := by
          simp [inFlight, hflights, hstuck, slots]
        have hending : ending = .completed s.now := dif_pos hstuck
        rw [hending]
        exact .completed (full_of_nil hw hfree) hflights hstuck
      · cases cancelAt with
        | none =>
            have hending : ending = .never := dif_neg hstuck
            rw [hending]
            exact .never (full_of_nil hw) hflights hstuck rfl
        | some c =>
            have hending : ending = .cancelled c := dif_neg hstuck
            rw [hending]
            exact .cancelled (full_of_nil hw) rfl (by simp [hflights]) (Or.inr hstuck)
  | case3 s hw f others hf hcut =>
      -- The earliest turn comes too late, and so do the others.
      apply halt
      obtain ⟨c, rfl, hc⟩ := exists_of_cutsOff hcut
      have hbusy : s.flights ≠ [] := fun h => by simp [h, earliest] at hf
      exact .cancelled (full_of_nil hw) rfl
        (fun g hg => hc.trans (due_le_of_earliest hf g hg)) (Or.inl hbusy)
  | case4 s hw f others hf hcut ih =>
      exact turn s f others _ (full_of_nil hw) hf (by simpa using hcut) ih

/-- A turn takes the time to when it was due. -/
@[simp] theorem now_advance (f : Flight ω α) (others : List (Flight ω α)) (s : State ω α) :
    (advance f others s).now = f.due := by
  unfold advance
  split <;> rfl

/-- **A run is a sequence of steps** up to a state at which it halts, all of them before the
cancellation. -/
theorem exists_steps_halts (op : String → Operation ω α) (cancelAt : Option ℕ) (s : State ω α) :
    ∃ t, Steps op s t ∧ Halts cancelAt t (run op cancelAt s) ∧
      ∀ c, cancelAt = some c → s.now < c → t.now < c := by
  refine run_induction op cancelAt (P := fun s out => ∃ t, Steps op s t ∧
    Halts cancelAt t out ∧ ∀ c, cancelAt = some c → s.now < c → t.now < c) ?_ ?_ ?_ s
  · intro s out hhalts
    exact ⟨s, .refl, hhalts, fun _ _ h => h⟩
  · rintro s pod waiting out hfree hnext ⟨t, hsteps, hhalts, hearly⟩
    exact ⟨t, .head (.launch hfree hnext) hsteps, hhalts, hearly⟩
  · rintro s f others out hfull hfirst hcut ⟨t, hsteps, hhalts, hearly⟩
    refine ⟨t, .head (step_advance op hfull hfirst) hsteps, hhalts, ?_⟩
    intro c hcancel _
    refine hearly c hcancel ?_
    rw [now_advance]
    simpa [hcancel, cutsOff] using hcut

/-! ## Following the steps -/

/-- A run goes on with a pod that takes a free place. -/
theorem run_of_free (op : String → Operation ω α) (cancelAt : Option ℕ) {s : State ω α}
    {pod : String} {waiting : List String} (free : s.inFlight < slots)
    (next : s.waiting = pod :: waiting) :
    run op cancelAt s = run op cancelAt (launch op pod waiting s) := by
  rw [run.eq_def]
  split
  · next pod' waiting' hw =>
    rw [if_pos free, next] at hw
    obtain ⟨rfl, rfl⟩ := List.cons.inj hw
    rfl
  · next hw =>
    rw [if_pos free, next] at hw
    cases hw

/-- A run goes on with the turn of the earliest flight, unless that is cut off. -/
theorem run_of_turn (op : String → Operation ω α) {cancelAt : Option ℕ} {s : State ω α}
    {f : Flight ω α} {others : List (Flight ω α)} (full : s.Full)
    (first : earliest s.flights = some (f, others)) (intime : cutsOff cancelAt f.due = false) :
    run op cancelAt s = run op cancelAt (advance f others s) := by
  rw [run.eq_def]
  split
  · next hw =>
    -- No pod can start, since none waits while a place is free.
    split at hw
    · next hfree =>
      rw [full hfree] at hw
      cases hw
    · cases hw
  · split
    · next hnone =>
      rw [first] at hnone
      cases hnone
    · next hsome =>
      rw [first] at hsome
      obtain ⟨rfl, rfl⟩ := Prod.mk.inj (Option.some.inj hsome)
      rw [intime]
      rfl

/-- A run ends where it halts. -/
theorem run_of_halts (op : String → Operation ω α) {cancelAt : Option ℕ} {t : State ω α}
    {out : Outcome ω α} (h : Halts cancelAt t out) : run op cancelAt t = out := by
  have hfull : t.Full := by
    cases h with
    | completed waiting => exact fun _ => waiting
    | never full => exact full
    | cancelled full => exact full
  rw [run.eq_def]
  split
  · next hw =>
    split at hw
    · next hfree =>
      rw [hfull hfree] at hw
      cases hw
    · cases hw
  · split
    · next hnone =>
      rw [earliest_eq_none_iff] at hnone
      cases h with
      | completed waiting flights stuck => simp [stuck]
      | never full flights stuck cancel => simp [stuck, cancel]
      | cancelled full cancel later busy =>
          have hstuck : t.stuck ≠ [] := busy.resolve_left (absurd hnone)
          simp [hstuck, cancel]
    · next f others hsome =>
      have hf : f ∈ t.flights := (perm_of_earliest hsome).mem_iff.mpr List.mem_cons_self
      cases h with
      | completed waiting flights stuck =>
          rw [flights] at hf
          cases hf
      | never full flights stuck cancel =>
          rw [flights] at hf
          cases hf
      | cancelled full cancel later busy =>
          have hcut : cutsOff cancelAt f.due = true := by
            rw [cancel]
            exact decide_eq_true (later f hf)
          rw [if_pos hcut, cancel]
          rfl

/-- An uncancelled run goes on with every step. -/
theorem run_of_step {op : String → Operation ω α} {s t : State ω α} (h : Step op s t) :
    run op none s = run op none t := by
  cases h with
  | launch free next => exact run_of_free op none free next
  | finish full first turn =>
      rw [run_of_turn op full first rfl]
      simp only [advance, turn]
  | sleep full first turn more =>
      rw [run_of_turn op full first rfl]
      simp only [advance, turn, more]
  | @stick f others progress world full first turn never =>
      rw [run_of_turn op full first rfl]
      rcases never with rfl | ⟨hleft, nanos, rfl⟩
      · simp only [advance, turn]
      · simp only [advance, turn, hleft]

theorem run_of_steps {op : String → Operation ω α} {s t : State ω α} (h : Steps op s t) :
    run op none s = run op none t := by
  induction h with
  | refl => rfl
  | tail _ hlast ih => exact ih.trans (run_of_step hlast)

end FaultInjection.Concurrency
