import FaultInjection.Proofs.Concurrency.Places

/-!
# Recording

To say what was asked of a cluster, every operation notes its call in the world at its first turn
(`Operation.recorded`) and is otherwise as before.  A fan-out of recorded operations goes as it
would without the notes, and it notes the calls of the operations that have started, in their order
(`fanOut_recorded`): every operation has its first turn at the time at which it starts.
-/

namespace FaultInjection.Concurrency

variable {ω α κ : Type}

open State

/-! ## Notes -/

/-- The operation that notes a call at its first turn. -/
def Operation.recorded (call : κ) (operation : Operation ω α) : Operation (ω × List κ) α where
  more := operation.more
  turn := fun turn world =>
    ((operation.turn turn world.1).1, (operation.turn turn world.1).2,
      if turn = 0 then world.2 ++ [call] else world.2)

/-- A flight of the operation that notes its call. -/
def Flight.recorded (call : String → κ) (f : Flight ω α) : Flight (ω × List κ) α :=
  { pod := f.pod, operation := f.operation.recorded (call f.pod), turn := f.turn, left := f.left,
    due := f.due }

/-- A state with the calls that are noted in it. -/
def State.recorded (call : String → κ) (calls : List κ) (s : State ω α) : State (ω × List κ) α :=
  { world := (s.world, calls), now := s.now, waiting := s.waiting
    flights := s.flights.map (·.recorded call), stuck := s.stuck, log := s.log }

/-- An outcome with the calls of all that has started, after those of the past. -/
def Outcome.recorded (call : String → κ) (past : List κ) (out : Outcome ω α) :
    Outcome (ω × List κ) α :=
  { world := (out.world, past ++ (starts out.log).map call), ending := out.ending, log := out.log }

/-- The pods in flight whose operations have had no turn. -/
def State.fresh (s : State ω α) : List String := (s.flights.filter (·.turn = 0)).map (·.pod)

@[simp] theorem inFlight_recorded (call : String → κ) (calls : List κ) (s : State ω α) :
    (s.recorded call calls).inFlight = s.inFlight := by
  simp [inFlight, State.recorded]

theorem full_recorded {call : String → κ} {calls : List κ} {s : State ω α} :
    (s.recorded call calls).Full ↔ s.Full := by
  rw [Full, inFlight_recorded]
  rfl

/-! ## The notes change nothing else -/

theorem earliest_recorded (call : String → κ) (fs : List (Flight ω α)) :
    earliest (fs.map (·.recorded call)) =
      (earliest fs).map fun p => (p.1.recorded call, p.2.map (·.recorded call)) := by
  induction fs with
  | nil => rfl
  | cons f fs ih =>
      rw [List.map_cons, earliest, earliest, ih]
      cases earliest fs with
      | none => rfl
      | some p =>
          simp only [Option.map_some]
          have hdue : ∀ g : Flight ω α, (g.recorded call).due = g.due := fun _ => rfl
          rw [hdue, hdue]
          split <;> rfl

theorem launch_recorded (op : String → Operation ω α) (call : String → κ) (calls : List κ)
    (pod : String) (waiting : List String) (s : State ω α) :
    launch (fun pod => (op pod).recorded (call pod)) pod waiting (s.recorded call calls) =
      (launch op pod waiting s).recorded call calls := by
  simp only [launch, State.recorded, List.map_append]
  rfl

theorem advance_recorded (call : String → κ) (calls : List κ) (f : Flight ω α)
    (others : List (Flight ω α)) (s : State ω α) :
    advance (f.recorded call) (others.map (·.recorded call)) (s.recorded call calls) =
      (advance f others s).recorded call (if f.turn = 0 then calls ++ [call f.pod] else calls) := by
  rcases hturn : f.operation.turn f.turn s.world with ⟨progress, world⟩
  cases progress with
  | finished result =>
      simp only [advance, Flight.recorded, Operation.recorded, State.recorded, hturn]
  | stuck => simp only [advance, Flight.recorded, Operation.recorded, State.recorded, hturn]
  | asleep nanos =>
      cases hleft : f.left with
      | zero =>
          simp only [advance, Flight.recorded, Operation.recorded, State.recorded, hturn, hleft]
      | succ left =>
          simp only [advance, Flight.recorded, Operation.recorded, State.recorded, hturn, hleft,
            List.map_append, List.map_cons, List.map_nil]

/-! ## What is noted -/

/-- What is noted at a state: the calls of all that has started, apart from those in flight that
have had no turn. -/
structure Noted (call : String → κ) (past : List κ) (s : State ω α) (calls : List κ) : Prop where
  /-- No turn is overdue. -/
  due : ∀ f ∈ s.flights, s.now ≤ f.due
  /-- First turns are due at once. -/
  atOnce : ∀ f ∈ s.flights, f.turn = 0 → f.due = s.now
  calls : calls ++ s.fresh.map call = past ++ (starts s.log).map call

/-- Of the pods without a turn the earliest one comes first. -/
theorem Noted.fresh_eq {call : String → κ} {past calls : List κ} {s : State ω α} {f : Flight ω α}
    {others : List (Flight ω α)} (h : Noted call past s calls)
    (first : earliest s.flights = some (f, others)) :
    s.fresh = (if f.turn = 0 then [f.pod] else []) ++
      (others.filter (·.turn = 0)).map (·.pod) := by
  obtain ⟨pre, post, hflights, rfl, hpre, -⟩ := split_of_earliest first
  rw [State.fresh, hflights, List.filter_append, List.filter_append]
  by_cases hturn : f.turn = 0
  · -- What stands before the earliest flight is due later than at once, so it has had a turn.
    have hnone : pre.filter (·.turn = 0) = [] := by
      rw [List.filter_eq_nil_iff]
      intro g hg
      rw [decide_eq_true_eq]
      intro hzero
      have hgs : g ∈ s.flights := hflights ▸ List.mem_append_left _ hg
      have := h.atOnce g hgs hzero
      have := h.due f (mem_of_earliest first (Or.inl rfl))
      have := hpre g hg
      omega
    rw [hnone, List.filter_cons_of_pos (by simpa using hturn), if_pos hturn]
    rfl
  · rw [List.filter_cons_of_neg (by simpa using hturn), if_neg hturn]
    rfl

theorem Noted.launch {call : String → κ} {past calls : List κ} {s : State ω α}
    (h : Noted call past s calls) (op : String → Operation ω α) (pod : String)
    (waiting : List String) : Noted call past (launch op pod waiting s) calls where
  due := forall_mem_concat h.due le_rfl
  atOnce := forall_mem_concat h.atOnce fun _ => rfl
  calls := by
    have hfresh : (State.launch op pod waiting s).fresh = s.fresh ++ [pod] := by
      simp [State.fresh, State.launch]
    have hstarts : starts (State.launch op pod waiting s).log = starts s.log ++ [pod] := by
      simp [State.launch]
    rw [hfresh, hstarts, List.map_append, List.map_append, ← List.append_assoc, h.calls,
      List.append_assoc]

theorem Noted.advance {call : String → κ} {past calls : List κ} {s : State ω α} {f : Flight ω α}
    {others : List (Flight ω α)} (h : Noted call past s calls)
    (first : earliest s.flights = some (f, others)) :
    Noted call past (advance f others s)
      (if f.turn = 0 then calls ++ [call f.pod] else calls) := by
  have hothers : ∀ g ∈ others, f.due ≤ g.due := fun g hg =>
    due_le_of_earliest first g (mem_of_earliest first (Or.inr hg))
  have hatOnce : ∀ g ∈ others, g.turn = 0 → g.due = f.due := by
    intro g hg hturn
    have := h.atOnce g (mem_of_earliest first (Or.inr hg)) hturn
    have := h.due f (mem_of_earliest first (Or.inl rfl))
    have := hothers g hg
    omega
  have hcalls : (if f.turn = 0 then calls ++ [call f.pod] else calls) ++
      ((others.filter (·.turn = 0)).map (·.pod)).map call = past ++ (starts s.log).map call := by
    rw [← h.calls, h.fresh_eq first]
    split <;> simp
  unfold State.advance
  split
  · exact ⟨hothers, hatOnce, by simpa [State.fresh] using hcalls⟩
  · refine ⟨forall_mem_concat hothers (Nat.le_add_right _ _), forall_mem_concat hatOnce ?_,
      by simpa [State.fresh] using hcalls⟩
    exact fun hturn => absurd hturn (Nat.succ_ne_zero _)
  · exact ⟨hothers, hatOnce, by simpa [State.fresh] using hcalls⟩

/-- Where a run halts, all that has started is noted. -/
theorem Halts.recorded {cancelAt : Option ℕ} {call : String → κ} {past calls : List κ}
    {s : State ω α} {out : Outcome ω α} (hhalts : Halts cancelAt s out)
    (h : Noted call past s calls) (hnow : ∀ c, cancelAt = some c → s.now < c) :
    Halts cancelAt (s.recorded call calls) (out.recorded call past) := by
  -- First turns are due at once, and so before the cancellation.
  have hfresh : s.fresh = [] := by
    rw [State.fresh, List.map_eq_nil_iff, List.filter_eq_nil_iff]
    intro f hf
    rw [decide_eq_true_eq]
    intro hturn
    cases hhalts with
    | completed waiting flights stuck =>
        rw [flights] at hf
        cases hf
    | never full flights stuck cancel =>
        rw [flights] at hf
        cases hf
    | @cancelled c full cancel later busy =>
        have := h.atOnce f hf hturn
        have := hnow c cancel
        have := later f hf
        omega
  have hcalls := h.calls
  rw [hfresh, List.map_nil, List.append_nil] at hcalls
  subst hcalls
  cases hhalts with
  | completed waiting flights stuck =>
      exact .completed waiting (by simp [State.recorded, flights]) stuck
  | never full flights stuck cancel =>
      exact .never (full_recorded.mpr full) (by simp [State.recorded, flights]) stuck cancel
  | cancelled full cancel later busy =>
      refine .cancelled (full_recorded.mpr full) cancel ?_ (by simpa [State.recorded] using busy)
      intro g hg
      obtain ⟨f, hf, rfl⟩ := List.mem_map.mp hg
      exact later f hf

/-- A run of recorded operations is the run, with the notes. -/
theorem run_recorded (op : String → Operation ω α) (cancelAt : Option ℕ) (call : String → κ)
    {past calls : List κ} {s : State ω α} (h : Noted call past s calls)
    (hnow : ∀ c, cancelAt = some c → s.now < c) :
    run (fun pod => (op pod).recorded (call pod)) cancelAt (s.recorded call calls) =
      (run op cancelAt s).recorded call past := by
  refine run_induction op cancelAt (P := fun s out => ∀ calls,
    Noted call past s calls → (∀ c, cancelAt = some c → s.now < c) →
      run (fun pod => (op pod).recorded (call pod)) cancelAt (s.recorded call calls) =
        out.recorded call past) ?_ ?_ ?_ s calls h hnow
  · intro s out hhalts calls h hnow
    exact run_of_halts _ (hhalts.recorded h hnow)
  · intro s pod waiting out hfree hnext ih calls h hnow
    have hrecorded : (s.recorded call calls).inFlight < slots := by
      rwa [inFlight_recorded]
    rw [run_of_free _ _ hrecorded hnext, launch_recorded]
    exact ih calls (h.launch op pod waiting) hnow
  · intro s f others out hfull hfirst hcut ih calls h hnow
    have hrecorded : earliest (s.recorded call calls).flights =
        some (f.recorded call, others.map (·.recorded call)) := by
      rw [State.recorded, earliest_recorded, hfirst]
      rfl
    rw [run_of_turn _ (full_recorded.mpr hfull) hrecorded hcut, advance_recorded]
    refine ih _ (h.advance hfirst) ?_
    intro c hcancel
    rw [now_advance]
    simpa [hcancel, cutsOff] using hcut

/-- **Notes of a fan-out.**  A fan-out of recorded operations goes as without the notes, and it
notes the calls of the operations that have started. -/
theorem fanOut_recorded (op : String → Operation ω α) (call : String → κ) (pods : List String)
    (cancelAt : Option ℕ) (start : ℕ) (world : ω) (past : List κ) :
    fanOut (fun pod => (op pod).recorded (call pod)) pods cancelAt start (world, past) =
      (fanOut op pods cancelAt start world).recorded call past := by
  unfold fanOut
  split
  · simp [Outcome.recorded]
  · next hcut =>
    refine run_recorded op cancelAt call (s := initial pods start world)
      ⟨by simp [initial], by simp [initial], by simp [initial, State.fresh]⟩ ?_
    intro c hcancel
    simpa [hcancel, cutsOff, initial] using hcut

end FaultInjection.Concurrency
