import FaultInjection.Proofs.Concurrency.Places

/-!
# Cancellation

A fan-out that is cancelled at `c` has gone through the same states as without the cancellation, up
to the last one before `c`.  From there on nothing of the uncancelled fan-out happens earlier than
`c` (`Late`).  So the cancellation either comes too late to change anything, or it leaves exactly
what had happened before it (`fanOut_some`).
-/

namespace FaultInjection.Concurrency

variable {ω α : Type}

open State

/-! ## Nothing more before a moment -/

/-- Since some past a fan-out has done nothing before the moment `c`, and it will not. -/
structure Late (c : ℕ) (past : List (Event α)) (s : State ω α) : Prop where
  /-- No turn comes earlier. -/
  due : ∀ f ∈ s.flights, c ≤ f.due
  /-- No pod starts earlier. -/
  full : s.Full ∨ c ≤ s.now
  /-- It is not over earlier. -/
  busy : s.flights ≠ [] ∨ s.stuck ≠ [] ∨ c ≤ s.now
  /-- What has happened since is not earlier. -/
  log : ∃ rest, s.log = past ++ rest ∧ ∀ e ∈ rest, c ≤ e.time

/-- An event that is not earlier leaves the events since the past not earlier. -/
theorem late_log_append {c : ℕ} {past log : List (Event α)} {e : Event α}
    (h : ∃ rest, log = past ++ rest ∧ ∀ e ∈ rest, c ≤ e.time) (he : c ≤ e.time) :
    ∃ rest, log ++ [e] = past ++ rest ∧ ∀ e ∈ rest, c ≤ e.time := by
  obtain ⟨rest, rfl, hrest⟩ := h
  exact ⟨rest ++ [e], List.append_assoc .., forall_mem_concat hrest he⟩

/-- No step is earlier. -/
theorem Late.step {op : String → Operation ω α} {c : ℕ} {past : List (Event α)} {s t : State ω α}
    (hstep : Step op s t) (h : Late c past s) : Late c past t := by
  cases hstep with
  | @launch pod waiting free next =>
      have hnow : c ≤ s.now := by
        rcases h.full with hfull | hnow
        · rw [hfull free] at next
          cases next
        · exact hnow
      exact ⟨forall_mem_concat h.due hnow, Or.inr hnow, Or.inr (Or.inr hnow),
        late_log_append h.log hnow⟩
  | @finish f others result world full first turn =>
      have hdue := h.due f (mem_of_earliest first (Or.inl rfl))
      exact ⟨fun g hg => h.due g (mem_of_earliest first (Or.inr hg)), Or.inr hdue,
        Or.inr (Or.inr hdue), late_log_append h.log hdue⟩
  | @sleep f others nanos left world full first turn more =>
      have hdue := h.due f (mem_of_earliest first (Or.inl rfl))
      refine ⟨forall_mem_concat ?_ ?_, Or.inr hdue, Or.inr (Or.inr hdue), h.log⟩
      · exact fun g hg => h.due g (mem_of_earliest first (Or.inr hg))
      · exact hdue.trans (Nat.le_add_right _ _)
  | @stick f others progress world full first turn never =>
      have hdue := h.due f (mem_of_earliest first (Or.inl rfl))
      exact ⟨fun g hg => h.due g (mem_of_earliest first (Or.inr hg)), Or.inr hdue,
        Or.inr (Or.inr hdue), h.log⟩

/-- The rest of a fan-out is not earlier, and neither is its completion. -/
theorem Late.run {c : ℕ} {past : List (Event α)} {s : State ω α} (h : Late c past s)
    (op : String → Operation ω α) :
    (∀ T, (run op none s).ending = .completed T → c ≤ T) ∧
      ∃ rest, (run op none s).log = past ++ rest ∧ ∀ e ∈ rest, c ≤ e.time := by
  obtain ⟨t, hsteps, hhalts, -⟩ := exists_steps_halts op none s
  have ht : Late c past t := hsteps.keep (fun _ _ hstep hs => hs.step hstep) h
  generalize Concurrency.run op none s = out at hhalts ⊢
  cases hhalts with
  | completed waiting flights stuck =>
      refine ⟨?_, ht.log⟩
      intro T hT
      rw [← Ending.completed.inj hT]
      rcases ht.busy with hbusy | hbusy | hnow
      · exact absurd flights hbusy
      · exact absurd stuck hbusy
      · exact hnow
  | never => exact ⟨fun _ hT => (nomatch hT), ht.log⟩
  | cancelled _ cancel => simp at cancel

/-! ## Cancelled fan-outs -/

/-- What happened before a moment, of a past before it and a rest that is not. -/
theorem before_append {c : ℕ} {past rest : List (Event α)} (hpast : ∀ e ∈ past, e.time < c)
    (hrest : ∀ e ∈ rest, c ≤ e.time) : before c (past ++ rest) = past := by
  rw [before, List.filter_append, List.filter_eq_self.mpr, List.filter_eq_nil_iff.mpr,
    List.append_nil]
  · intro e he
    simpa using hrest e he
  · intro e he
    simpa using hpast e he

/-- **A fan-out that is cut short** by a cancellation at `c`, beside the full one. -/
structure CutShort (c start : ℕ) (full cut : Outcome ω α) : Prop where
  /-- The full one does not complete before the cancellation. -/
  late : ∀ T, full.ending = .completed T → c ≤ T
  /-- The cut one ends with the cancellation, or at once if that is past. -/
  ending : cut.ending = .cancelled (max start c)
  /-- What has happened is what happened in the full one before the cancellation. -/
  log : cut.log = before c full.log
  past : cut.log <+: full.log

theorem cutShort_of_late {op : String → Operation ω α} {c start : ℕ} {s : State ω α}
    {cut : Outcome ω α} (h : Late c s.log s) (hpast : ∀ e ∈ s.log, e.time < c)
    (hending : cut.ending = .cancelled (max start c)) (hlog : cut.log = s.log) :
    CutShort c start (run op none s) cut := by
  obtain ⟨hlate, rest, hfull, hrest⟩ := h.run op
  refine ⟨hlate, hending, ?_, ?_⟩
  · rw [hlog, hfull, before_append hpast hrest]
  · rw [hlog, hfull]
    exact List.prefix_append _ _

/-- **Cancellation is exact.**  Either the fan-out is over before the cancellation and the same as
without it, or it is cut short. -/
theorem fanOut_some (op : String → Operation ω α) (pods : List String) (c start : ℕ) (world : ω) :
    (∃ T, T < c ∧ (fanOut op pods none start world).ending = .completed T ∧
      fanOut op pods (some c) start world = fanOut op pods none start world) ∨
    CutShort c start (fanOut op pods none start world) (fanOut op pods (some c) start world) := by
  rw [fanOut_none]
  by_cases hstart : c ≤ start
  · right
    have hcut : fanOut op pods (some c) start world = ⟨world, .cancelled start, []⟩ := by
      simp [fanOut, cutsOff, hstart]
    rw [hcut]
    refine cutShort_of_late ⟨by simp [initial], Or.inr hstart, Or.inr (Or.inr hstart),
      [], rfl, by simp⟩ (by simp [initial]) ?_ rfl
    rw [max_eq_left hstart]
  · have hcut : fanOut op pods (some c) start world
        = run op (some c) (initial pods start world) := by
      simp [fanOut, cutsOff, hstart, initial]
    obtain ⟨t, hsteps, hhalts, hearly⟩ :=
      exists_steps_halts op (some c) (initial pods start world)
    have htimely : Timely start t := (placed_of_steps hsteps).timely
    have hnow : t.now < c := hearly c rfl (not_le.mp hstart)
    -- The full run goes through the same states, and on from the last of them.
    rw [hcut, run_of_steps hsteps]
    generalize run op (some c) (initial pods start world) = cut at hhalts ⊢
    cases hhalts with
    | completed waiting flights stuck =>
        left
        rw [run_of_halts op (.completed waiting flights stuck)]
        exact ⟨t.now, hnow, rfl, rfl⟩
    | never full flights stuck cancel => cases cancel
    | @cancelled c' full cancel later busy =>
        right
        obtain rfl : c = c' := Option.some.inj cancel
        refine cutShort_of_late ⟨later, Or.inl full, ?_, [], by simp, by simp⟩
          (fun e he => (htimely.past e he).trans_lt hnow) ?_ rfl
        · rcases busy with hbusy | hbusy
          · exact Or.inl hbusy
          · exact Or.inr (Or.inl hbusy)
        · rw [max_eq_right (not_le.mp hstart).le]

/-- No fan-out completes before it begins. -/
theorem le_of_completed {op : String → Operation ω α} {pods : List String} {start T : ℕ} {world : ω}
    (h : (fanOut op pods none start world).ending = .completed T) : start ≤ T := by
  have hlate : Late start [] (initial pods start world : State ω α) :=
    ⟨by simp [initial], Or.inr le_rfl, Or.inr (Or.inr le_rfl), [], rfl, by simp⟩
  exact (hlate.run op).1 T h

/-- A fan-out that does not complete before a cancellation is cut short by it. -/
theorem cutShort_of_le {op : String → Operation ω α} {pods : List String} {c start : ℕ} {world : ω}
    (hlate : c ≤ start ∨
      ∀ T, (fanOut op pods none start world).ending = .completed T → c ≤ T) :
    CutShort c start (fanOut op pods none start world) (fanOut op pods (some c) start world) := by
  rcases fanOut_some op pods c start world with ⟨T, hlt, hcompleted, -⟩ | hcut
  · have hstart := le_of_completed hcompleted
    rcases hlate with hlate | hlate
    · omega
    · have := hlate T hcompleted
      omega
  · exact hcut

/-- A fan-out that completes before a cancellation is not touched by it. -/
theorem fanOut_some_of_lt {op : String → Operation ω α} {pods : List String} {c start T : ℕ}
    {world : ω} (h : (fanOut op pods none start world).ending = .completed T) (hlt : T < c) :
    fanOut op pods (some c) start world = fanOut op pods none start world := by
  rcases fanOut_some op pods c start world with ⟨-, -, -, heq⟩ | hcut
  · exact heq
  · have := hcut.late T h
    omega

/-- A fan-out that completes is the one without a cancellation. -/
theorem fanOut_of_completed {op : String → Operation ω α} {pods : List String}
    {cancelAt : Option ℕ} {start T : ℕ} {world : ω}
    (h : (fanOut op pods cancelAt start world).ending = .completed T) :
    fanOut op pods cancelAt start world = fanOut op pods none start world := by
  cases cancelAt with
  | none => rfl
  | some c =>
      rcases fanOut_some op pods c start world with ⟨-, -, -, heq⟩ | hcut
      · exact heq
      · rw [hcut.ending] at h
        cases h

/-- A fan-out that completes has started every pod and has one result for every start, with a
cancellation that comes later or without one. -/
theorem starts_ends_of_completed {op : String → Operation ω α} {pods : List String}
    {cancelAt : Option ℕ} {start T : ℕ} {world : ω}
    (h : (fanOut op pods cancelAt start world).ending = .completed T) :
    starts (fanOut op pods cancelAt start world).log = pods ∧
      (ends (fanOut op pods cancelAt start world).log).Perm pods := by
  have hfull := fanOut_of_completed h
  rw [hfull] at h ⊢
  exact perm_ends_of_completed h

/-- The pods start in the order of the list, with a cancellation or without. -/
theorem starts_fanOut (op : String → Operation ω α) (pods : List String) (cancelAt : Option ℕ)
    (start : ℕ) (world : ω) : starts (fanOut op pods cancelAt start world).log <+: pods := by
  have hfull := (orderly_fanOut op pods start world).inOrder
  cases cancelAt with
  | none => exact hfull
  | some c =>
      rcases fanOut_some op pods c start world with ⟨-, -, -, heq⟩ | hcut
      · rw [heq]
        exact hfull
      · exact (starts_mono hcut.past).trans hfull

end FaultInjection.Concurrency
