import FaultInjection.Proofs.Concurrency.Steps
import Mathlib.Data.List.Count
import Mathlib.Data.List.Nodup

/-!
# Places

Every pod of a fan-out waits, is in flight, is stuck, or has a result (`Accounted`), time only goes
on (`Timely`), and the places are taken greedily: `Orderly` says of a log that its pods start in the
order of the list, that never more than `slots` operations are in flight, and that no place is left
free while a pod waits.  All three are kept by every step.
-/

namespace FaultInjection.Concurrency

variable {ω α : Type}

open State

/-! ## Where the pods are -/

/-- Where the pods of a fan-out are. -/
structure Accounted (op : String → Operation ω α) (pods : List String) (s : State ω α) : Prop where
  /-- Every pod has started or waits, in the order of the list. -/
  split : starts s.log ++ s.waiting = pods
  /-- What has started has ended, is in flight, or is stuck. -/
  started : (starts s.log).Perm (ends s.log ++ (s.flights.map (·.pod) ++ s.stuck))
  /-- There are enough places. -/
  limited : s.inFlight ≤ slots
  /-- What is in flight for a pod is the operation for that pod. -/
  own : ∀ f ∈ s.flights, f.operation = op f.pod
  /-- The turns that were taken and those that are left are all its turns. -/
  turns : ∀ f ∈ s.flights, f.turn + f.left = (op f.pod).more

/-- The number of operations in flight is that of the starts without the results. -/
theorem Accounted.length_starts {op : String → Operation ω α} {pods : List String} {s : State ω α}
    (h : Accounted op pods s) : (starts s.log).length = (results s.log).length + s.inFlight := by
  rw [h.started.length_eq]
  simp [inFlight]

/-- Whatever is in flight has started. -/
theorem Accounted.pod_mem_starts {op : String → Operation ω α} {pods : List String} {s : State ω α}
    (h : Accounted op pods s) {f : Flight ω α} (hf : f ∈ s.flights) : f.pod ∈ starts s.log := by
  rw [h.started.mem_iff, List.mem_append, List.mem_append]
  exact Or.inr (Or.inl (List.mem_map_of_mem hf))

/-- Whatever is in flight belongs to one of the pods. -/
theorem Accounted.pod_mem {op : String → Operation ω α} {pods : List String} {s : State ω α}
    (h : Accounted op pods s) {f : Flight ω α} (hf : f ∈ s.flights) : f.pod ∈ pods := by
  rw [← h.split]
  exact List.mem_append_left _ (h.pod_mem_starts hf)

theorem accounted_initial (op : String → Operation ω α) (pods : List String) (start : ℕ)
    (world : ω) : Accounted op pods (initial pods start world) where
  split := rfl
  started := .refl _
  limited := Nat.zero_le _
  own := by simp [initial]
  turns := by simp [initial]

/-- Taking the earliest flight out leaves its pod beside those of the others. -/
theorem perm_pods_of_earliest {s : State ω α} {f : Flight ω α} {others : List (Flight ω α)}
    (h : earliest s.flights = some (f, others)) :
    (s.flights.map (·.pod)).Perm (f.pod :: others.map (·.pod)) :=
  (perm_of_earliest h).map _

theorem length_of_earliest {s : State ω α} {f : Flight ω α} {others : List (Flight ω α)}
    (h : earliest s.flights = some (f, others)) : s.flights.length = others.length + 1 :=
  (perm_of_earliest h).length_eq

theorem mem_of_earliest {s : State ω α} {f g : Flight ω α} {others : List (Flight ω α)}
    (h : earliest s.flights = some (f, others)) (hg : g = f ∨ g ∈ others) : g ∈ s.flights :=
  (perm_of_earliest h).mem_iff.mpr (List.mem_cons.mpr hg)

/-- Every step keeps account of the pods. -/
theorem Accounted.step {op : String → Operation ω α} {pods : List String} {s t : State ω α}
    (hstep : Step op s t) (h : Accounted op pods s) : Accounted op pods t := by
  cases hstep with
  | @launch pod waiting free next =>
      refine ⟨?_, ?_, ?_, ?_, ?_⟩
      · simpa [launch, next] using h.split
      · have hstarted := h.started.append_right [pod]
        simp only [launch, starts_append, starts_started, ends_append, ends_started,
          List.map_append, List.map_cons, List.map_nil, List.append_nil]
        refine hstarted.trans ?_
        simp only [List.append_assoc]
        -- The new flight is the last one, so its pod comes before those that are stuck.
        have hcomm : (s.stuck ++ [pod]).Perm ([pod] ++ s.stuck) := List.perm_append_comm
        exact (hcomm.append_left _).append_left _
      · have := free
        simp only [inFlight, launch, List.length_append, List.length_singleton] at this ⊢
        omega
      · exact forall_mem_concat h.own rfl
      · exact forall_mem_concat h.turns (Nat.zero_add _)
  | @finish f others result world full first turn =>
      refine ⟨?_, ?_, ?_, ?_, ?_⟩
      · simpa using h.split
      · -- The pod goes from the flights to the ends.
        have htaken := ((perm_pods_of_earliest first).append_right s.stuck).append_left (ends s.log)
        simpa using h.started.trans htaken
      · have := h.limited
        simp only [inFlight, length_of_earliest first] at this ⊢
        omega
      · exact fun g hg => h.own g (mem_of_earliest first (Or.inr hg))
      · exact fun g hg => h.turns g (mem_of_earliest first (Or.inr hg))
  | @sleep f others nanos left world full first turn more =>
      refine ⟨?_, ?_, ?_, ?_, ?_⟩
      · exact h.split
      · have hpods : (s.flights.map (·.pod)).Perm (others.map (·.pod) ++ [f.pod]) :=
          (perm_pods_of_earliest first).trans (List.perm_append_singleton _ _).symm
        simpa using h.started.trans ((hpods.append_right s.stuck).append_left _)
      · have := h.limited
        simp only [inFlight, length_of_earliest first, List.length_append,
          List.length_singleton] at this ⊢
        omega
      · refine forall_mem_concat ?_ (h.own f (mem_of_earliest first (Or.inl rfl)))
        exact fun g hg => h.own g (mem_of_earliest first (Or.inr hg))
      · refine forall_mem_concat (fun g hg => h.turns g (mem_of_earliest first (Or.inr hg))) ?_
        have := h.turns f (mem_of_earliest first (Or.inl rfl))
        simp only
        omega
  | @stick f others progress world full first turn never =>
      refine ⟨?_, ?_, ?_, ?_, ?_⟩
      · exact h.split
      · -- The pod goes from the flights to those that are stuck.
        have hpods : (s.flights.map (·.pod) ++ s.stuck).Perm
            (others.map (·.pod) ++ (s.stuck ++ [f.pod])) := by
          rw [← List.append_assoc]
          exact ((perm_pods_of_earliest first).append_right s.stuck).trans
            (List.perm_append_singleton _ _).symm
        exact h.started.trans (hpods.append_left _)
      · have := h.limited
        simp only [inFlight, length_of_earliest first, List.length_append,
          List.length_singleton] at this ⊢
        omega
      · exact fun g hg => h.own g (mem_of_earliest first (Or.inr hg))
      · exact fun g hg => h.turns g (mem_of_earliest first (Or.inr hg))

/-! ## Time -/

/-- Time only goes on. -/
structure Timely (start : ℕ) (s : State ω α) : Prop where
  /-- The beginning is past. -/
  begun : start ≤ s.now
  /-- No turn is overdue. -/
  due : ∀ f ∈ s.flights, s.now ≤ f.due
  /-- What happened is past. -/
  past : ∀ e ∈ s.log, e.time ≤ s.now
  /-- The log is in the order of time. -/
  sorted : Chronological s.log

theorem timely_initial (pods : List String) (start : ℕ) (world : ω) :
    Timely start (initial pods start world : State ω α) where
  begun := le_rfl
  due := by simp [initial]
  past := by simp [initial]
  sorted := chronological_nil

/-- A turn of the earliest flight keeps time. -/
theorem Timely.turn {start : ℕ} {s : State ω α} {f : Flight ω α} {others : List (Flight ω α)}
    (h : Timely start s) (first : earliest s.flights = some (f, others)) :
    s.now ≤ f.due ∧ (∀ g ∈ others, f.due ≤ g.due) ∧ ∀ e ∈ s.log, e.time ≤ f.due := by
  have hnow : s.now ≤ f.due := h.due f (mem_of_earliest first (Or.inl rfl))
  exact ⟨hnow, fun g hg => due_le_of_earliest first g (mem_of_earliest first (Or.inr hg)),
    fun e he => (h.past e he).trans hnow⟩

/-- Every step keeps time. -/
theorem Timely.step {op : String → Operation ω α} {start : ℕ} {s t : State ω α}
    (hstep : Step op s t) (h : Timely start s) : Timely start t := by
  cases hstep with
  | @launch pod waiting free next =>
      exact ⟨h.begun, forall_mem_concat h.due le_rfl, forall_mem_concat h.past le_rfl,
        chronological_append_singleton h.sorted h.past le_rfl⟩
  | @finish f others result world full first turn =>
      obtain ⟨hnow, hothers, hpast⟩ := h.turn first
      exact ⟨h.begun.trans hnow, hothers, forall_mem_concat hpast le_rfl,
        chronological_append_singleton h.sorted hpast le_rfl⟩
  | @sleep f others nanos left world full first turn more =>
      obtain ⟨hnow, hothers, hpast⟩ := h.turn first
      exact ⟨h.begun.trans hnow, forall_mem_concat hothers (Nat.le_add_right _ _), hpast,
        h.sorted⟩
  | @stick f others progress world full first turn never =>
      obtain ⟨hnow, hothers, hpast⟩ := h.turn first
      exact ⟨h.begun.trans hnow, hothers, hpast, h.sorted⟩

/-! ## Greedy logs -/

/-- **A log of greedy places.**  A past is what had happened at some moment. -/
structure Orderly (pods : List String) (start : ℕ) (log : List (Event α)) : Prop where
  /-- The pods start in the order of the list. -/
  inOrder : starts log <+: pods
  /-- Never are more operations in flight than there are places. -/
  limited : ∀ past, past <+: log → (starts past).length ≤ (results past).length + slots
  /-- When an operation ends, every place is taken or no pod waits. -/
  noneFree : ∀ past pod time result, past ++ [.ended pod time result] <+: log →
    (starts past).length = (results past).length + slots ∨ starts past = pods
  /-- A pod that starts does so at the time of the event before. -/
  atOnce : ∀ past pod time, past ++ [.started pod time] <+: log → time = lastTime start past
  /-- What ends has started. -/
  begun : ∀ past pod time result, past ++ [.ended pod time result] <+: log → pod ∈ starts past
  /-- The log is in the order of time. -/
  sorted : Chronological log

theorem orderly_nil (pods : List String) (start : ℕ) :
    Orderly pods start ([] : List (Event α)) where
  inOrder := List.nil_prefix
  limited := by
    intro past hpast
    rw [List.prefix_nil.mp hpast]
    exact Nat.zero_le _
  noneFree := by
    intro past pod time result hpast
    simp at hpast
  atOnce := by
    intro past pod time hpast
    simp at hpast
  begun := by
    intro past pod time result hpast
    simp at hpast
  sorted := chronological_nil

/-- A pod takes a place that is free. -/
theorem Orderly.started {pods : List String} {start : ℕ} {log : List (Event α)} {pod : String}
    {t : ℕ} (h : Orderly pods start log) (hpods : starts log ++ [pod] <+: pods)
    (hfree : (starts log).length < (results log).length + slots) (ht : t = lastTime start log)
    (hsorted : Chronological (log ++ [.started pod t])) :
    Orderly pods start (log ++ [.started pod t]) where
  inOrder := by simpa using hpods
  limited := by
    intro past hpast
    rcases List.prefix_concat_iff.mp hpast with rfl | hpast
    · simp only [starts_append, starts_started, results_append, results_started,
        List.append_nil, List.length_append, List.length_singleton]
      omega
    · exact h.limited past hpast
  noneFree := by
    intro past pod' t' result hpast
    rcases List.prefix_concat_iff.mp hpast with heq | hpast
    · simp at heq
    · exact h.noneFree past pod' t' result hpast
  atOnce := by
    intro past pod' t' hpast
    rcases List.prefix_concat_iff.mp hpast with heq | hpast
    · obtain ⟨rfl, hevent⟩ := List.append_inj' heq rfl
      simp only [List.cons.injEq, Event.started.injEq, and_true] at hevent
      rw [hevent.2, ht]
    · exact h.atOnce past pod' t' hpast
  begun := by
    intro past pod' t' result hpast
    rcases List.prefix_concat_iff.mp hpast with heq | hpast
    · simp at heq
    · exact h.begun past pod' t' result hpast
  sorted := hsorted

/-- An operation ends while no place is free for a waiting pod. -/
theorem Orderly.ended {pods : List String} {start : ℕ} {log : List (Event α)} {pod : String}
    {t : ℕ} {result : α} (h : Orderly pods start log)
    (hfull : (starts log).length = (results log).length + slots ∨ starts log = pods)
    (hbegun : pod ∈ starts log)
    (hsorted : Chronological (log ++ [.ended pod t result])) :
    Orderly pods start (log ++ [.ended pod t result]) where
  inOrder := by simpa using h.inOrder
  limited := by
    intro past hpast
    rcases List.prefix_concat_iff.mp hpast with rfl | hpast
    · have := h.limited log List.prefix_rfl
      simp only [starts_append, starts_ended, List.append_nil, results_append, results_ended,
        List.length_append, List.length_singleton]
      omega
    · exact h.limited past hpast
  noneFree := by
    intro past pod' t' result' hpast
    rcases List.prefix_concat_iff.mp hpast with heq | hpast
    · obtain ⟨rfl, -⟩ := List.append_inj' heq rfl
      exact hfull
    · exact h.noneFree past pod' t' result' hpast
  atOnce := by
    intro past pod' t' hpast
    rcases List.prefix_concat_iff.mp hpast with heq | hpast
    · simp at heq
    · exact h.atOnce past pod' t' hpast
  begun := by
    intro past pod' t' result' hpast
    rcases List.prefix_concat_iff.mp hpast with heq | hpast
    · obtain ⟨rfl, hevent⟩ := List.append_inj' heq rfl
      simp only [List.cons.injEq, Event.ended.injEq, and_true] at hevent
      rw [hevent.1]
      exact hbegun
    · exact h.begun past pod' t' result' hpast
  sorted := hsorted

/-! ## Every state of a fan-out -/

/-- What is known of every state of a fan-out over some pods. -/
structure Placed (op : String → Operation ω α) (pods : List String) (start : ℕ) (s : State ω α) :
    Prop where
  accounted : Accounted op pods s
  timely : Timely start s
  orderly : Orderly pods start s.log
  /-- No time has passed since a place became free for a waiting pod. -/
  prompt : s.inFlight < slots → s.waiting ≠ [] → s.now = lastTime start s.log

/-- With no place free for a waiting pod, every place is taken or all pods have started. -/
theorem Accounted.full_iff {op : String → Operation ω α} {pods : List String} {s : State ω α}
    (h : Accounted op pods s) :
    s.Full ↔ (starts s.log).length = (results s.log).length + slots ∨ starts s.log = pods := by
  have hlength := h.length_starts
  have hlimited := h.limited
  have hsplit := h.split
  constructor
  · intro hfull
    by_cases hfree : s.inFlight < slots
    · rw [hfull hfree, List.append_nil] at hsplit
      exact Or.inr hsplit
    · left; omega
  · rintro (htaken | hall) hfree
    · omega
    · rw [hall] at hsplit
      exact List.append_right_eq_self.mp hsplit

theorem placed_initial (op : String → Operation ω α) (pods : List String) (start : ℕ) (world : ω) :
    Placed op pods start (initial pods start world) where
  accounted := accounted_initial op pods start world
  timely := timely_initial pods start world
  orderly := orderly_nil pods start
  prompt := fun _ _ => rfl

theorem Placed.step {op : String → Operation ω α} {pods : List String} {start : ℕ}
    {s t : State ω α} (hstep : Step op s t) (h : Placed op pods start s) :
    Placed op pods start t := by
  have haccounted := h.accounted.step hstep
  have htimely := h.timely.step hstep
  refine ⟨haccounted, htimely, ?_, ?_⟩
  · cases hstep with
    | @launch pod waiting free next =>
        refine h.orderly.started ?_ ?_ (h.prompt free (by simp [next])) htimely.sorted
        · exact ⟨waiting, by simpa [launch] using haccounted.split⟩
        · have := h.accounted.length_starts
          omega
    | finish full first turn =>
        exact h.orderly.ended (h.accounted.full_iff.mp full)
          (h.accounted.pod_mem_starts (mem_of_earliest first (Or.inl rfl))) htimely.sorted
    | sleep full first turn more => exact h.orderly
    | stick full first turn never => exact h.orderly
  · intro hfree hwaiting
    cases hstep with
    | launch free next => simp [launch]
    | finish full first turn => simp
    | sleep full first turn more =>
        -- The place stays taken, so none was free for the pod that waits.
        refine absurd (full ?_) hwaiting
        simpa [inFlight, length_of_earliest first] using hfree
    | stick full first turn never =>
        refine absurd (full ?_) hwaiting
        simp only [inFlight, length_of_earliest first, List.length_append,
          List.length_singleton] at hfree ⊢
        omega

/-- **Every state that a fan-out reaches** keeps account, keeps time, and has a greedy log. -/
theorem placed_of_steps {op : String → Operation ω α} {pods : List String} {start : ℕ} {world : ω}
    {s : State ω α} (h : Steps op (initial pods start world) s) : Placed op pods start s :=
  h.keep (fun _ _ hstep hs => hs.step hstep) (placed_initial op pods start world)

/-! ## Every run -/

/-- An uncancelled fan-out runs from the state in which it begins. -/
theorem fanOut_none (op : String → Operation ω α) (pods : List String) (start : ℕ) (world : ω) :
    fanOut op pods none start world = run op none (initial pods start world) := rfl

/-- An uncancelled fan-out goes through states with known places to one at which it halts. -/
theorem exists_placed_halts (op : String → Operation ω α) (pods : List String) (start : ℕ)
    (world : ω) : ∃ t, Steps op (initial pods start world) t ∧ Placed op pods start t ∧
      Halts none t (fanOut op pods none start world) := by
  obtain ⟨t, hsteps, hhalts, -⟩ := exists_steps_halts op none (initial pods start world)
  exact ⟨t, hsteps, placed_of_steps hsteps, hhalts⟩

/-- The log of an uncancelled fan-out is greedy, however its operations behave. -/
theorem orderly_fanOut (op : String → Operation ω α) (pods : List String) (start : ℕ) (world : ω) :
    Orderly pods start (fanOut op pods none start world).log := by
  obtain ⟨t, -, hplaced, hhalts⟩ := exists_placed_halts op pods start world
  generalize fanOut op pods none start world = out at hhalts ⊢
  cases hhalts with
  | completed => exact hplaced.orderly
  | never => exact hplaced.orderly
  | cancelled _ cancel => simp at cancel

/-- An uncancelled fan-out does not end with a cancellation. -/
theorem ending_ne_cancelled (op : String → Operation ω α) (pods : List String) (start c : ℕ)
    (world : ω) : (fanOut op pods none start world).ending ≠ .cancelled c := by
  obtain ⟨t, -, -, hhalts⟩ := exists_placed_halts op pods start world
  generalize fanOut op pods none start world = out at hhalts ⊢
  cases hhalts with
  | completed => simp
  | never => simp
  | cancelled _ cancel => simp at cancel

/-- Of different pods each one ends once at most. -/
theorem nodup_ends (op : String → Operation ω α) {pods : List String} (hpods : pods.Nodup)
    (start : ℕ) (world : ω) : (ends (fanOut op pods none start world).log).Nodup := by
  obtain ⟨t, -, hplaced, hhalts⟩ := exists_placed_halts op pods start world
  have hstarts : (starts t.log).Nodup := by
    rw [← hplaced.accounted.split] at hpods
    exact hpods.of_append_left
  have hends : (ends t.log).Nodup :=
    (hplaced.accounted.started.nodup_iff.mp hstarts).of_append_left
  generalize fanOut op pods none start world = out at hhalts ⊢
  cases hhalts with
  | completed => exact hends
  | never => exact hends
  | cancelled _ cancel => simp at cancel

/-- A fan-out that completes has started every pod and has one result for every start. -/
theorem perm_ends_of_completed {op : String → Operation ω α} {pods : List String} {start T : ℕ}
    {world : ω} (h : (fanOut op pods none start world).ending = .completed T) :
    starts (fanOut op pods none start world).log = pods ∧
      (ends (fanOut op pods none start world).log).Perm pods := by
  obtain ⟨t, -, hplaced, hhalts⟩ := exists_placed_halts op pods start world
  generalize fanOut op pods none start world = out at h hhalts ⊢
  cases hhalts with
  | completed waiting flights stuck =>
      have hsplit := hplaced.accounted.split
      have hstarted := hplaced.accounted.started
      rw [waiting, List.append_nil] at hsplit
      rw [flights, stuck, List.map_nil, List.append_nil, List.append_nil, hsplit] at hstarted
      exact ⟨hsplit, hstarted.symm⟩
  | never => simp at h
  | cancelled _ cancel => simp at cancel

end FaultInjection.Concurrency
