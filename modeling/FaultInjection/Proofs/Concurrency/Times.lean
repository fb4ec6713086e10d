import FaultInjection.Proofs.Concurrency.Orders
import Mathlib.Data.List.Sort

/-!
# Times of starts and ends

A greedy log tells when a pod starts from its number alone: the first `slots` pods start at the
beginning, and every later one at the moment at which the next operation ends, the pod `slots` at the
first end, the one after it at the second, and so on (`Orderly.startTimes_early`,
`Orderly.startTimes_late`).  A fan-out that completes does so with its last end
(`eq_last_of_completed`).
-/

namespace FaultInjection.Concurrency

variable {ω α : Type}

open State

/-! ## Starts and ends with their times -/

/-- The pods that have started, each with the time of its start. -/
def startings (log : List (Event α)) : List (String × ℕ) :=
  log.filterMap fun
    | .started pod time => some (pod, time)
    | .ended .. => none

/-- The pods that have ended, each with the time of its end. -/
def endings (log : List (Event α)) : List (String × ℕ) :=
  log.filterMap fun
    | .started .. => none
    | .ended pod time _ => some (pod, time)

@[simp] theorem startings_nil : startings ([] : List (Event α)) = [] := rfl

@[simp] theorem startings_append (log log' : List (Event α)) :
    startings (log ++ log') = startings log ++ startings log' := by
  simp [startings]

@[simp] theorem startings_started (pod : String) (t : ℕ) (log : List (Event α)) :
    startings (.started pod t :: log) = (pod, t) :: startings log := rfl

@[simp] theorem startings_ended (pod : String) (t : ℕ) (result : α) (log : List (Event α)) :
    startings (.ended pod t result :: log) = startings log := rfl

@[simp] theorem endings_nil : endings ([] : List (Event α)) = [] := rfl

@[simp] theorem endings_append (log log' : List (Event α)) :
    endings (log ++ log') = endings log ++ endings log' := by
  simp [endings]

@[simp] theorem endings_started (pod : String) (t : ℕ) (log : List (Event α)) :
    endings (.started pod t :: log) = endings log := rfl

@[simp] theorem endings_ended (pod : String) (t : ℕ) (result : α) (log : List (Event α)) :
    endings (.ended pod t result :: log) = (pod, t) :: endings log := rfl

/-- The times of the starts, in their order. -/
def startTimes (log : List (Event α)) : List ℕ := (startings log).map (·.2)

/-- The times of the ends, in their order. -/
def endTimes (log : List (Event α)) : List ℕ := (endings log).map (·.2)

@[simp] theorem length_startTimes (log : List (Event α)) :
    (startTimes log).length = (starts log).length := by
  induction log with
  | nil => rfl
  | cons e log ih => cases e <;> simpa [startTimes, starts] using ih

@[simp] theorem length_endTimes (log : List (Event α)) :
    (endTimes log).length = (results log).length := by
  induction log with
  | nil => rfl
  | cons e log ih => cases e <;> simpa [endTimes, results] using ih

theorem startTimes_concat_started (log : List (Event α)) (pod : String) (t : ℕ) :
    startTimes (log ++ [.started pod t]) = startTimes log ++ [t] := by
  simp [startTimes]

/-- A start with a number in a log with one more start is that one, or has its number before it. -/
theorem getElem?_startTimes_concat {log : List (Event α)} {pod : String} {t i time : ℕ}
    (h : (startTimes (log ++ [.started pod t]))[i]? = some time) :
    (startTimes log)[i]? = some time ∨ i = (starts log).length ∧ t = time := by
  rw [startTimes_concat_started, List.getElem?_append] at h
  split at h
  · exact Or.inl h
  · next hlast =>
    right
    obtain ⟨hlt, heq⟩ := List.getElem?_eq_some_iff.mp h
    rw [List.getElem_singleton] at heq
    rw [List.length_singleton, length_startTimes] at hlt
    rw [length_startTimes] at hlast
    exact ⟨by omega, heq⟩

theorem startTimes_concat_ended (log : List (Event α)) (pod : String) (t : ℕ) (result : α) :
    startTimes (log ++ [.ended pod t result]) = startTimes log := by
  simp [startTimes]

theorem endTimes_concat_started (log : List (Event α)) (pod : String) (t : ℕ) :
    endTimes (log ++ [.started pod t]) = endTimes log := by
  simp [endTimes]

theorem endTimes_concat_ended (log : List (Event α)) (pod : String) (t : ℕ) (result : α) :
    endTimes (log ++ [.ended pod t result]) = endTimes log ++ [t] := by
  simp [endTimes]

/-- In a log in the order of time the ends are in that order. -/
theorem sortedLE_endTimes {log : List (Event α)} (h : Chronological log) :
    (endTimes log).SortedLE := by
  rw [List.sortedLE_iff_pairwise, endTimes, List.pairwise_map, endings]
  refine h.filterMap _ ?_
  intro e e' hle p hp p' hp'
  cases e <;> cases e' <;> simp_all
  subst hp hp'
  exact hle

/-! ## Greedy logs -/

/-- What had happened at some moment of a greedy log is a greedy log. -/
theorem Orderly.of_isPrefix {pods : List String} {start : ℕ} {log past : List (Event α)}
    (h : Orderly pods start log) (hpast : past <+: log) : Orderly pods start past where
  inOrder := (starts_mono hpast).trans h.inOrder
  limited := fun _ h' => h.limited _ (h'.trans hpast)
  noneFree := fun _ _ _ _ h' => h.noneFree _ _ _ _ (h'.trans hpast)
  atOnce := fun _ _ _ h' => h.atOnce _ _ _ (h'.trans hpast)
  begun := fun _ _ _ _ h' => h.begun _ _ _ _ (h'.trans hpast)
  sorted := h.sorted.sublist hpast.sublist

variable {pods : List String} {start : ℕ} {log : List (Event α)}

/-- Since the first end no more than one place has been free for a pod that waits. -/
theorem Orderly.le_length_starts (h : Orderly pods start log)
    (hwaits : (starts log).length < pods.length) (hended : results log ≠ []) :
    (results log).length + slots ≤ (starts log).length + 1 := by
  have hpos : 0 < (results log).length := List.length_pos_iff.mpr hended
  -- At the last end every place was taken, and that place is the only one that has become free.
  have hk : (ends log).length - 1 < (ends log).length := by
    rw [length_ends]
    omega
  obtain ⟨past, time, result, hpast, hlength⟩ := exists_past_of_ends hk
  have hstarts : (starts past).length ≤ (starts log).length :=
    (starts_mono ((List.prefix_append past _).trans hpast)).length_le
  rw [length_ends] at hlength
  rcases h.noneFree past _ time result hpast with htaken | hall
  · omega
  · rw [hall] at hstarts
    omega

/-- A pod that starts after an end does so with that end as the event before. -/
theorem Orderly.getLast_ended {pod : String} {time : ℕ}
    (h : Orderly pods start (log ++ [.started pod time])) (hended : results log ≠ []) :
    (starts log).length + 1 = (results log).length + slots ∧
      (endTimes log).getLast? = some time := by
  have hlog : Orderly pods start log := h.of_isPrefix (List.prefix_append _ _)
  have hwaits : (starts log).length + 1 ≤ pods.length := by
    simpa using h.inOrder.length_le
  have hlimited : (starts log).length + 1 ≤ (results log).length + slots := by
    simpa using h.limited _ List.prefix_rfl
  have hcount := hlog.le_length_starts hwaits hended
  refine ⟨by omega, ?_⟩
  have htime := h.atOnce log pod time List.prefix_rfl
  cases log using List.reverseRecOn with
  | nil => simp at hended
  | append_singleton log e _ =>
      rw [lastTime_append_singleton] at htime
      cases e with
      | ended pod' t result => simp [endTimes_concat_ended, htime]
      | started pod' t =>
          -- A start between that end and this one would have taken the place.
          exfalso
          rw [results_append, results_started, List.append_nil] at hended hlimited
          rw [starts_append, starts_started, List.length_append, List.length_singleton] at hwaits hlimited
          have hbusy := (hlog.of_isPrefix (List.prefix_append _ _)).le_length_starts (by omega) hended
          omega

/-- **The first starts.**  As long as places are free from the beginning on, pods start at the
beginning. -/
theorem Orderly.startTimes_early (h : Orderly pods start log) {i time : ℕ} (hi : i < slots)
    (htime : (startTimes log)[i]? = some time) : time = start := by
  induction log using List.reverseRecOn generalizing i time with
  | nil => simp [startTimes] at htime
  | append_singleton log e ih =>
      have hlog : Orderly pods start log := h.of_isPrefix (List.prefix_append _ _)
      cases e with
      | ended pod t result =>
          rw [startTimes_concat_ended] at htime
          exact ih hlog hi htime
      | started pod t =>
          rcases getElem?_startTimes_concat htime with hbefore | ⟨rfl, rfl⟩
          · exact ih hlog hi hbefore
          · -- Nothing has ended, so the event before, if there is one, is a start, too.
            have hnone : results log = [] := by
              by_contra hended
              have hcount := (h.getLast_ended hended).1
              have := List.length_pos_iff.mpr hended
              omega
            have hlasttime := h.atOnce log pod t List.prefix_rfl
            cases log using List.reverseRecOn with
            | nil => exact hlasttime
            | append_singleton log e _ =>
                cases e with
                | ended pod' t' result => simp at hnone
                | started pod' t' =>
                    rw [lastTime_append_singleton, time_started] at hlasttime
                    refine ih hlog (i := (starts log).length) (by simp at hi; omega) ?_
                    rw [startTimes_concat_started, hlasttime, ← length_startTimes,
                      List.getElem?_concat_length]

/-- **The later starts.**  Every other pod starts when the next operation ends. -/
theorem Orderly.startTimes_late (h : Orderly pods start log) {i time : ℕ} (hi : slots ≤ i)
    (htime : (startTimes log)[i]? = some time) : (endTimes log)[i - slots]? = some time := by
  induction log using List.reverseRecOn generalizing i time with
  | nil => simp [startTimes] at htime
  | append_singleton log e ih =>
      have hlog : Orderly pods start log := h.of_isPrefix (List.prefix_append _ _)
      cases e with
      | ended pod t result =>
          rw [startTimes_concat_ended] at htime
          have hend := ih hlog hi htime
          rw [endTimes_concat_ended, List.getElem?_append_left]
          · exact hend
          · exact (List.getElem?_eq_some_iff.mp hend).1
      | started pod t =>
          rw [endTimes_concat_started]
          rcases getElem?_startTimes_concat htime with hbefore | ⟨rfl, rfl⟩
          · exact ih hlog hi hbefore
          · have hlimited : (starts log).length + 1 ≤ (results log).length + slots := by
              simpa using h.limited _ List.prefix_rfl
            have hended : results log ≠ [] := by
              rw [← List.length_pos_iff]
              omega
            obtain ⟨hcount, hend⟩ := h.getLast_ended hended
            rw [List.getLast?_eq_getElem?, length_endTimes] at hend
            rw [show (starts log).length - slots = (results log).length - 1 by omega]
            exact hend

/-! ## The end of a fan-out -/

/-- **The last end.**  A fan-out that completes does so when its last operation ends, or at once if
there is none. -/
theorem eq_last_of_completed {op : String → Operation ω α} {world : ω} {T : ℕ}
    (h : (fanOut op pods none start world).ending = .completed T) :
    T = (endTimes (fanOut op pods none start world).log).getLast?.getD start := by
  obtain ⟨t, hsteps, -, hhalts⟩ := exists_placed_halts op pods start world
  -- With nothing in flight the last step was an end, or there was no step.
  have hnow : t.flights = [] → t.stuck = [] → t.now = (endTimes t.log).getLast?.getD start := by
    refine hsteps.keep (P := fun s => s.flights = [] → s.stuck = [] →
      s.now = (endTimes s.log).getLast?.getD start) ?_ ?_
    · intro s t hstep _ hflights hstuck
      cases hstep with
      | launch free next => simp [launch] at hflights
      | finish full first turn => simp [endTimes]
      | sleep full first turn more => simp at hflights
      | stick full first turn never => simp at hstuck
    · intro _ _
      rfl
  generalize fanOut op pods none start world = out at h hhalts ⊢
  cases hhalts with
  | completed waiting flights stuck => exact (Ending.completed.inj h) ▸ hnow flights stuck
  | never => simp at h
  | cancelled _ cancel => simp at cancel

end FaultInjection.Concurrency
