import FaultInjection.Concurrency.FanOut
import Mathlib.Data.List.Infix

/-!
# What a log says

A fan-out keeps a log of starts and ends.  Read from it are the pods whose operations have started
(`starts`) and ended (`ends`), their results (`results`, beside the log itself), the time of the
last event (`lastTime`), and what had started before a given moment (`startsBefore`).
-/

namespace FaultInjection.Concurrency

variable {α : Type}

/-! ## Growing lists -/

/-- What holds of a list holds of it with one more item at its end, when it holds of that. -/
theorem forall_mem_concat {β : Type} {P : β → Prop} {l : List β} {a : β} (hl : ∀ x ∈ l, P x)
    (ha : P a) : ∀ x ∈ l ++ [a], P x := by
  intro x hx
  rcases List.mem_append.mp hx with hx | hx
  · exact hl x hx
  · rw [List.mem_singleton.mp hx]
    exact ha

/-! ## Events -/

/-- The time of an event. -/
def Event.time : Event α → ℕ
  | .started _ time => time
  | .ended _ time _ => time

@[simp] theorem time_started (pod : String) (t : ℕ) :
    (Event.started pod t : Event α).time = t := rfl

@[simp] theorem time_ended (pod : String) (t : ℕ) (result : α) :
    (Event.ended pod t result).time = t := rfl

/-! ## Starts and results -/

/-- The pods whose operations have started, in the order in which they started. -/
def starts (log : List (Event α)) : List String :=
  log.filterMap fun
    | .started pod _ => some pod
    | .ended .. => none

@[simp] theorem starts_nil : starts ([] : List (Event α)) = [] := rfl

@[simp] theorem starts_append (log log' : List (Event α)) :
    starts (log ++ log') = starts log ++ starts log' := by
  simp [starts]

@[simp] theorem starts_started (pod : String) (t : ℕ) :
    starts [(Event.started pod t : Event α)] = [pod] := rfl

@[simp] theorem starts_ended (pod : String) (t : ℕ) (result : α) :
    starts [Event.ended pod t result] = [] := rfl

@[simp] theorem results_nil : results ([] : List (Event α)) = [] := rfl

@[simp] theorem results_append (log log' : List (Event α)) :
    results (log ++ log') = results log ++ results log' := by
  simp [results]

@[simp] theorem results_started (pod : String) (t : ℕ) :
    results [(Event.started pod t : Event α)] = [] := rfl

@[simp] theorem results_ended (pod : String) (t : ℕ) (result : α) :
    results [Event.ended pod t result] = [(pod, result)] := rfl

/-- The pods whose operations have ended, in the order in which they ended. -/
def ends (log : List (Event α)) : List String := (results log).map (·.1)

@[simp] theorem ends_nil : ends ([] : List (Event α)) = [] := rfl

@[simp] theorem ends_append (log log' : List (Event α)) :
    ends (log ++ log') = ends log ++ ends log' := by
  simp [ends]

@[simp] theorem ends_started (pod : String) (t : ℕ) :
    ends [(Event.started pod t : Event α)] = [] := rfl

@[simp] theorem ends_ended (pod : String) (t : ℕ) (result : α) :
    ends [Event.ended pod t result] = [pod] := rfl

@[simp] theorem length_ends (log : List (Event α)) : (ends log).length = (results log).length := by
  simp [ends]

/-- Where every result is the outcome of its pod, the pods that have ended tell the results. -/
theorem results_eq_map_ends {log : List (Event α)} {outcome : String → α}
    (h : ∀ p ∈ results log, p.2 = outcome p.1) :
    results log = (ends log).map fun pod => (pod, outcome pod) := by
  rw [ends, List.map_map]
  conv_lhs => rw [← List.map_id (results log)]
  apply List.map_congr_left
  intro p hp
  exact Prod.ext rfl (h p hp)

/-- A shorter log has fewer starts. -/
theorem starts_mono {log log' : List (Event α)} (h : log <+: log') :
    starts log <+: starts log' :=
  h.filterMap _

/-! ## Times -/

/-- The time of the last event, or of the beginning when nothing has happened. -/
def lastTime (start : ℕ) (log : List (Event α)) : ℕ :=
  (log.getLast?.map Event.time).getD start

@[simp] theorem lastTime_nil (start : ℕ) : lastTime start ([] : List (Event α)) = start := rfl

@[simp] theorem lastTime_append_singleton (start : ℕ) (log : List (Event α)) (e : Event α) :
    lastTime start (log ++ [e]) = e.time := by
  simp [lastTime]

/-- The events stand in the order of time. -/
def Chronological (log : List (Event α)) : Prop := log.Pairwise fun e e' => e.time ≤ e'.time

theorem chronological_nil : Chronological ([] : List (Event α)) := List.Pairwise.nil

/-- A log in the order of time goes on with an event that is not earlier. -/
theorem chronological_append_singleton {log : List (Event α)} {e : Event α} {now : ℕ}
    (hlog : Chronological log) (hpast : ∀ e ∈ log, e.time ≤ now) (he : now ≤ e.time) :
    Chronological (log ++ [e]) := by
  refine List.pairwise_append.mpr ⟨hlog, List.pairwise_singleton _ _, ?_⟩
  intro x hx y hy
  rw [List.mem_singleton.mp hy]
  exact (hpast x hx).trans he

/-- What of a log happened before a moment. -/
def before (c : ℕ) (log : List (Event α)) : List (Event α) := log.filter (·.time < c)

/-- The pods whose operations had started before a moment. -/
def startsBefore (c : ℕ) (log : List (Event α)) : List String := starts (before c log)

end FaultInjection.Concurrency
