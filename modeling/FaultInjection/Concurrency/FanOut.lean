import FaultInjection.Concurrency.Operation

/-!
# Fan-out over pods

One operation is run for every pod of a list. A limited number of them is in flight at a time; as
long as a pod is waiting no place is left free, and the pods start in the order of the list. A
cancellation ends everything at once: what would happen at its time or later does not happen.
-/

namespace FaultInjection.Concurrency

/-- How many operations may be in flight. -/
def slots : Nat := 10

/-! ## Sums -/

/-- The sum of some numbers. -/
def total (counts : List Nat) : Nat := counts.foldr (· + ·) 0

@[simp] theorem total_nil : total [] = 0 := rfl

@[simp] theorem total_cons (n : Nat) (counts : List Nat) :
    total (n :: counts) = n + total counts := rfl

@[simp] theorem total_append (a b : List Nat) : total (a ++ b) = total a + total b := by
  induction a with
  | nil => simp
  | cons n a ih => simp [ih, Nat.add_assoc]

/-- The sum does not depend on the order. -/
theorem total_eq_of_perm {a b : List Nat} (h : a.Perm b) : total a = total b := by
  induction h with
  | nil => rfl
  | cons n _ ih => simp [ih]
  | swap m n r => simp [Nat.add_left_comm]
  | trans _ _ iha ihb => exact iha.trans ihb

/-! ## States -/

/-- An operation in flight. -/
structure Flight (ω α : Type) where
  /-- The pod that it works for. -/
  pod : String
  /-- The operation. -/
  operation : Operation ω α
  /-- The number of its next turn. -/
  turn : Nat
  /-- How many turns there are at most after that one. -/
  left : Nat
  /-- The time of that turn. -/
  due : Nat

/-- What happens in a fan-out. -/
inductive Event (α : Type) where
  | started (pod : String) (time : Nat)
  | ended (pod : String) (time : Nat) (result : α)

/-- A fan-out under way. -/
structure State (ω α : Type) where
  /-- The world that the operations act on. -/
  world : ω
  /-- The time. -/
  now : Nat
  /-- The pods that have not started. -/
  waiting : List String
  /-- The operations that have a next turn, the one that got it last at the end. -/
  flights : List (Flight ω α)
  /-- The pods whose operations never continue. -/
  stuck : List String
  /-- What has happened so far. -/
  log : List (Event α)

namespace State

variable {ω α : Type}

/-- How many operations are in flight. -/
def inFlight (s : State ω α) : Nat := s.flights.length + s.stuck.length

/-- How many turns and starts there are at most to come. -/
def work (op : String → Operation ω α) (s : State ω α) : Nat :=
  total (s.waiting.map fun pod => (op pod).more + 2) + total (s.flights.map fun f => f.left + 1)

/-! ## Steps -/

/-- A waiting pod starts. -/
def launch (op : String → Operation ω α) (pod : String) (waiting : List String) (s : State ω α) :
    State ω α :=
  let operation := op pod
  { s with
    waiting
    flights := s.flights ++ [⟨pod, operation, 0, operation.more, s.now⟩]
    log := s.log ++ [.started pod s.now] }

/-- An operation in flight has its turn. -/
def advance (f : Flight ω α) (others : List (Flight ω α)) (s : State ω α) : State ω α :=
  match f.operation.turn f.turn s.world, f.left with
  | (.finished result, world), _ =>
    { s with world, now := f.due, flights := others, log := s.log ++ [.ended f.pod f.due result] }
  | (.asleep nanos, world), left + 1 =>
    { s with
      world
      now := f.due
      flights := others ++ [{ f with turn := f.turn + 1, left, due := f.due + nanos }] }
  | (_, world), _ =>
    { s with world, now := f.due, flights := others, stuck := s.stuck ++ [f.pod] }

/-- The flight whose turn comes first, and the others; of several the first in the list. -/
def earliest : List (Flight ω α) → Option (Flight ω α × List (Flight ω α))
  | [] => none
  | f :: r =>
    match earliest r with
    | none => some (f, [])
    | some (g, others) => if f.due ≤ g.due then some (f, r) else some (g, f :: others)

/-- Taking the earliest flight out of a list loses nothing else. -/
theorem perm_of_earliest {fs others : List (Flight ω α)} {f : Flight ω α}
    (h : earliest fs = some (f, others)) : fs.Perm (f :: others) := by
  induction fs generalizing f others with
  | nil => simp [earliest] at h
  | cons g r ih =>
    unfold earliest at h
    cases hr : earliest r with
    | none =>
      rw [hr] at h
      cases r with
      | nil => simp at h; obtain ⟨rfl, rfl⟩ := h; exact .refl _
      | cons g' r' =>
        unfold earliest at hr
        split at hr
        · simp at hr
        · split at hr <;> simp at hr
    | some p =>
      obtain ⟨e, rest⟩ := p
      rw [hr] at h
      simp only at h
      split at h
      · simp at h; obtain ⟨rfl, rfl⟩ := h; exact .refl _
      · simp at h
        obtain ⟨rfl, rfl⟩ := h
        exact ((ih hr).cons g).trans (.swap e g rest)

theorem earliest_eq_none_iff {fs : List (Flight ω α)} : earliest fs = none ↔ fs = [] := by
  cases fs with
  | nil => simp [earliest]
  | cons f r =>
    unfold earliest
    split
    · simp
    · split <;> simp

/-- A start leaves less to come. -/
theorem work_launch (op : String → Operation ω α) {pod : String} {waiting : List String}
    {s : State ω α} (h : s.waiting = pod :: waiting) :
    (launch op pod waiting s).work op < s.work op := by
  simp only [work, launch, h, List.map_cons, total_cons, List.map_append, List.map_nil,
    total_append, total_nil]
  omega

/-- A turn leaves less to come. -/
theorem work_advance (op : String → Operation ω α) {f : Flight ω α} {others : List (Flight ω α)}
    {s : State ω α} (h : s.flights.Perm (f :: others)) :
    (advance f others s).work op < s.work op := by
  have hsum : total (s.flights.map fun f => f.left + 1)
      = (f.left + 1) + total (others.map fun f => f.left + 1) := by
    rw [total_eq_of_perm (h.map _), List.map_cons, total_cons]
  unfold advance
  split
  · simp only [work, hsum]; omega
  · next hleft =>
    simp only [work, hsum, hleft, List.map_append, List.map_cons, List.map_nil, total_append,
      total_cons, total_nil]
    omega
  · simp only [work, hsum]; omega

end State

/-! ## Runs -/

/-- How a fan-out ends. -/
inductive Ending where
  | completed (time : Nat)
  | cancelled (time : Nat)
  /-- It neither ends nor is cancelled. -/
  | never
deriving DecidableEq, Repr

/-- What a fan-out leaves behind. -/
structure Outcome (ω α : Type) where
  /-- The world afterwards. -/
  world : ω
  /-- How it ended. -/
  ending : Ending
  /-- What has happened. -/
  log : List (Event α)

/-- The results of a log, in the order in which they came. -/
def results {α : Type} (log : List (Event α)) : List (String × α) :=
  log.filterMap fun
    | .started .. => none
    | .ended pod _ result => some (pod, result)

/-- A time that comes no earlier than the cancellation, if there is one. -/
def cutsOff (cancelAt : Option Nat) (time : Nat) : Bool :=
  match cancelAt with
  | none => false
  | some c => c ≤ time

variable {ω α : Type}

open State in
/-- The rest of a fan-out. -/
def run (op : String → Operation ω α) (cancelAt : Option Nat) (s : State ω α) : Outcome ω α :=
  match _hw : (if s.inFlight < slots then s.waiting else []) with
  | pod :: waiting => run op cancelAt (launch op pod waiting s)
  | [] =>
    match _hf : earliest s.flights with
    | none =>
      let ending :=
        if s.stuck = [] then .completed s.now
        else match cancelAt with
          | none => .never
          | some c => .cancelled c
      ⟨s.world, ending, s.log⟩
    | some (f, others) =>
      if cutsOff cancelAt f.due then ⟨s.world, .cancelled (cancelAt.getD f.due), s.log⟩
      else run op cancelAt (advance f others s)
termination_by s.work op
decreasing_by
  · split at _hw
    · exact work_launch op _hw
    · simp at _hw
  · exact work_advance op (perm_of_earliest _hf)

/-- The fan-out over a list of pods that begins at a time. -/
def fanOut (op : String → Operation ω α) (pods : List String) (cancelAt : Option Nat) (start : Nat)
    (world : ω) : Outcome ω α :=
  if cutsOff cancelAt start then ⟨world, .cancelled start, []⟩
  else run op cancelAt
    { world, now := start, waiting := pods, flights := [], stuck := [], log := [] }

end FaultInjection.Concurrency
