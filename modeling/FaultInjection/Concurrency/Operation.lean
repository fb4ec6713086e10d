/-!
# Operations in time

An operation acts on a world in turns. After a turn it has either ended, or sleeps until its next
turn, or never continues. The turns themselves take no time.
-/

namespace FaultInjection.Concurrency

/-- How an operation stands after a turn. -/
inductive Progress (α : Type) where
  | finished (result : α)
  | asleep (nanos : Nat)
  | stuck

/-- The longest sleep: thirty years of three hundred and sixty-five days. -/
def longestSleep : Nat := 30 * 365 * 86400 * 1000000000

/-- An operation sleeps for a time, or for the longest possible. -/
def Progress.sleeping {α : Type} (nanos : Nat) : Progress α := .asleep (min nanos longestSleep)

/-- An operation on a world `ω` with a result in `α`. -/
structure Operation (ω α : Type) where
  /-- How many turns there are at most after the first one. -/
  more : Nat
  /-- The turn of a number, on the world as it is then. -/
  turn : Nat → ω → Progress α × ω

namespace Operation

variable {ω α : Type}

/-- The rest of an operation that runs alone, from a turn at a time on. An operation that ends gives
its result and the time. -/
def runFrom (operation : Operation ω α) : Nat → Nat → Nat → ω → Option (α × Nat) × ω
  | left, turn, time, world =>
    match operation.turn turn world, left with
    | (.finished result, world), _ => (some (result, time), world)
    | (.asleep nanos, world), left + 1 => runFrom operation left (turn + 1) (time + nanos) world
    | (_, world), _ => (none, world)

/-- An operation that ends with its turn. -/
theorem runFrom_of_finished {operation : Operation ω α} {left turn time : Nat} {world later : ω}
    {result : α} (h : operation.turn turn world = (.finished result, later)) :
    operation.runFrom left turn time world = (some (result, time), later) := by
  unfold runFrom
  rw [h]

/-- An operation that goes on after a sleep. -/
theorem runFrom_of_asleep {operation : Operation ω α} {left turn time nanos : Nat}
    {world later : ω} (h : operation.turn turn world = (.asleep nanos, later)) :
    operation.runFrom (left + 1) turn time world =
      operation.runFrom left (turn + 1) (time + nanos) later := by
  rw [runFrom.eq_def]
  simp only [h]

/-- Operations with the same next turn and the same turns after it go on alike. -/
theorem runFrom_congr {a b : Operation ω α} {left turn time : Nat} {world world' : ω}
    (first : a.turn turn world = b.turn turn world')
    (rest : ∀ n, turn < n → a.turn n = b.turn n) :
    a.runFrom left turn time world = b.runFrom left turn time world' := by
  rcases hturn : b.turn turn world' with ⟨progress, later⟩
  rw [hturn] at first
  induction left generalizing turn time world world' progress later with
  | zero =>
    unfold runFrom
    cases progress <;> simp only [first, hturn]
  | succ left ih =>
    cases progress with
    | finished result => rw [runFrom_of_finished first, runFrom_of_finished hturn]
    | stuck =>
      unfold runFrom
      simp only [first, hturn]
    | asleep nanos =>
      rw [runFrom_of_asleep first, runFrom_of_asleep hturn]
      have hnext : a.turn (turn + 1) = b.turn (turn + 1) := rest _ (Nat.lt_succ_self turn)
      exact ih (fun n hn => rest n (Nat.lt_of_succ_lt hn)) _ _ (by rw [hnext]) rfl

/-- A whole operation that runs alone: its result and how long it took, if it ends. -/
def runAlone (operation : Operation ω α) (world : ω) : Option (α × Nat) × ω :=
  operation.runFrom operation.more 0 0 world

end Operation

end FaultInjection.Concurrency
