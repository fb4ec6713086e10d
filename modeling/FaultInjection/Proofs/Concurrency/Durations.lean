import FaultInjection.Proofs.Concurrency.Orders

/-!
# Durations

How long an operation lasts is the sum of its sleeps, on the worlds that its turns find
(`Operation.Lasts`).  Operations that never get stuck end at last, and so do fan-outs of them
(`exists_completed_of_returns`).  An operation whose sleeps stay within what is left of a bound ends
within the bound (`within_of_turns`).
-/

namespace FaultInjection.Concurrency

variable {ω α : Type}

open State

/-! ## How long an operation lasts -/

/-- From a turn on, with some turns left after it, an operation may sleep for a time in all and then
end. -/
inductive Operation.LastsFrom (operation : Operation ω α) : ℕ → ℕ → ℕ → Prop
  /-- It ends with this turn. -/
  | ends {turn left : ℕ} {world : ω} {result : α}
      (finished : (operation.turn turn world).1 = .finished result) : LastsFrom operation turn left 0
  /-- It sleeps, and goes on from the next turn. -/
  | sleeps {turn left nanos rest : ℕ} {world : ω}
      (asleep : (operation.turn turn world).1 = .asleep nanos)
      (later : LastsFrom operation (turn + 1) left rest) :
      LastsFrom operation turn (left + 1) (nanos + rest)

/-- An operation may last for a time. -/
def Operation.Lasts (operation : Operation ω α) (nanos : ℕ) : Prop :=
  operation.LastsFrom 0 operation.more nanos

/-- Whatever its turns find, an operation ends at last. -/
def Operation.Returns (operation : Operation ω α) : Prop :=
  ∀ turn ≤ operation.more, ∀ world, (∃ result, (operation.turn turn world).1 = .finished result) ∨
    turn < operation.more ∧ ∃ nanos, (operation.turn turn world).1 = .asleep nanos

/-- Whatever its turns find, an operation ends after this time. -/
def Operation.Takes (operation : Operation ω α) (nanos : ℕ) : Prop :=
  operation.Returns ∧ ∀ n, operation.Lasts n → n = nanos

/-- Whatever its turns find, an operation ends within this time. -/
def Operation.Within (operation : Operation ω α) (nanos : ℕ) : Prop :=
  operation.Returns ∧ ∀ n, operation.Lasts n → n ≤ nanos

/-- **Bounds.**  An operation ends within what is left of a bound at its first turn, if with every
turn it ends, or sleeps no longer than what is left becomes less until the next one. -/
theorem within_of_turns {operation : Operation ω α} (remaining : ℕ → ℕ)
    (h : ∀ turn ≤ operation.more, ∀ world,
      (∃ result, (operation.turn turn world).1 = .finished result) ∨ turn < operation.more ∧
        ∃ nanos, (operation.turn turn world).1 = .asleep nanos ∧
          nanos + remaining (turn + 1) ≤ remaining turn) :
    operation.Within (remaining 0) := by
  constructor
  · intro turn hturn world
    rcases h turn hturn world with hends | ⟨hlt, nanos, hasleep, -⟩
    · exact Or.inl hends
    · exact Or.inr ⟨hlt, nanos, hasleep⟩
  · have hfrom : ∀ turn left n, operation.LastsFrom turn left n → turn + left = operation.more →
        n ≤ remaining turn := by
      intro turn left n hlasts
      induction hlasts with
      | ends => exact fun _ => Nat.zero_le _
      | @sleeps turn left nanos rest world asleep later ih =>
          intro hleft
          have hrest := ih (by omega)
          rcases h turn (by omega) world with ⟨result, hends⟩ | ⟨-, nanos', hasleep, hle⟩
          · rw [asleep] at hends
            cases hends
          · rw [asleep] at hasleep
            cases hasleep
            omega
    exact fun n hlasts => hfrom 0 operation.more n hlasts (Nat.zero_add _)

/-- An operation that sleeps once takes the time of its sleep. -/
theorem takes_after (nanos : ℕ) (result : α) : (Operation.after nanos result).Takes nanos := by
  constructor
  · intro turn _ world
    by_cases hzero : turn = 0
    · subst hzero
      exact Or.inr ⟨Nat.one_pos, nanos, rfl⟩
    · left
      exact ⟨result, if_neg hzero⟩
  · rintro n (⟨⟨⟩⟩ | ⟨hasleep, hlater⟩)
    obtain rfl := Progress.asleep.inj hasleep
    cases hlater
    rfl

/-- **Completion.**  A fan-out of operations that end, whatever they find, completes, also if names
repeat. -/
theorem exists_completed_of_returns {op : String → Operation ω α} {pods : List String}
    (h : ∀ pod ∈ pods, (op pod).Returns) (start : ℕ) (world : ω) :
    ∃ T, (fanOut op pods none start world).ending = .completed T := by
  obtain ⟨t, hsteps, -, hhalts⟩ := exists_placed_halts op pods start world
  have hstuck : Accounted op pods t ∧ t.stuck = [] := by
    refine hsteps.keep (P := fun s => Accounted op pods s ∧ s.stuck = []) ?_
      ⟨accounted_initial op pods start world, rfl⟩
    rintro s t hstep ⟨haccounted, hs⟩
    refine ⟨haccounted.step hstep, ?_⟩
    cases hstep with
    | launch free next => exact hs
    | finish full first turn => exact hs
    | sleep full first turn more => exact hs
    | @stick f others progress later full first turn never =>
        -- A turn that is not the last one ends or sleeps, and the last one ends.
        exfalso
        have hf : f ∈ s.flights := mem_of_earliest first (Or.inl rfl)
        have hturns := haccounted.turns f hf
        rw [haccounted.own f hf] at turn
        have hreturns := h f.pod (haccounted.pod_mem hf) f.turn (by omega) s.world
        rw [turn] at hreturns
        rcases hreturns with ⟨result, rfl⟩ | ⟨hlt, nanos, rfl⟩
        · rcases never with hnever | ⟨-, nanos, hnever⟩
          · cases hnever
          · cases hnever
        · rcases never with hnever | ⟨hleft, -⟩
          · cases hnever
          · omega
  generalize fanOut op pods none start world = out at hhalts ⊢
  cases hhalts with
  | completed => exact ⟨_, rfl⟩
  | never full flights stuck => exact absurd hstuck.2 stuck
  | cancelled _ cancel => cases cancel

end FaultInjection.Concurrency
