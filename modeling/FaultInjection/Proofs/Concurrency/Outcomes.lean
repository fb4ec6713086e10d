import FaultInjection.Proofs.Concurrency.Places
import Mathlib.Data.List.Nodup

/-!
# Outcomes

Operations on one world have outcomes of their own when none of them disturbs what another one finds
(`Independent`), however long each of them sleeps.  A fan-out of such operations over different pods
completes (`exists_completed`), and gives every pod its own outcome (`outcome_of_mem_results`,
`perm_results`).
-/

namespace FaultInjection.Concurrency

variable {ω α : Type}

open State

/-- **Operations with outcomes of their own.**  What the operation of a pod finds in the world when
a turn of it comes is told by `found`: with it the operation returns its outcome, now or after
further sleep, and no turn of another pod's operation takes it away. -/
structure Independent (op : String → Operation ω α) (pods : List String)
    (found : String → ℕ → ω → Prop) (outcome : String → α) : Prop where
  returns : ∀ pod ∈ pods, ∀ turn world, found pod turn world →
    ((op pod).turn turn world).1 = .finished (outcome pod) ∨
      turn < (op pod).more ∧ found pod (turn + 1) ((op pod).turn turn world).2 ∧
        ∃ nanos, ((op pod).turn turn world).1 = .asleep nanos
  apart : ∀ pod ∈ pods, ∀ pod' ∈ pods, pod' ≠ pod → ∀ turn turn' world, found pod turn world →
    found pod' turn' world → found pod' turn' ((op pod).turn turn world).2

/-- Operations that return their outcomes on every world are independent. -/
theorem independent_of_forall {op : String → Operation ω α} {pods : List String}
    {outcome : String → α}
    (h : ∀ pod ∈ pods, ∀ turn world, ((op pod).turn turn world).1 = .finished (outcome pod) ∨
      turn < (op pod).more ∧ ∃ nanos, ((op pod).turn turn world).1 = .asleep nanos) :
    Independent op pods (fun _ _ _ => True) outcome where
  returns := by
    intro pod hpod turn world _
    rcases h pod hpod turn world with hfinished | ⟨hlt, hasleep⟩
    · exact Or.inl hfinished
    · exact Or.inr ⟨hlt, trivial, hasleep⟩
  apart := fun _ _ _ _ _ _ _ _ _ _ => trivial

/-- From a world on, the operations over some pods have these outcomes of their own. -/
def Yields (op : String → Operation ω α) (pods : List String) (world : ω) (outcome : String → α) :
    Prop :=
  ∃ found, Independent op pods found outcome ∧ ∀ pod ∈ pods, found pod 0 world

/-! ## Different pods -/

/-- What is in flight or waits beside a flight is for another pod. -/
theorem Accounted.pod_ne {op : String → Operation ω α} {pods : List String} {s : State ω α}
    (h : Accounted op pods s) (hpods : pods.Nodup) {f : Flight ω α} {others : List (Flight ω α)}
    (first : earliest s.flights = some (f, others)) :
    (∀ g ∈ others, g.pod ≠ f.pod) ∧ ∀ pod ∈ s.waiting, pod ≠ f.pod := by
  have hf : f ∈ s.flights := mem_of_earliest first (Or.inl rfl)
  rw [← h.split, List.nodup_append] at hpods
  obtain ⟨hstarts, -, hwaiting⟩ := hpods
  have hflights : (f.pod :: others.map (·.pod)).Nodup := by
    rw [← (perm_pods_of_earliest first).nodup_iff]
    exact (h.started.nodup_iff.mp hstarts).of_append_right.of_append_left
  constructor
  · intro g hg heq
    exact (List.nodup_cons.mp hflights).1 (heq ▸ List.mem_map_of_mem hg)
  · intro pod hpod heq
    exact hwaiting f.pod (h.pod_mem_starts hf) pod hpod heq.symm

/-! ## What has come of the operations -/

/-- What has come of independent operations so far. -/
structure Settled (found : String → ℕ → ω → Prop) (outcome : String → α) (s : State ω α) :
    Prop where
  /-- Every result is the outcome of its pod. -/
  results : ∀ p ∈ results s.log, p.2 = outcome p.1
  stuck : s.stuck = []
  /-- Every operation that is not over finds what it needs. -/
  waiting : ∀ pod ∈ s.waiting, found pod 0 s.world
  flights : ∀ f ∈ s.flights, found f.pod f.turn s.world

/-- A step gives a pod its own outcome, and takes nothing from another one. -/
theorem Settled.step {op : String → Operation ω α} {pods : List String}
    {found : String → ℕ → ω → Prop} {outcome : String → α} {s t : State ω α}
    (hop : Independent op pods found outcome) (hpods : pods.Nodup)
    (haccounted : Accounted op pods s) (hstep : Step op s t) (h : Settled found outcome s) :
    Settled found outcome t := by
  have hwaiting : ∀ pod ∈ s.waiting, pod ∈ pods := by
    intro pod hpod
    rw [← haccounted.split]
    exact List.mem_append_right _ hpod
  -- A turn of one flight keeps what the others and the waiting pods find.
  have hkeep : ∀ {f others progress world}, earliest s.flights = some (f, others) →
      f.operation.turn f.turn s.world = (progress, world) →
      (∀ g ∈ others, found g.pod g.turn world) ∧ ∀ pod ∈ s.waiting, found pod 0 world := by
    intro f others progress world first turn
    have hf : f ∈ s.flights := mem_of_earliest first (Or.inl rfl)
    obtain ⟨hothers, hwaits⟩ := haccounted.pod_ne hpods first
    have hworld : ((op f.pod).turn f.turn s.world).2 = world := by
      rw [← haccounted.own f hf, turn]
    rw [← hworld]
    constructor
    · intro g hg
      have hgs : g ∈ s.flights := mem_of_earliest first (Or.inr hg)
      exact hop.apart f.pod (haccounted.pod_mem hf) g.pod (haccounted.pod_mem hgs) (hothers g hg)
        f.turn g.turn s.world (h.flights f hf) (h.flights g hgs)
    · intro pod hpod
      exact hop.apart f.pod (haccounted.pod_mem hf) pod (hwaiting pod hpod) (hwaits pod hpod)
        f.turn 0 s.world (h.flights f hf) (h.waiting pod hpod)
  have hreturns : ∀ {f progress world}, f ∈ s.flights →
      f.operation.turn f.turn s.world = (progress, world) →
      progress = .finished (outcome f.pod) ∨
        f.turn < (op f.pod).more ∧ found f.pod (f.turn + 1) world ∧
          ∃ nanos, progress = .asleep nanos := by
    intro f progress world hf turn
    have := hop.returns f.pod (haccounted.pod_mem hf) f.turn s.world (h.flights f hf)
    rwa [← haccounted.own f hf, turn, haccounted.own f hf] at this
  cases hstep with
  | @launch pod waiting free next =>
      refine ⟨by simpa [launch] using h.results, h.stuck, ?_, forall_mem_concat h.flights ?_⟩
      · intro pod' hpod'
        exact h.waiting pod' (next ▸ List.mem_cons_of_mem pod hpod')
      · exact h.waiting pod (next ▸ List.mem_cons_self)
  | @finish f others result world full first turn =>
      have hf : f ∈ s.flights := mem_of_earliest first (Or.inl rfl)
      obtain ⟨hothers, hwaits⟩ := hkeep first turn
      refine ⟨?_, h.stuck, hwaits, hothers⟩
      rw [results_append, results_ended]
      refine forall_mem_concat h.results ?_
      rcases hreturns hf turn with hresult | ⟨-, -, nanos, hasleep⟩
      · exact Progress.finished.inj hresult
      · cases hasleep
  | @sleep f others nanos left world full first turn more =>
      have hf : f ∈ s.flights := mem_of_earliest first (Or.inl rfl)
      obtain ⟨hothers, hwaits⟩ := hkeep first turn
      refine ⟨h.results, h.stuck, hwaits, forall_mem_concat hothers ?_⟩
      rcases hreturns hf turn with hresult | ⟨-, hfound, -⟩
      · cases hresult
      · exact hfound
  | @stick f others progress world full first turn never =>
      -- An operation that returns is not stuck, and has a turn left as long as it sleeps.
      exfalso
      have hf : f ∈ s.flights := mem_of_earliest first (Or.inl rfl)
      have hturns := haccounted.turns f hf
      rcases hreturns hf turn with rfl | ⟨hlt, -, nanos, rfl⟩
      · rcases never with hnever | ⟨-, nanos, hnever⟩
        · cases hnever
        · cases hnever
      · rcases never with hnever | ⟨hleft, -⟩
        · cases hnever
        · omega

theorem settled_of_steps {op : String → Operation ω α} {pods : List String}
    {found : String → ℕ → ω → Prop} {outcome : String → α}
    (hop : Independent op pods found outcome) (hpods : pods.Nodup) {start : ℕ} {world : ω}
    (hworld : ∀ pod ∈ pods, found pod 0 world) {s : State ω α}
    (h : Steps op (initial pods start world) s) : Settled found outcome s := by
  refine (h.keep (P := fun s => Accounted op pods s ∧ Settled found outcome s) ?_ ?_).2
  · intro s t hstep hs
    exact ⟨hs.1.step hstep, hs.2.step hop hpods hs.1 hstep⟩
  · exact ⟨accounted_initial op pods start world, by simp [initial], rfl, hworld,
      by simp [initial]⟩

/-! ## What comes of a fan-out -/

section

variable {op : String → Operation ω α} {pods : List String} {outcome : String → α} {world : ω}
  (hpods : pods.Nodup) (hop : Yields op pods world outcome) (start : ℕ)

include hpods hop

/-- **Own outcomes.**  Every result of a fan-out is the outcome of the pod that it is for. -/
theorem outcome_of_mem_results :
    ∀ p ∈ results (fanOut op pods none start world).log, p.2 = outcome p.1 := by
  obtain ⟨found, hop, hworld⟩ := hop
  obtain ⟨t, hsteps, -, hhalts⟩ := exists_placed_halts op pods start world
  have hsettled := settled_of_steps hop hpods hworld hsteps
  generalize fanOut op pods none start world = out at hhalts ⊢
  cases hhalts with
  | completed => exact hsettled.results
  | never => exact hsettled.results
  | cancelled _ cancel => simp at cancel

/-- **Completion.**  A fan-out of operations that return completes. -/
theorem exists_completed : ∃ T, (fanOut op pods none start world).ending = .completed T := by
  obtain ⟨found, hop, hworld⟩ := hop
  obtain ⟨t, hsteps, -, hhalts⟩ := exists_placed_halts op pods start world
  have hsettled := settled_of_steps hop hpods hworld hsteps
  generalize fanOut op pods none start world = out at hhalts ⊢
  cases hhalts with
  | completed => exact ⟨_, rfl⟩
  | never full flights stuck => exact absurd hsettled.stuck stuck
  | cancelled _ cancel => simp at cancel

/-- **One entry each.**  The results are the pods with their outcomes, in some order. -/
theorem perm_results : (results (fanOut op pods none start world).log).Perm
    (pods.map fun pod => (pod, outcome pod)) := by
  obtain ⟨T, hcompleted⟩ := exists_completed hpods hop start
  rw [results_eq_map_ends (outcome_of_mem_results hpods hop start)]
  exact (perm_ends_of_completed hcompleted).2.map _

end

end FaultInjection.Concurrency
