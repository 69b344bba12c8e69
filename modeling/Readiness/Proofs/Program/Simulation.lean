import Readiness.Proofs.Program

/-! Runs of one program in different worlds. A world that answers as another does lets the program end with
the same value. -/
namespace Readiness.Program

variable {ρ ρ' σ τ α : Type} {Answer : ρ → Type} {Answer' : ρ' → Type}

theorem run_handle (carryOut : (request : ρ) → Program ρ' Answer' (Answer request))
    (world : (request : ρ') → σ → Option (Answer' request × σ)) (program : Program ρ Answer α)
    (state : σ) : (program.handle carryOut).run world state =
      program.run (fun request state => (carryOut request).run world state) state := by
  induction program generalizing state with
  | done value => rfl
  | ask request next ih =>
    refine (run_bind (carryOut request) _ state).trans ?_
    rw [run]
    cases (carryOut request).run world state with
    | none => rfl
    | some out => exact ih out.1 out.2

/-- States of two worlds that are related stay so, and requests are answered alike in them. -/
structure Simulates (world : (request : ρ) → σ → Option (Answer request × σ))
    (world' : (request : ρ) → τ → Option (Answer request × τ)) (allowed : ρ → Prop)
    (related : σ → τ → Prop) : Prop where
  step : ∀ request, allowed request → ∀ state state', related state state' → ∀ answer after,
    world request state = some (answer, after) →
    ∃ after', world' request state' = some (answer, after') ∧ related after after'

theorem Simulates.run {world : (request : ρ) → σ → Option (Answer request × σ)}
    {world' : (request : ρ) → τ → Option (Answer request × τ)} {allowed : ρ → Prop}
    {related : σ → τ → Prop} (simulates : Simulates world world' allowed related)
    {program : Program ρ Answer α} (uses : program.Uses allowed) {before after : σ} {before' : τ}
    {value : α} (begun : related before before')
    (ran : program.run world before = some (value, after)) :
    ∃ after', program.run world' before' = some (value, after') ∧ related after after' := by
  induction program generalizing before before' with
  | done given =>
    obtain ⟨rfl, rfl⟩ := Prod.mk.inj (Option.some.inj ran)
    exact ⟨before', rfl, begun⟩
  | ask request next ih =>
    rw [Program.run] at ran
    split at ran
    · cases ran
    · next answer middle answered =>
      obtain ⟨middle', answered', kept⟩ :=
        simulates.step request uses.1 before before' begun answer middle answered
      rw [Program.run, answered']
      exact ih answer (uses.2 answer) kept ran

end Readiness.Program
