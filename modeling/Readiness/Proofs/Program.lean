import Readiness.Program

/-! Laws of programs: the run of a sequence is the run of its parts, one after another, and what a
program can only end with is what it ends with in every world. -/
namespace Readiness.Program

variable {ρ σ α β : Type} {Answer : ρ → Type}
variable {world : (request : ρ) → σ → Option (Answer request × σ)}

@[simp] theorem run_pure (value : α) (state : σ) :
    (pure value : Program ρ Answer α).run world state = some (value, state) := rfl

@[simp] theorem run_perform (request : ρ) (state : σ) :
    (perform request : Program ρ Answer _).run world state = world request state := by
  cases answer : world request state <;> simp [perform, run, answer]

theorem run_bind (program : Program ρ Answer α) (next : α → Program ρ Answer β) (state : σ) :
    (program >>= next).run world state =
      (program.run world state).bind fun out => (next out.1).run world out.2 := by
  change (program.bind next).run world state = _
  induction program generalizing state with
  | done value => rfl
  | ask request rest ih =>
    simp only [bind, run]
    cases world request state with
    | none => rfl
    | some out => exact ih out.1 out.2

@[simp] theorem ends_pure {expected : α → Prop} (value : α) :
    (pure value : Program ρ Answer α).Ends expected ↔ expected value := .rfl

theorem ends_bind {expected : β → Prop} (program : Program ρ Answer α)
    (next : α → Program ρ Answer β) :
    (program >>= next).Ends expected ↔ program.Ends fun value => (next value).Ends expected := by
  change (program.bind next).Ends expected ↔ _
  induction program with
  | done value => rfl
  | ask request rest ih => exact forall_congr' ih

theorem Ends.mono {first second : α → Prop} {program : Program ρ Answer α}
    (ends : program.Ends first) (implies : ∀ value, first value → second value) :
    program.Ends second := by
  induction program with
  | done value => exact implies value ends
  | ask request rest ih => exact fun answer => ih answer (ends answer)

theorem ends_of_forall {expected : α → Prop} (program : Program ρ Answer α)
    (holds : ∀ value, expected value) : program.Ends expected := by
  induction program with
  | done value => exact holds value
  | ask request rest ih => exact fun answer => ih answer

theorem Ends.of_run {expected : α → Prop} {program : Program ρ Answer α} {before after : σ}
    {value : α} (ends : program.Ends expected)
    (ran : program.run world before = some (value, after)) : expected value := by
  induction program generalizing before with
  | done result =>
    simp only [run, Option.some.injEq, Prod.mk.injEq] at ran
    exact ran.1 ▸ ends
  | ask request rest ih =>
    simp only [run] at ran
    cases answered : world request before with
    | none => simp [answered] at ran
    | some out =>
      rw [answered] at ran
      exact ih out.1 (ends out.1) ran

/-- A sequence of which the second part hands on the failures of the first ends well only if both do. -/
theorem run_bind_ok {ε δ : Type} {program : Program ρ Answer (Except ε α)}
    {next : Except ε α → Program ρ Answer (Except δ β)} {before after : σ} {result : β}
    (ran : (program >>= next).run world before = some (.ok result, after))
    (fails : ∀ e, ∃ d, next (.error e) = pure (.error d)) :
    ∃ value middle, program.run world before = some (.ok value, middle) ∧
      (next (.ok value)).run world middle = some (.ok result, after) := by
  rw [run_bind, Option.bind_eq_some_iff] at ran
  obtain ⟨⟨answer, middle⟩, first, rest⟩ := ran
  cases answer with
  | ok value => exact ⟨value, middle, first, rest⟩
  | error e =>
    obtain ⟨d, passed⟩ := fails e
    rw [passed] at rest
    cases rest

/-- What a run gives in a world without states, told by its value alone. -/
theorem run_eq_ok {ε : Type} {out : Option (Except ε α × Unit)} {value : α}
    (ran : out.bind (·.1.toOption) = some value) : out = some (.ok value, ()) := by
  obtain ⟨⟨answer, _⟩, rfl, same⟩ := Option.bind_eq_some_iff.1 ran
  cases answer with
  | error => cases same
  | ok result => rw [Option.some.inj same]

inductive Steps (world : (request : ρ) → σ → Option (Answer request × σ)) :
    Program ρ Answer α → σ → Program ρ Answer α → σ → Prop
  | refl {program : Program ρ Answer α} {state : σ} : Steps world program state program state
  | ask {request : ρ} {next : Answer request → Program ρ Answer α} {later : Program ρ Answer α}
    {before middle after : σ} {answer : Answer request}
    (answered : world request before = some (answer, middle))
    (steps : Steps world (next answer) middle later after) :
    Steps world (ask request next) before later after

theorem Steps.request {request : ρ} {answer : Answer request} {before after : σ}
    {next : Answer request → Program ρ Answer α}
    (answered : world request before = some (answer, after)) :
    Steps world (perform request >>= next) before (next answer) after :=
  .ask answered .refl

theorem Steps.trans {first second third : Program ρ Answer α} {before middle after : σ}
    (some : Steps world first before second middle) (more : Steps world second middle third after) :
    Steps world first before third after := by
  induction some with
  | refl => exact more
  | ask answered _ ih => exact .ask answered (ih more)

theorem Steps.bind {first later : Program ρ Answer α} {before after : σ}
    (steps : Steps world first before later after) (next : α → Program ρ Answer β) :
    Steps world (first >>= next) before (later >>= next) after := by
  induction steps with
  | refl => exact .refl
  | ask answered _ ih => exact .ask answered ih

theorem Steps.run_eq {first later : Program ρ Answer α} {before after : σ}
    (steps : Steps world first before later after) :
    first.run world before = later.run world after := by
  induction steps with
  | refl => rfl
  | ask answered _ ih =>
    simp only [run, answered]
    exact ih

section Memory

variable {ρ' μ : Type} {Answer' : ρ' → Type}

theorem bind_assoc {γ : Type} (program : Program ρ Answer α) (first : α → Program ρ Answer β)
    (second : β → Program ρ Answer γ) :
    (program.bind first).bind second = program.bind fun value => (first value).bind second := by
  induction program with
  | done value => rfl
  | ask request next ih => exact congrArg (ask request) (funext ih)

/-- Each request is carried out by a program of its own, with a memory from one to the next. -/
def handleWith (carryOut : μ → (request : ρ) → Program ρ' Answer' (Answer request × μ)) :
    Program ρ Answer α → μ → Program ρ' Answer' (α × μ)
  | done value, memory => done (value, memory)
  | ask request next, memory =>
    (carryOut memory request).bind fun out => (next out.1).handleWith carryOut out.2

theorem handleWith_bind (carryOut : μ → (request : ρ) → Program ρ' Answer' (Answer request × μ))
    (program : Program ρ Answer α) (next : α → Program ρ Answer β) (memory : μ) :
    (program.bind next).handleWith carryOut memory =
      (program.handleWith carryOut memory).bind fun out =>
        (next out.1).handleWith carryOut out.2 := by
  induction program generalizing memory with
  | done value => rfl
  | ask request rest ih =>
    change (carryOut memory request).bind _ = ((carryOut memory request).bind _).bind _
    rw [bind_assoc]
    exact congrArg _ (funext fun out => ih out.1 out.2)

/-- It runs as the program does where each request is answered by a run of its own. -/
theorem run_handleWith (carryOut : μ → (request : ρ) → Program ρ' Answer' (Answer request × μ))
    (world : (request : ρ') → σ → Option (Answer' request × σ)) (program : Program ρ Answer α)
    (memory : μ) (state : σ) :
    (program.handleWith carryOut memory).run world state =
      (program.run (fun request (here : μ × σ) =>
        ((carryOut here.1 request).run world here.2).map fun out =>
          (out.1.1, (out.1.2, out.2))) (memory, state)).map fun out =>
        ((out.1, out.2.1), out.2.2) := by
  induction program generalizing memory state with
  | done value => rfl
  | ask request next ih =>
    refine (run_bind (carryOut memory request) _ state).trans ?_
    rw [run]
    cases (carryOut memory request).run world state with
    | none => rfl
    | some out => exact ih out.1.1 out.1.2 out.2

end Memory

end Readiness.Program
