import Readiness.Proofs.Program

/-! What a program asks, what it is answered and what it ends with. The record of a sequence is the
records of its parts, one after another; and a program keeps to what it may ask if its parts do. -/
namespace Readiness.Program

variable {ρ ρ' α β : Type} {Answer : ρ → Type} {Answer' : ρ' → Type}

structure Exchange (Answer : ρ → Type) where
  request : ρ
  answer : Answer request

/-- With these answers to all that it asks, one after another, the program ends with `value`. -/
inductive Yields : Program ρ Answer α → List (Exchange Answer) → α → Prop
  | done {value : α} : Yields (done value) [] value
  | ask {request : ρ} {next : Answer request → Program ρ Answer α} {answer : Answer request}
    {record : List (Exchange Answer)} {value : α} (rest : Yields (next answer) record value) :
    Yields (ask request next) (⟨request, answer⟩ :: record) value

section Yields

variable {record : List (Exchange Answer)} {value : α} {result : β}

theorem yields_done {given : α} :
    (done given : Program ρ Answer α).Yields record value ↔ record = [] ∧ value = given := by
  constructor
  · rintro ⟨⟩
    exact ⟨rfl, rfl⟩
  · rintro ⟨rfl, rfl⟩
    exact .done

theorem yields_ask {request : ρ} {next : Answer request → Program ρ Answer α} :
    (ask request next).Yields record value ↔
      ∃ answer rest, record = ⟨request, answer⟩ :: rest ∧ (next answer).Yields rest value := by
  constructor
  · rintro (_ | rest)
    exact ⟨_, _, rfl, rest⟩
  · rintro ⟨answer, rest, rfl, yields⟩
    exact .ask yields

theorem yields_perform {request : ρ} {answer : Answer request} :
    (perform request).Yields record answer ↔ record = [⟨request, answer⟩] := by
  simp only [perform, yields_ask, yields_done]
  constructor
  · rintro ⟨_, _, rfl, rfl, rfl⟩
    rfl
  · rintro rfl
    exact ⟨_, _, rfl, rfl, rfl⟩

theorem yields_bind {program : Program ρ Answer α} {next : α → Program ρ Answer β} :
    (program >>= next).Yields record result ↔
      ∃ value first rest, record = first ++ rest ∧ program.Yields first value ∧
        (next value).Yields rest result := by
  change (program.bind next).Yields record result ↔ _
  induction program generalizing record with
  | done given =>
    constructor
    · exact fun yields => ⟨given, [], record, rfl, .done, yields⟩
    · rintro ⟨_, _, rest, rfl, ⟨⟩, yields⟩
      exact yields
  | ask request more ih =>
    rw [bind, yields_ask]
    constructor
    · rintro ⟨answer, rest, rfl, yields⟩
      obtain ⟨value, first, rest, rfl, given, yields⟩ := (ih answer).1 yields
      exact ⟨value, _, rest, rfl, .ask given, yields⟩
    · rintro ⟨value, _, rest, rfl, before, yields⟩
      obtain ⟨answer, first, rfl, given⟩ := yields_ask.1 before
      exact ⟨answer, _, rfl, (ih answer).2 ⟨value, first, rest, rfl, given, yields⟩⟩

theorem yields_map {program : Program ρ Answer α} {f : α → β} :
    (program >>= fun value => pure (f value)).Yields record result ↔
      ∃ value, program.Yields record value ∧ result = f value := by
  refine yields_bind.trans ⟨?_, ?_⟩
  · rintro ⟨value, first, rest, rfl, given, ended⟩
    obtain ⟨rfl, rfl⟩ := yields_done.1 ended
    exact ⟨value, by rwa [List.append_nil], rfl⟩
  · rintro ⟨value, given, rfl⟩
    exact ⟨value, record, [], (List.append_nil record).symm, given, .done⟩

theorem exists_yields {σ : Type} {world : (request : ρ) → σ → Option (Answer request × σ)}
    {program : Program ρ Answer α} {before after : σ}
    (ran : program.run world before = some (value, after)) :
    ∃ record, program.Yields record value := by
  induction program generalizing before with
  | done given =>
    obtain ⟨rfl, -⟩ := Prod.mk.inj (Option.some.inj ran)
    exact ⟨[], .done⟩
  | ask request next ih =>
    rw [run] at ran
    split at ran
    · cases ran
    · obtain ⟨record, yields⟩ := ih _ ran
      exact ⟨_ :: record, .ask yields⟩

/-- Each request of the program stands in the record of the one it is carried out by. -/
theorem Yields.of_handle {carryOut : (request : ρ) → Program ρ' Answer' (Answer request)}
    {program : Program ρ Answer α} {record : List (Exchange Answer')}
    (yields : (program.handle carryOut).Yields record value) :
    ∃ parts : List (Exchange Answer × List (Exchange Answer')),
      program.Yields (parts.map (·.1)) value ∧ record = parts.flatMap (·.2) ∧
        ∀ part ∈ parts, (carryOut part.1.request).Yields part.2 part.1.answer := by
  induction program generalizing record with
  | done given =>
    obtain ⟨rfl, rfl⟩ := yields_done.1 yields
    exact ⟨[], .done, rfl, nofun⟩
  | ask request next ih =>
    obtain ⟨answer, first, rest, rfl, given, yields⟩ := yields_bind.1 yields
    obtain ⟨parts, inner, rfl, carried⟩ := ih answer yields
    exact ⟨(⟨request, answer⟩, first) :: parts, .ask inner, rfl,
      List.forall_mem_cons.2 ⟨given, carried⟩⟩

theorem Ends.of_yields {expected : α → Prop} {program : Program ρ Answer α}
    (ends : program.Ends expected) (yields : program.Yields record value) : expected value := by
  induction yields with
  | done => exact ends
  | ask _ ih => exact ih (ends _)

theorem Uses.of_yields {allowed : ρ → Prop} {program : Program ρ Answer α}
    (uses : program.Uses allowed) (yields : program.Yields record value) :
    ∀ exchange ∈ record, allowed exchange.request := by
  induction yields with
  | done => exact nofun
  | ask _ ih => exact List.forall_mem_cons.2 ⟨uses.1, ih (uses.2 _)⟩

end Yields

section Uses

variable {allowed : ρ → Prop}

theorem Uses.mono {more : ρ → Prop} {program : Program ρ Answer α} (uses : program.Uses allowed)
    (implies : ∀ request, allowed request → more request) : program.Uses more := by
  induction program with
  | done => trivial
  | ask request next ih => exact ⟨implies request uses.1, fun answer => ih answer (uses.2 answer)⟩

theorem uses_perform {request : ρ} (permitted : allowed request) :
    (perform request : Program ρ Answer _).Uses allowed :=
  ⟨permitted, fun _ => trivial⟩

/-- What comes second matters only for the values that the first part can end with. -/
theorem Uses.bind_of_ends {expected : α → Prop} {program : Program ρ Answer α}
    {next : α → Program ρ Answer β} (uses : program.Uses allowed) (ends : program.Ends expected)
    (rest : ∀ value, expected value → (next value).Uses allowed) :
    (program >>= next).Uses allowed := by
  change (program.bind next).Uses allowed
  induction program with
  | done value => exact rest value ends
  | ask request more ih => exact ⟨uses.1, fun answer => ih answer (uses.2 answer) (ends answer)⟩

theorem Uses.bind {program : Program ρ Answer α} {next : α → Program ρ Answer β}
    (uses : program.Uses allowed) (rest : ∀ value, (next value).Uses allowed) :
    (program >>= next).Uses allowed :=
  uses.bind_of_ends (ends_of_forall program fun _ => trivial) fun value _ => rest value

theorem Uses.handle {carryOut : (request : ρ) → Program ρ' Answer' (Answer request)}
    {granted : ρ' → Prop} {program : Program ρ Answer α} (uses : program.Uses allowed)
    (carried : ∀ request, allowed request → (carryOut request).Uses granted) :
    (program.handle carryOut).Uses granted := by
  induction program with
  | done => trivial
  | ask request next ih =>
    exact (carried request uses.1).bind fun answer => ih answer (uses.2 answer)

end Uses

end Readiness.Program
