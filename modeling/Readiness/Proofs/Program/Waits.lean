import Readiness.Proofs.Program.Record

/-! Programs that are still waiting for an answer, as one does that is given up before its end. -/
namespace Readiness.Program

variable {ρ α β : Type} {Answer : ρ → Type}

/-- With these answers so far, the program waits for the answer to `pending`. -/
inductive Waits : Program ρ Answer α → List (Exchange Answer) → ρ → Prop
  | here {request : ρ} {next : Answer request → Program ρ Answer α} :
    Waits (ask request next) [] request
  | later {request : ρ} {next : Answer request → Program ρ Answer α} {answer : Answer request}
    {record : List (Exchange Answer)} {pending : ρ} (rest : Waits (next answer) record pending) :
    Waits (ask request next) (⟨request, answer⟩ :: record) pending

variable {record : List (Exchange Answer)} {pending : ρ}

theorem not_waits_done {value : α} : ¬ (done value : Program ρ Answer α).Waits record pending :=
  nofun

theorem waits_ask {request : ρ} {next : Answer request → Program ρ Answer α} :
    (ask request next).Waits record pending ↔ record = [] ∧ pending = request ∨
      ∃ answer rest, record = ⟨request, answer⟩ :: rest ∧ (next answer).Waits rest pending := by
  constructor
  · rintro (_ | rest)
    · exact .inl ⟨rfl, rfl⟩
    · exact .inr ⟨_, _, rfl, rest⟩
  · rintro (⟨rfl, rfl⟩ | ⟨answer, rest, rfl, waits⟩)
    · exact .here
    · exact .later waits

theorem waits_bind {program : Program ρ Answer α} {next : α → Program ρ Answer β} :
    (program >>= next).Waits record pending ↔ program.Waits record pending ∨
      ∃ value first rest, record = first ++ rest ∧ program.Yields first value ∧
        (next value).Waits rest pending := by
  change (program.bind next).Waits record pending ↔ _
  induction program generalizing record with
  | done given =>
    constructor
    · exact fun waits => .inr ⟨given, [], record, rfl, .done, waits⟩
    · rintro (waits | ⟨_, _, rest, rfl, ⟨⟩, waits⟩)
      · exact absurd waits not_waits_done
      · exact waits
  | ask request more ih =>
    rw [bind, waits_ask, waits_ask]
    constructor
    · rintro (here | ⟨answer, rest, rfl, waits⟩)
      · exact .inl (.inl here)
      · rcases (ih answer).1 waits with before | ⟨value, first, rest, rfl, given, after⟩
        · exact .inl (.inr ⟨answer, _, rfl, before⟩)
        · exact .inr ⟨value, _, rest, rfl, .ask given, after⟩
    · rintro ((here | ⟨answer, rest, rfl, waits⟩) | ⟨value, _, rest, rfl, ended, waits⟩)
      · exact .inl here
      · exact .inr ⟨answer, rest, rfl, (ih answer).2 (.inl waits)⟩
      · obtain ⟨answer, first, rfl, given⟩ := yields_ask.1 ended
        exact .inr ⟨answer, _, rfl, (ih answer).2 (.inr ⟨value, first, rest, rfl, given, waits⟩)⟩

theorem Uses.of_waits {allowed : ρ → Prop} {program : Program ρ Answer α}
    (uses : program.Uses allowed) (waits : program.Waits record pending) :
    (∀ exchange ∈ record, allowed exchange.request) ∧ allowed pending := by
  induction waits with
  | here => exact ⟨nofun, uses.1⟩
  | later _ ih => exact ⟨List.forall_mem_cons.2 ⟨uses.1, (ih (uses.2 _)).1⟩, (ih (uses.2 _)).2⟩

variable {program : Program ρ Answer α} {first rest second rest' : List (Exchange Answer)}

theorem Yields.unique {value value' : α} (yields : program.Yields first value)
    (also : program.Yields second value') (same : first ++ rest = second ++ rest') :
    first = second ∧ value = value' := by
  induction yields generalizing second with
  | done =>
    obtain ⟨rfl, rfl⟩ := yields_done.1 also
    exact ⟨rfl, rfl⟩
  | ask _ ih =>
    obtain ⟨answer, more, rfl, ends⟩ := yields_ask.1 also
    obtain ⟨here, later⟩ := List.cons.inj same
    cases here
    obtain ⟨rfl, rfl⟩ := ih ends later
    exact ⟨rfl, rfl⟩

theorem Yields.not_waits {value : α} (yields : program.Yields first value) :
    ¬ program.Waits (first ++ rest) pending := by
  induction yields with
  | done => exact not_waits_done
  | ask _ ih =>
    intro waits
    rcases waits_ask.1 waits with ⟨none, -⟩ | ⟨answer, more, same, waits⟩
    · cases none
    · obtain ⟨here, rfl⟩ := List.cons.inj same
      cases here
      exact ih waits

end Readiness.Program
