import Readiness.Proofs.Poll.Laps
import Readiness.Proofs.Scenario.Sharing
import Readiness.Scenario.Resources

/-! How a scenario that chooses a project ends, by what the calls that it makes give: the look for
the project, its creation and the read that finds it active. -/
namespace Readiness.Scenario

/-- The first read of a poll for one query ends it if it meets the condition. -/
theorem poll_single (plan : Poll.Plan) (q : Query) :
    ∃ (budget : Instant → Duration) (next : Instant →
        Poll.Timed (Except FetchError Reading) × Instant → Poll.Polling (Option Poll.Ending)),
      Poll.poll plan [q] =
        .ask .clock (fun start : Instant => .ask (.fetch q (budget start)) (next start)) ∧
      ∀ start reading now, plan.condition.holds reading.state = true →
        ∃ ending report, next start (.answered (.ok reading), now) = .done (some ending) ∧
          ending.verdict = .ok report ∧ report.succeeded = true := by
  obtain ⟨limit, room⟩ := plan.exists_roundLimit
  rw [Poll.poll, room]
  refine ⟨_, _, rfl, ?_⟩
  intro start reading now met
  let run : Poll.Run := { (Poll.Run.first plan [q] start).again with now := now }.record q
    (.observed ⟨reading, now⟩)
  refine ⟨run.finish .satisfied .ok, run.report .satisfied, ?_, rfl, rfl⟩
  change Program.bind (Program.done (Sum.inr (run, true && plan.condition.holds reading.state)) :
    Poll.Polling (Poll.Ending ⊕ Poll.Run × Bool)) _ = _
  rw [met]
  rfl

/-- Nothing is done with the context of a scenario that chooses a project until the project is there. -/
theorem Project.choose_eq (ctx : Context) (name : String) :
    Project.choose ctx name = (do
      let found : Bool ← Task.ofFetch (← Task.call (.hasNamespace name))
      unless found do Project.create ctx name
      return { ctx with project := some name }) := by
  apply congrArg (Program.ask _)
  funext answer
  cases answer with
  | error => rfl
  | ok found =>
    cases found with
    | true => rfl
    | false =>
      change ((((Project.create ctx name).run.bind _).bind _).bind _) = _
      rw [Program.bind_assoc, Program.bind_assoc]
      apply congrArg (Program.bind _)
      funext result
      cases result <;> rfl

section Tasks

variable {ρ reply σ μ : Type} {host : Host ρ reply σ} {made : Bool} {past : List (ρ × Bool)}
variable {calls : μ → (call : Cluster.Call) → Program ρ (fun _ => reply) (call.Answer × μ)}
variable {memory : μ}

def IsActive (answer : Except FetchError Reading) : Prop :=
  ∃ reading, answer = .ok reading ∧ reading.state = "Active"

theorem ensures_await (ctx : Context) (q : Query) (middle : Bool → List (ρ × Bool) → μ → Prop)
    (fetched : Ensures host (fun made past out => IsActive out.1 ∧ middle made past out.2)
      (exchanged (calls memory (.fetch q))) made past) :
    Ensures host (fun made past out => (∃ report, out.1 = .ok report) ∧ middle made past out.2)
      ((Task.await ctx .resource [q] .resource (.equals "Active")).run.handleWith (wire calls) memory)
      made past := by
  obtain ⟨budget, next, asks, ends⟩ :=
    poll_single (ctx.settings.timings.plan .resource (.equals "Active")) q
  rw [Task.await, Task.poll, asks]
  refine ensures_clock fun start => ensures_lookWithin fetched ?_
  rintro made past ⟨_, memory⟩ now ⟨⟨reading, rfl, active⟩, here⟩
  obtain ⟨ending, report, last, verdict, succeeded⟩ := ends start reading now (beq_iff_eq.2 active)
  change Ensures host _ (Program.handleWith (wire calls) (Program.bind (Program.bind
    (Program.bind ((next start (.answered (.ok reading), now)).handle _) _) _) _) memory) _ _
  rw [last]
  change Ensures host _
    (Program.handleWith (wire calls) (Program.bind (Task.ofPoll ending.verdict).run _) memory) _ _
  rw [verdict]
  change Ensures host _
    (Program.handleWith (wire calls) (Task.ofPoll report.ensureSatisfied).run memory) _ _
  rw [Poll.Report.ensureSatisfied, if_pos succeeded]
  exact ⟨⟨report, rfl⟩, here⟩

theorem ensures_create (ctx : Context) (name : String)
    {middle : Bool → List (ρ × Bool) → Except FetchError Unit × μ → Prop}
    {post : Bool → List (ρ × Bool) → Except Error Unit × μ → Prop}
    (created : Ensures host middle (exchanged (calls memory (.createNamespace name))) made past)
    (failed : ∀ made past memory e, middle made past (.error e, memory) →
      post made past (.error (.fetch e), memory))
    (rest : ∀ made past memory, middle made past (.ok (), memory) →
      Ensures host (fun made past out => IsActive out.1 ∧ post made past (.ok (), out.2))
        (exchanged (calls memory (.fetch (Project.query name)))) made past) :
    Ensures host post ((Project.create ctx name).run.handleWith (wire calls) memory) made past := by
  refine ensures_look created ?_
  rintro made past ⟨answer, memory⟩ here
  cases answer with
  | error e => exact failed made past memory e here
  | ok =>
    change Ensures host post (Program.handleWith (wire calls) (Program.bind (Task.await ctx .resource
      [Project.query name] .resource (.equals "Active")).run _) memory) made past
    rw [Program.handleWith_bind]
    apply (ensures_await ctx (Project.query name) (fun made past memory =>
      post made past (.ok (), memory)) (rest made past memory here)).bind
    rintro made past ⟨_, memory⟩ ⟨⟨report, rfl⟩, here⟩
    exact here

theorem ensures_choose (ctx : Context) (name : String)
    (middle : Bool → Bool → List (ρ × Bool) → μ → Prop)
    {post : Bool → List (ρ × Bool) → Except Error Context × μ → Prop}
    (looked : Ensures host
      (fun made past out => ∃ there, out.1 = .ok there ∧ middle there made past out.2)
      (exchanged (calls memory (.hasNamespace name))) made past)
    (found : ∀ made past memory, middle true made past memory →
      post made past (.ok { ctx with project := some name }, memory))
    (missing : ∀ made past memory, middle false made past memory →
      Ensures host
        (fun made past out =>
          post made past (out.1.map fun _ => { ctx with project := some name }, out.2))
        ((Project.create ctx name).run.handleWith (wire calls) memory) made past) :
    Ensures host post ((Project.choose ctx name).run.handleWith (wire calls) memory) made past := by
  rw [Project.choose_eq]
  refine ensures_look looked ?_
  rintro made past ⟨_, memory⟩ ⟨there, rfl, here⟩
  cases there with
  | true => exact found made past memory here
  | false =>
    change Ensures host post (Program.handleWith (wire calls)
      (Program.bind (Project.create ctx name).run _) memory) made past
    rw [Program.handleWith_bind]
    apply (missing made past memory here).bind
    rintro made past ⟨result, memory⟩ here
    cases result with
    | error e => exact here
    | ok => exact here

end Tasks

end Readiness.Scenario
