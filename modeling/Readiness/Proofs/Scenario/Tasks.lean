import Readiness.Proofs.Poll.Asking
import Readiness.Scenario.Action

/-! Laws of tasks and steps. A sequence ends with the first failure in it, and what a step has asked
until then is on record; a task within a step leaves the context to the next one as it was. -/
namespace Readiness.Scenario

abbrev Exchange := Program.Exchange Answer

variable {α β : Type}

namespace Task

def Uses (allowed : Request → Prop) (task : Task α) : Prop := Program.Uses allowed task.run

/-- With these answers the task ends so. -/
def Yields (task : Task α) (record : List Exchange) (result : Except Error α) : Prop :=
  Program.Yields task.run record result

def Ends (expected : Except Error α → Prop) (task : Task α) : Prop := Program.Ends expected task.run

variable {allowed : Request → Prop} {expected : Except Error β → Prop}
variable {task : Task α} {next : α → Task β} {record : List Exchange}

theorem run_bind (task : Task α) (next : α → Task β) :
    (task >>= next).run = task.run >>= fun
      | .ok value => (next value).run
      | .error e => pure (.error e) := by
  change Program.bind _ _ = Program.bind _ _
  congr 1
  funext result
  cases result <;> rfl

theorem uses_pure (value : α) : (pure value : Task α).Uses allowed := trivial

theorem uses_ask {request : Request} (permitted : allowed request) : (ask request).Uses allowed :=
  ⟨permitted, fun _ => trivial⟩

theorem Uses.mono {more : Request → Prop} (uses : task.Uses allowed)
    (implies : ∀ request, allowed request → more request) : task.Uses more :=
  Program.Uses.mono uses implies

theorem Uses.bind (first : task.Uses allowed) (rest : ∀ value, (next value).Uses allowed) :
    (task >>= next).Uses allowed := by
  refine Program.Uses.bind first fun result => ?_
  cases result with
  | error => trivial
  | ok value => exact rest value

theorem yields_pure {value : α} {result : Except Error α} :
    (pure value : Task α).Yields record result ↔ record = [] ∧ result = .ok value :=
  Program.yields_done

theorem yields_bind {result : Except Error β} :
    (task >>= next).Yields record result ↔
      (∃ e, result = .error e ∧ task.Yields record (.error e)) ∨
      ∃ value first rest, record = first ++ rest ∧ task.Yields first (.ok value) ∧
        (next value).Yields rest result := by
  rw [Yields, run_bind, Program.yields_bind]
  constructor
  · rintro ⟨given | value, first, rest, rfl, here, later⟩
    · obtain ⟨rfl, rfl⟩ := Program.yields_done.1 later
      exact .inl ⟨given, rfl, by rwa [List.append_nil]⟩
    · exact .inr ⟨value, first, rest, rfl, here, later⟩
  · rintro (⟨e, rfl, here⟩ | ⟨value, first, rest, rfl, here, later⟩)
    · exact ⟨.error e, record, [], (List.append_nil record).symm, here, .done⟩
    · exact ⟨.ok value, first, rest, rfl, here, later⟩

theorem yields_bind_ok {result : β} :
    (task >>= next).Yields record (.ok result) ↔
      ∃ value first rest, record = first ++ rest ∧ task.Yields first (.ok value) ∧
        (next value).Yields rest (.ok result) :=
  yields_bind.trans (or_iff_right (by rintro ⟨_, failed, -⟩; cases failed))

theorem yields_bind_error {e : Error} :
    (task >>= next).Yields record (.error e) ↔
      task.Yields record (.error e) ∨
      ∃ value first rest, record = first ++ rest ∧ task.Yields first (.ok value) ∧
        (next value).Yields rest (.error e) := by
  refine yields_bind.trans (or_congr_left ⟨?_, fun failed => ⟨e, rfl, failed⟩⟩)
  rintro ⟨_, same, failed⟩
  cases same
  exact failed

theorem space_bind {ctx : Context} {space : String} (chosen : ctx.project = some space)
    (next : String → Task α) : (ctx.space >>= next) = next space := by
  rw [Context.space, chosen]
  rfl

theorem yields_space_bind {ctx : Context} {next : String → Task α} {result : α} :
    (ctx.space >>= next).Yields record (.ok result) ↔
      ∃ space, ctx.project = some space ∧ (next space).Yields record (.ok result) := by
  rw [Context.space]
  cases ctx.project with
  | none => exact Program.yields_done.trans (by simp)
  | some name =>
    simp only [Option.some.injEq, exists_eq_left']
    exact .rfl

theorem ends_bind (first : task.Ends fun
      | .ok value => (next value).Ends expected
      | .error e => expected (.error e)) : (task >>= next).Ends expected := by
  rw [Ends, run_bind, Program.ends_bind]
  refine Program.Ends.mono first fun result here => ?_
  cases result <;> exact here

end Task

namespace Step

/-- With these answers the step ends so and leaves the context `after`. -/
def Yields (step : Step α) (before : Context) (record : List Exchange) (result : Except Error α)
    (after : Context) : Prop :=
  (step.run.run before).Yields record (result, after)

def Uses (allowed : Request → Prop) (step : Step α) (ctx : Context) : Prop :=
  (step.run.run ctx).Uses allowed

variable {allowed : Request → Prop} {step : Step α} {next : α → Step β} {record : List Exchange}
variable {before after : Context}

theorem run_bind (step : Step α) (next : α → Step β) (ctx : Context) :
    (step >>= next).run.run ctx = step.run.run ctx >>= fun
      | (.ok value, ctx) => (next value).run.run ctx
      | (.error e, ctx) => pure (.error e, ctx) := by
  change Program.bind _ _ = Program.bind _ _
  congr 1
  funext ⟨result, ctx⟩
  cases result <;> rfl

theorem uses_bind (first : step.Uses allowed before)
    (rest : ∀ value middle, (next value).Uses allowed middle) :
    (step >>= next).Uses allowed before := by
  rw [Uses, run_bind]
  refine Program.Uses.bind first fun (result, middle) => ?_
  cases result with
  | error => trivial
  | ok value => exact rest value middle

theorem yields_bind {result : Except Error β} :
    (step >>= next).Yields before record result after ↔
      (∃ e, result = .error e ∧ step.Yields before record (.error e) after) ∨
      ∃ value middle first rest, record = first ++ rest ∧
        step.Yields before first (.ok value) middle ∧
        (next value).Yields middle rest result after := by
  rw [Yields, run_bind, Program.yields_bind]
  constructor
  · rintro ⟨⟨given | value, middle⟩, first, rest, rfl, here, later⟩
    · obtain ⟨rfl, same⟩ := Program.yields_done.1 later
      obtain ⟨rfl, rfl⟩ := Prod.mk.inj same
      exact .inl ⟨given, rfl, by rwa [List.append_nil]⟩
    · exact .inr ⟨value, middle, first, rest, rfl, here, later⟩
  · rintro (⟨e, rfl, here⟩ | ⟨value, middle, first, rest, rfl, here, later⟩)
    · exact ⟨(.error e, after), record, [], (List.append_nil record).symm, here, .done⟩
    · exact ⟨(.ok value, middle), first, rest, rfl, here, later⟩

theorem yields_pure {value : α} {result : Except Error α} :
    (pure value : Step α).Yields before record result after ↔
      record = [] ∧ result = .ok value ∧ after = before := by
  rw [← Prod.mk.injEq]
  exact Program.yields_done

theorem yields_throw {e : Error} {result : Except Error α} :
    (throw e : Step α).Yields before record result after ↔
      record = [] ∧ result = .error e ∧ after = before := by
  rw [← Prod.mk.injEq]
  exact Program.yields_done

theorem yields_map {f : α → β} {result : Except Error β} :
    (step >>= fun value => pure (f value)).Yields before record result after ↔
      ∃ given, step.Yields before record given after ∧ result = given.map f := by
  simp only [yields_bind, yields_pure]
  constructor
  · rintro (⟨e, rfl, failed⟩ | ⟨value, _, first, _, rfl, given, rfl, rfl, rfl⟩)
    · exact ⟨.error e, failed, rfl⟩
    · exact ⟨.ok value, by rwa [List.append_nil], rfl⟩
  · rintro ⟨e | value, given, rfl⟩
    · exact .inl ⟨e, rfl, given⟩
    · exact .inr ⟨value, after, record, [], (List.append_nil record).symm, given, rfl, rfl, rfl⟩

theorem run_within (task : Context → Task α) (ctx : Context) :
    (within task).run.run ctx = (task ctx).run >>= fun result => pure (result, ctx) := rfl

theorem yields_within {task : Context → Task α} {result : Except Error α} :
    (within task).Yields before record result after ↔
      (task before).Yields record result ∧ after = before := by
  rw [Yields, run_within, Program.yields_map]
  constructor
  · rintro ⟨given, here, same⟩
    obtain ⟨rfl, rfl⟩ := Prod.mk.inj same
    exact ⟨here, rfl⟩
  · rintro ⟨here, rfl⟩
    exact ⟨result, here, rfl⟩

theorem yields_within_bind {task : Context → Task α} {result : Except Error β} :
    (within task >>= next).Yields before record result after ↔
      (∃ e, result = .error e ∧ (task before).Yields record (.error e) ∧ after = before) ∨
      ∃ value first rest, record = first ++ rest ∧ (task before).Yields first (.ok value) ∧
        (next value).Yields before rest result after := by
  simp only [yields_bind, yields_within]
  constructor
  · rintro (failed | ⟨value, _, first, rest, rfl, ⟨here, rfl⟩, later⟩)
    · exact .inl failed
    · exact .inr ⟨value, first, rest, rfl, here, later⟩
  · rintro (failed | ⟨value, first, rest, rfl, here, later⟩)
    · exact .inl failed
    · exact .inr ⟨value, before, first, rest, rfl, ⟨here, rfl⟩, later⟩

theorem run_within_bind (task : Context → Task α) (next : α → Step β) (ctx : Context) :
    (within task >>= next).run.run ctx = (task ctx).run >>= fun
      | .ok value => (next value).run.run ctx
      | .error e => pure (.error e, ctx) := by
  rw [run_bind, run_within]
  refine (Program.bind_assoc ..).trans (congrArg (Program.bind _) ?_)
  funext result
  cases result <;> rfl

theorem uses_within_bind {task : Context → Task α} {ctx : Context} (first : (task ctx).Uses allowed)
    (rest : ∀ value, (next value).Uses allowed ctx) : (within task >>= next).Uses allowed ctx := by
  rw [Uses, run_within_bind]
  refine Program.Uses.bind first fun result => ?_
  cases result with
  | error => trivial
  | ok value => exact rest value

theorem yields_setProject {name : String} {result : Except Error Unit} :
    (setProject name).Yields before record result after ↔
      record = [] ∧ result = .ok () ∧ after = { before with project := some name } := by
  rw [← Prod.mk.injEq]
  exact Program.yields_done

theorem yields_setInstancePod_bind {pod : String} {next : Unit → Step β} {result : Except Error β} :
    (setInstancePod pod >>= next).Yields before record result after ↔
      (next ()).Yields { before with instancePod := some pod } record result after := .rfl

end Step

section Requests

variable {allowed : Request → Prop} {record : List Exchange}

theorem Task.uses_lift {program : Asking α} (uses : program.Uses allowed) :
    Task.Uses allowed (ExceptT.lift program : Task α) :=
  Program.Uses.bind uses fun _ => trivial

theorem Task.yields_lift {program : Asking α} {result : Except Error α} :
    Task.Yields (ExceptT.lift program : Task α) record result ↔
      ∃ value, program.Yields record value ∧ result = .ok value :=
  Program.yields_map

theorem Task.yields_ask {request : Request} {answer : Answer request} :
    (ask request).Yields record (.ok answer) ↔ record = [⟨request, answer⟩] := by
  refine yields_lift.trans ?_
  simp only [Except.ok.injEq, exists_eq_right', Program.yields_perform]

theorem Task.yields_ask_bind {request : Request} {next : Answer request → Task α}
    {result : Except Error α} :
    (ask request >>= next).Yields record result ↔
      ∃ answer rest, record = ⟨request, answer⟩ :: rest ∧ (next answer).Yields rest result :=
  Program.yields_ask

theorem Task.yields_ofFetch {answer : Except FetchError α} {value : α} :
    (Task.ofFetch answer).Yields record (.ok value) ↔ record = [] ∧ answer = .ok value := by
  cases answer with
  | ok => exact Program.yields_done.trans (by rw [Except.ok.injEq, Except.ok.injEq, @eq_comm _ value])
  | error => exact Program.yields_done.trans (by simp)

theorem Task.uses_ofSession {granted : Cli.Job → Prop}
    {session : Cli.Session (Except Cli.Failure α)} (uses : session.Uses granted)
    (carried : ∀ job, granted job → allowed (.run job)) : (Task.ofSession session).Uses allowed := by
  refine (Task.uses_lift (uses.handle fun job given =>
    Program.uses_perform (carried job given))).bind fun result => ?_
  cases result <;> trivial

/-- A session fails by a command. -/
theorem Task.ends_ofSession (session : Cli.Session (Except Cli.Failure α)) :
    (Task.ofSession session).Ends fun result =>
      ∀ e, result = .error e → ∃ failure, e = .command failure := by
  rw [Ends, ofSession, run_bind, Program.ends_bind]
  refine (Program.ends_bind _ _).2 (Program.ends_of_forall _ fun result => ?_)
  cases result with
  | error failure =>
    rintro _ ⟨⟩
    exact ⟨failure, rfl⟩
  | ok => exact nofun

end Requests

section Waiting

variable {allowed : Request → Prop} {record : List Exchange}

theorem Task.yields_ofPoll {verdict : Except Poll.Error α} {value : α} :
    (Task.ofPoll verdict).Yields record (.ok value) ↔ record = [] ∧ verdict = .ok value := by
  cases verdict with
  | ok => exact Program.yields_done.trans (by rw [Except.ok.injEq, Except.ok.injEq, @eq_comm _ value])
  | error => exact Program.yields_done.trans (by simp)

theorem Task.uses_ofPoll (verdict : Except Poll.Error α) : (Task.ofPoll verdict).Uses allowed := by
  cases verdict <;> trivial

theorem Task.uses_poll {source : Source} {plan : Poll.Plan} {queries : List Query}
    (clock : allowed .clock) (pause : ∀ length, allowed (.pause length))
    (look : ∀ q ∈ queries, ∀ budget, allowed (.lookWithin (source.lookup q) budget)) :
    (Task.poll source plan queries).Uses allowed := by
  have asked : ((Poll.poll plan queries).handle source.carryOut).Uses allowed := by
    refine (Poll.poll_uses plan queries).handle fun request permitted => ?_
    cases request with
    | clock => exact Program.uses_perform clock
    | fetch q budget => exact (Program.uses_perform (look q permitted budget)).bind fun _ => trivial
    | read => exact permitted.elim
    | pause length => exact Program.uses_perform (pause length)
  refine (Task.uses_lift asked).bind fun ending => ?_
  cases ending with
  | none => trivial
  | some ending => exact uses_ofPoll ending.verdict

theorem Task.uses_await {ctx : Context} {source : Source} {queries : List Query} {wait : Wait}
    {condition : Condition} (clock : allowed .clock) (pause : ∀ length, allowed (.pause length))
    (look : ∀ q ∈ queries, ∀ budget, allowed (.lookWithin (source.lookup q) budget)) :
    (Task.await ctx source queries wait condition).Uses allowed :=
  (uses_poll clock pause look).bind fun report => uses_ofPoll report.ensureSatisfied

theorem Task.uses_check {q : Query} {condition : Condition} (clock : allowed .clock)
    (look : allowed (.look (.cluster (.fetch q)))) : (Task.check q condition).Uses allowed := by
  refine (Task.uses_lift ?_).bind fun verdict => uses_ofPoll verdict
  refine Program.Uses.handle (Poll.check_uses condition q) fun request asked => ?_
  obtain rfl := asked
  exact (Program.uses_perform look).bind fun _ => (Program.uses_perform clock).bind fun _ => trivial

def inTime (lookup : Lookup) (budget : Duration) (answer : lookup.Answer) (now : Instant) :
    Exchange :=
  ⟨.lookWithin lookup budget, (.answered answer, now)⟩

theorem Source.carryOut_yields {source : Source} {q : Query} {budget : Duration} {reading : Reading}
    {now : Instant} (yields : Program.Yields (source.carryOut (.fetch q budget)) record
      (.answered (.ok reading), now)) :
    ∃ answer, record = [inTime (source.lookup q) budget answer now] ∧
      source.read q answer = .ok reading := by
  obtain ⟨⟨timed, later⟩, looked, same⟩ := Program.yields_map.1 yields
  obtain rfl := Program.yields_perform.1 looked
  obtain ⟨mapped, rfl⟩ := Prod.mk.inj same
  cases timed with
  | answered answer => exact ⟨answer, rfl, (Poll.Timed.answered.inj mapped).symm⟩
  | late => cases mapped
  | cancelled => cases mapped

/-- What a wait for one thing that succeeds was told last. -/
theorem Task.await_yields {ctx : Context} {source : Source} {q : Query} {wait : Wait}
    {condition : Condition} {report : Poll.Report}
    (yields : (Task.await ctx source [q] wait condition).Yields record (.ok report)) :
    ∃ before budget answer now reading,
      record = before ++ [inTime (source.lookup q) budget answer now] ∧
      source.read q answer = .ok reading ∧ condition.holds reading.state = true ∧
      seenState report q = reading.state := by
  obtain ⟨report', first, rest, rfl, polled, satisfied⟩ := yields_bind_ok.1 yields
  obtain ⟨rfl, ensured⟩ := yields_ofPoll.1 satisfied
  obtain ⟨succeeded, rfl⟩ := Poll.Report.ensureSatisfied_eq_ok_iff.1 ensured
  obtain ⟨ending, first, rest, rfl, lifted, told⟩ := yields_bind_ok.1 polled
  obtain ⟨_, handled, same⟩ := yields_lift.1 lifted
  obtain rfl := Except.ok.inj same
  cases ending with
  | none => cases (Program.yields_done.1 told).2
  | some ending =>
    obtain ⟨rfl, verdict⟩ := yields_ofPoll.1 told
    obtain ⟨parts, inner, rfl, carried⟩ := handled.of_handle
    obtain ⟨before, budget, reading, now, asked, holds, shown⟩ :=
      Poll.poll_single_yields inner verdict succeeded
    obtain ⟨front, back, rfl, -, last⟩ := List.map_eq_append_iff.1 asked
    obtain ⟨part, rfl, same⟩ := List.map_eq_singleton_iff.1 last
    have looked := carried part (List.mem_append_right front (List.mem_singleton_self part))
    rw [same] at looked
    obtain ⟨answer, told, read⟩ := Source.carryOut_yields looked
    refine ⟨front.flatMap (·.2), budget, answer, now, reading, by simp [told], read, holds, ?_⟩
    rw [seenState, shown]
    rfl

end Waiting

end Readiness.Scenario
