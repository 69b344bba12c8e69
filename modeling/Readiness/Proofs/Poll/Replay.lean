import Readiness.Proofs.Poll.Steps

/-! A poll that nobody calls off is determined by its laps and its last round: `poll_of_closes` is the
converse of `poll_takes_laps`. And whatever is run on a timeline, it goes forward only, in time and
in the list of its reads. -/
namespace Readiness.Poll

variable {σ α : Type}

def Visit.begun (visit : Visit) : Query × Instant := (visit.query, visit.startedAt)

/-- The time between two moments, with the reads that fall into it. -/
structure Moment.Leads (before after : Moment σ) (added : List Visit) : Prop where
  forward : before.now ≤ after.now
  visits : after.visits = before.visits ++ added
  within : ∀ visit ∈ added, before.now ≤ visit.startedAt ∧ visit.startedAt ≤ visit.endedAt ∧
    visit.endedAt ≤ after.now

theorem Moment.Leads.refl (moment : Moment σ) : moment.Leads moment [] :=
  ⟨Nat.le_refl _, (List.append_nil _).symm, by simp⟩

theorem Moment.Leads.trans {first second third : Moment σ} {added more : List Visit}
    (leads : first.Leads second added) (next : second.Leads third more) :
    first.Leads third (added ++ more) := by
  have earlier := leads.forward
  have later := next.forward
  constructor
  · lia
  · rw [next.visits, leads.visits, List.append_assoc]
  · intro visit member
    rcases List.mem_append.1 member with member | member
    · have := leads.within visit member
      lia
    · have := next.within visit member
      lia

theorem Run.Stops.absorb {run : Run} {q : Query} {budget : Duration}
    {outcome : Timed (Except FetchError Reading)} {ending : Ending}
    (stops : run.Stops q budget outcome ending) : run.absorb q budget outcome = .inl ending := by
  cases stops with
  | cancelled | late => rfl
  | fatal isFatal => simp [Run.absorb, isFatal]

namespace Timeline

variable {timeline : Timeline σ} {run later : Run} {before middle after : Moment σ}
variable {visits : List Visit} {laps : List (List Visit)} {ending : Ending}

theorem respond_leads {request : Request} {answer : Answer request}
    (answered : timeline.respond request before = some (answer, after)) :
    ∃ added, before.Leads after added := by
  cases request with
  | clock =>
    obtain rfl : before = after := congrArg Prod.snd (Option.some.inj answered)
    exact ⟨[], .refl before⟩
  | fetch q budget =>
    rcases timeline.respond_fetch q budget before with ⟨-, same⟩ | ⟨visit, moment, rfl, read⟩
    · rw [same] at answered
      obtain rfl : before = after := congrArg Prod.snd (Option.some.inj answered)
      exact ⟨[], .refl before⟩
    · rw [read.answer] at answered
      obtain rfl : moment = after := congrArg Prod.snd (Option.some.inj answered)
      have inTime := read.inTime
      have started := read.started
      have ended := read.ended
      refine ⟨[visit], by lia, read.visits, ?_⟩
      simp only [List.forall_mem_singleton]
      lia
  | read q =>
    simp only [respond] at answered
    split at answered
    · obtain rfl := congrArg Prod.snd (Option.some.inj answered)
      refine ⟨_, Nat.le_refl _, rfl, ?_⟩
      simp [visited]
    · obtain rfl := congrArg Prod.snd (Option.some.inj answered)
      refine ⟨_, Nat.le_add_right .., rfl, ?_⟩
      simp [visited]
    · cases answered
  | pause length =>
    obtain ⟨other, moment, same, pause⟩ := timeline.pause_ends length before
    rw [run_pause, answered] at same
    obtain rfl : after = moment := congrArg Prod.snd (Option.some.inj same)
    cases pause with
    | finished => exact ⟨[], Nat.le_add_right .., (List.append_nil _).symm, by simp⟩
    | calledOff set noticed inTime => exact ⟨[], by simp only; lia, (List.append_nil _).symm, by simp⟩

theorem Steps.leads {program rest : Polling α} (steps : timeline.Steps program before rest after) :
    ∃ added, before.Leads after added := by
  induction steps with
  | refl => exact ⟨[], .refl _⟩
  | ask answered _ ih =>
    obtain ⟨added, leads⟩ := respond_leads answered
    obtain ⟨more, rest⟩ := ih
    exact ⟨_, leads.trans rest⟩

theorem run_ask {request : Request} {next : Answer request → Polling α} {out : α × Moment σ}
    (ran : timeline.run (.ask request next) before = some out) :
    ∃ answer middle, timeline.respond request before = some (answer, middle) ∧
      timeline.run (next answer) middle = some out := by
  simp only [Timeline.run, Program.run] at ran
  cases answered : timeline.respond request before with
  | none => simp [answered] at ran
  | some known =>
    rw [answered] at ran
    exact ⟨known.1, known.2, rfl, ran⟩

theorem run_leads {program : Polling α} {value : α}
    (ran : timeline.run program before = some (value, after)) :
    ∃ added, before.Leads after added := by
  induction program generalizing before with
  | done result =>
    obtain rfl : before = after := congrArg Prod.snd (Option.some.inj ran)
    exact ⟨[], .refl before⟩
  | ask request next ih =>
    obtain ⟨answer, middle, answered, rest⟩ := run_ask ran
    obtain ⟨added, leads⟩ := respond_leads answered
    obtain ⟨more, later⟩ := ih answer rest
    exact ⟨_, leads.trans later⟩

theorem Reads.run_eq (reads : timeline.Reads run before visits later after) (allHold : Bool)
    (rest : List Query) :
    timeline.run (run.round allHold (visits.map (·.query) ++ rest)) before =
      timeline.run
        (later.round (allHold && visits.all (·.meets run.plan.condition)) rest) after :=
  (reads.steps allHold rest).run_eq

theorem isCancelled_of_never (never : timeline.cancelAt = none) (now : Instant) :
    timeline.isCancelled now = false := by
  simp [isCancelled, cutBefore, never]

theorem Reads.run_whole (reads : timeline.Reads run.again before visits later after)
    (asked : visits.map (·.query) = run.queries) :
    timeline.run (run.again.round true run.queries) before =
      some (.inr (later, visits.all (·.meets run.plan.condition)), after) := by
  have ran := reads.run_eq true []
  rw [List.append_nil, asked, Bool.true_and] at ran
  exact ran

/-- A last round that nobody calls off ends the rounds of the program. -/
theorem Closes.run_eq (closes : timeline.Closes run before visits ending after)
    (never : timeline.cancelAt = none) (limit : Nat) :
    timeline.run (run.rounds (limit + 1)) before = some (some ending, after) := by
  rw [Run.rounds, run_bind]
  change ((timeline.run (run.again.round true run.queries) before).bind _) = _
  cases closes with
  | satisfied reads asked met =>
    rw [reads.run_whole asked, met]
    rfl
  | overdue reads asked unmet overdue =>
    have plan := reads.plan_eq
    rw [Run.again_plan] at plan
    rw [reads.run_whole asked, unmet, Option.bind_some]
    simp only [plan, if_pos overdue]
    rfl
  | calledOffInPause reads asked unmet early pause =>
    cases pause with
    | calledOff set =>
      rw [never] at set
      cases set
  | calledOff reads asked cancelled =>
    rw [isCancelled_of_never never] at cancelled
    cases cancelled
  | @stopped later middle after _ last rest _ reads asked read stops =>
    have whole := reads.run_eq true (last.query :: rest)
    rw [asked, Run.round, run_bind, run_fetch, read.answer, Option.bind_some] at whole
    simp only [stops.absorb] at whole
    rw [whole]
    rfl

section Poll

variable {plan : Plan} {queries : List Query}

/-- A poll that is left with room for more rounds steps to the beginning of the next one. -/
theorem Laps.steps_poll
    (taken : timeline.Laps (.first plan queries before.now) before laps later after) (limit : Nat)
    (room : plan.roundLimit = limit + laps.length) :
    timeline.Steps (poll plan queries) before (later.rounds limit) after := by
  have steps := taken.steps limit
  rw [← room] at steps
  exact .trans (.request rfl) steps

theorem Laps.steps_reads {round : Run} {rest : List Query}
    (taken : timeline.Laps (.first plan queries before.now) before laps later middle)
    (reads : timeline.Reads later.again middle visits round after)
    (asked : visits.map (·.query) ++ rest = queries) (more : laps.length < plan.roundLimit) :
    ∃ allHold next, timeline.Steps (poll plan queries) before
      (round.round allHold rest >>= next) after := by
  obtain ⟨limit, room⟩ := Nat.exists_eq_add_of_lt more
  have queries_eq : later.queries = queries := taken.queries_eq
  have begun := taken.steps_poll (limit + 1) (by lia)
  have steps := reads.steps true rest
  rw [asked, ← queries_eq] at steps
  rw [Run.rounds] at begun
  exact ⟨_, _, begun.trans (steps.bind _)⟩

theorem Laps.asks_fetch {round : Run} {q : Query} {rest : List Query}
    (taken : timeline.Laps (.first plan queries before.now) before laps later middle)
    (reads : timeline.Reads later.again middle visits round after)
    (asked : visits.map (·.query) ++ q :: rest = queries) (more : laps.length < plan.roundLimit) :
    ∃ next, timeline.Steps (poll plan queries) before (.ask (.fetch q round.remaining) next)
      after := by
  obtain ⟨allHold, next, steps⟩ := taken.steps_reads reads asked more
  exact ⟨_, steps⟩

theorem Laps.asks_pause {round : Run}
    (taken : timeline.Laps (.first plan queries before.now) before laps later middle)
    (reads : timeline.Reads later.again middle visits round after)
    (asked : visits.map (·.query) = later.queries)
    (unmet : visits.all (·.meets later.plan.condition) = false)
    (early : round.elapsed + later.plan.interval ≤ later.plan.timeout)
    (more : laps.length < plan.roundLimit) :
    ∃ next, timeline.Steps (poll plan queries) before (.ask (.pause plan.interval) next) after := by
  obtain ⟨limit, room⟩ := Nat.exists_eq_add_of_lt more
  have begun := taken.steps_poll (limit + 1) (by lia)
  obtain ⟨next, steps, -⟩ := reads.steps_pause asked unmet early limit
  have plan_eq : later.plan = plan := taken.plan_eq
  rw [plan_eq] at steps
  exact ⟨next, .trans begun steps⟩

/-- Laps and a last round make a poll, if its limit leaves room for them. -/
theorem poll_of_closes
    (taken : timeline.Laps (.first plan queries before.now) before laps later middle)
    (closes : timeline.Closes later middle visits ending after)
    (never : timeline.cancelAt = none) (more : laps.length < plan.roundLimit) :
    timeline.run (poll plan queries) before = some (some ending, after) := by
  obtain ⟨limit, room⟩ := Nat.exists_eq_add_of_lt more
  rw [← closes.run_eq never limit]
  exact (taken.steps_poll (limit + 1) (by lia)).run_eq

theorem poll_of_laps
    (taken : timeline.Laps (.first plan queries before.now) before laps later after)
    (used : laps.length = plan.roundLimit) :
    timeline.run (poll plan queries) before = some (none, after) :=
  (taken.steps_poll 0 (by lia)).run_eq

end Poll

end Timeline

end Readiness.Poll
