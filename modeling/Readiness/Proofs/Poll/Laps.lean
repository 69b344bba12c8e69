import Readiness.Proofs.Poll.Reads

/-! A poll on a timeline, taken apart: laps, each a whole round that was not enough and the pause
after it, and one last round. `poll_takes_laps` says that every poll is made of these, and what is
proved of polls on timelines is proved of laps and last rounds. -/
namespace Readiness.Poll

theorem Plan.exists_roundLimit (plan : Plan) : ∃ limit, plan.roundLimit = limit + 1 := by
  unfold Plan.roundLimit
  split
  · exact ⟨_, rfl⟩
  · exact ⟨_, rfl⟩

namespace Run

/-- The run of a poll before its first round. -/
def first (plan : Plan) (queries : List Query) (started : Instant) : Run :=
  (Run.new plan queries started).enter .polling

@[simp] theorem first_plan (plan : Plan) (queries : List Query) (started : Instant) :
    (first plan queries started).plan = plan := rfl
@[simp] theorem first_queries (plan : Plan) (queries : List Query) (started : Instant) :
    (first plan queries started).queries = queries := rfl

end Run

namespace Timeline

variable {σ : Type} {timeline : Timeline σ} {run later : Run} {before middle after : Moment σ}

inductive PauseEnds (timeline : Timeline σ) (length : Duration) (before : Moment σ) :
    Paused × Instant → Moment σ → Prop
  | finished (live : timeline.isCancelled before.now = false)
    (undisturbed : ∀ c, timeline.cancelAt = some c → before.now + timeline.timer length ≤ c) :
    PauseEnds timeline length before (.finished, before.now + timeline.timer length)
      { before with now := before.now + timeline.timer length }
  | calledOff {c now : Instant} (set : timeline.cancelAt = some c) (noticed : now = max before.now c)
    (inTime : now ≤ before.now + timeline.timer length) :
    PauseEnds timeline length before (.cancelled, now) { before with now := now }

theorem pause_ends (timeline : Timeline σ) (length : Duration) (before : Moment σ) :
    ∃ answer after, timeline.run (pause length) before = some (answer, after) ∧
      timeline.PauseEnds length before answer after := by
  rw [run_pause, respond]
  cases live : timeline.isCancelled before.now with
  | true =>
    obtain ⟨c, set, passed⟩ := exists_cancelAt live
    exact ⟨_, _, rfl, .calledOff set (by lia) (by lia)⟩
  | false =>
    cases cut : timeline.cutBefore (before.now + timeline.timer length) with
    | some c =>
      obtain ⟨set, inTime⟩ := cutBefore_eq_some cut
      have := lt_cancelAt live set
      refine ⟨(.cancelled, c), { before with now := c }, ?_, .calledOff set (by lia) (by lia)⟩
      simp only [cut]
      rfl
    | none =>
      refine ⟨_, _, ?_, .finished live fun c => le_cancelAt cut⟩
      simp only [cut]
      rfl

/-- One turn of a poll that is not its last: a whole round that was not enough, and a pause. -/
inductive Lap (timeline : Timeline σ) (run : Run) (before : Moment σ) (visits : List Visit) :
    Run → Moment σ → Prop
  | turn {later : Run} {middle after : Moment σ} {now : Instant}
    (reads : timeline.Reads run.again before visits later middle)
    (asked : visits.map (·.query) = run.queries)
    (unmet : visits.all (·.meets run.plan.condition) = false)
    (early : later.elapsed + run.plan.interval ≤ run.plan.timeout)
    (pause : timeline.PauseEnds run.plan.interval middle (.finished, now) after) :
    Lap timeline run before visits { later with now := now } after

inductive Laps (timeline : Timeline σ) : Run → Moment σ → List (List Visit) → Run → Moment σ → Prop
  | none {run : Run} {moment : Moment σ} : Laps timeline run moment [] run moment
  | next {run between later : Run} {before middle after : Moment σ} {visits : List Visit}
    {rest : List (List Visit)} (lap : timeline.Lap run before visits between middle)
    (laps : Laps timeline between middle rest later after) :
    Laps timeline run before (visits :: rest) later after

theorem Laps.concat {laps : List (List Visit)} {visits : List Visit}
    (taken : timeline.Laps run before laps later middle) {last : Run}
    (lap : timeline.Lap later middle visits last after) :
    timeline.Laps run before (laps ++ [visits]) last after := by
  induction taken with
  | none => exact .next lap .none
  | next first _ ih => exact .next first (ih lap)

theorem Lap.synced {visits : List Visit} (lap : timeline.Lap run before visits later after) :
    later.now = after.now := by
  cases lap with
  | turn reads asked unmet early pause =>
    cases pause
    rfl

inductive Closes (timeline : Timeline σ) (run : Run) (before : Moment σ) :
    List Visit → Ending → Moment σ → Prop
  | satisfied {later : Run} {after : Moment σ} {visits : List Visit}
    (reads : timeline.Reads run.again before visits later after)
    (asked : visits.map (·.query) = run.queries)
    (met : visits.all (·.meets run.plan.condition) = true) :
    Closes timeline run before visits (later.finish .satisfied .ok) after
  | overdue {later : Run} {after : Moment σ} {visits : List Visit}
    (reads : timeline.Reads run.again before visits later after)
    (asked : visits.map (·.query) = run.queries)
    (unmet : visits.all (·.meets run.plan.condition) = false)
    (overdue : run.plan.timeout < later.elapsed + run.plan.interval) :
    Closes timeline run before visits (later.finish .timedOut .ok) after
  | calledOffInPause {later : Run} {middle after : Moment σ} {visits : List Visit} {now : Instant}
    (reads : timeline.Reads run.again before visits later middle)
    (asked : visits.map (·.query) = run.queries)
    (unmet : visits.all (·.meets run.plan.condition) = false)
    (early : later.elapsed + run.plan.interval ≤ run.plan.timeout)
    (pause : timeline.PauseEnds run.plan.interval middle (.cancelled, now) after) :
    Closes timeline run before visits
      ({ later with now := now }.finish .aborted fun report => .error (.cancelled report)) after
  | calledOff {later : Run} {after : Moment σ} {visits : List Visit} {q : Query} {rest : List Query}
    (reads : timeline.Reads run.again before visits later after)
    (asked : visits.map (·.query) ++ q :: rest = run.queries)
    (cancelled : timeline.isCancelled after.now = true) :
    Closes timeline run before visits
      (later.finish .aborted fun report => .error (.cancelled report)) after
  | stopped {later : Run} {middle after : Moment σ} {visits : List Visit} {last : Visit}
    {rest : List Query} {ending : Ending}
    (reads : timeline.Reads run.again before visits later middle)
    (asked : visits.map (·.query) ++ last.query :: rest = run.queries)
    (read : timeline.Read later.remaining middle last after)
    (stops : Run.Stops { later with now := last.endedAt } last.query later.remaining last.outcome
      ending) :
    Closes timeline run before (visits ++ [last]) ending after

/-- What one round of a poll leads to: another round after a lap, or the end. -/
theorem laps_or_closes (timeline : Timeline σ) (limit : Nat) (synced : run.now = before.now) :
    (∃ visits later after, timeline.Lap run before visits later after ∧
      timeline.run (run.rounds (limit + 1)) before = timeline.run (later.rounds limit) after) ∨
    ∃ visits ending after, timeline.Closes run before visits ending after ∧
      timeline.run (run.rounds (limit + 1)) before = some (some ending, after) := by
  obtain ⟨result, middle, ran, ends⟩ :=
    timeline.round_ends run.again run.queries true synced
  rw [Run.again] at ran
  rw [Run.rounds, run_bind, ran, Option.bind_some]
  cases ends with
  | calledOff reads asked cancelled => exact .inr ⟨_, _, _, .calledOff reads asked cancelled, rfl⟩
  | stopped reads asked read stops => exact .inr ⟨_, _, _, .stopped reads asked read stops, rfl⟩
  | @whole later _ visits reads asked =>
    have plan : later.plan = run.plan := reads.plan_eq
    rw [Bool.true_and]
    cases met : visits.all (·.meets run.again.plan.condition) with
    | true => exact .inr ⟨_, _, _, .satisfied reads asked met, rfl⟩
    | false =>
      by_cases overdue : later.plan.timeout < later.elapsed + later.plan.interval
      · refine .inr ⟨_, _, _, .overdue reads asked met (plan ▸ overdue), ?_⟩
        simp [overdue]
      · obtain ⟨⟨paused, now⟩, after, rested, pause⟩ := timeline.pause_ends later.plan.interval middle
        simp only [if_neg overdue, run_bind, rested, Option.bind_some]
        rw [plan] at overdue pause
        cases paused with
        | cancelled => exact .inr ⟨_, _, _, .calledOffInPause reads asked met (by lia) pause, rfl⟩
        | finished => exact .inl ⟨_, _, _, .turn reads asked met (by lia) pause, rfl⟩

/-- A poll makes laps until its limit is reached, or until a round closes it. -/
theorem rounds_take_laps (timeline : Timeline σ) (limit : Nat) (synced : run.now = before.now) :
    ∃ laps later middle, timeline.Laps run before laps later middle ∧
      (laps.length = limit ∧ timeline.run (run.rounds limit) before = some (none, middle) ∨
        laps.length < limit ∧ ∃ visits ending after,
          timeline.Closes later middle visits ending after ∧
          timeline.run (run.rounds limit) before = some (some ending, after)) := by
  induction limit generalizing run before with
  | zero => exact ⟨[], run, before, .none, .inl ⟨rfl, rfl⟩⟩
  | succ limit ih =>
    rcases timeline.laps_or_closes limit synced with
      ⟨visits, between, middle, lap, ran⟩ | ⟨visits, ending, after, closes, ran⟩
    · obtain ⟨laps, later, last, taken, rest⟩ := ih lap.synced
      refine ⟨visits :: laps, later, last, .next lap taken, ?_⟩
      rw [ran, List.length_cons]
      rcases rest with ⟨used, ended⟩ | ⟨within, closes⟩
      · exact .inl ⟨by rw [used], ended⟩
      · exact .inr ⟨by lia, closes⟩
    · exact ⟨[], run, before, .none, .inr ⟨Nat.succ_pos _, _, _, _, closes, ran⟩⟩

/-- A poll on a timeline is made of laps and a last round, unless its limit stops it. -/
theorem poll_takes_laps (timeline : Timeline σ) (plan : Plan) (queries : List Query)
    (before : Moment σ) : ∃ laps later middle,
      timeline.Laps (.first plan queries before.now) before laps later middle ∧
      (laps.length = plan.roundLimit ∧
          timeline.run (poll plan queries) before = some (none, middle) ∨
        laps.length < plan.roundLimit ∧ ∃ visits ending after,
          timeline.Closes later middle visits ending after ∧
          timeline.run (poll plan queries) before = some (some ending, after)) := by
  have started : timeline.run (poll plan queries) before =
      timeline.run ((Run.first plan queries before.now).rounds plan.roundLimit) before := by
    rw [poll, run_bind, run_clock]
    rfl
  rw [started]
  exact timeline.rounds_take_laps plan.roundLimit rfl

theorem poll_ends (timeline : Timeline σ) (plan : Plan) (queries : List Query) (before : Moment σ) :
    ∃ result after, timeline.run (poll plan queries) before = some (result, after) := by
  obtain ⟨_, _, middle, -, ⟨-, ran⟩ | ⟨-, _, ending, after, -, ran⟩⟩ :=
    timeline.poll_takes_laps plan queries before
  · exact ⟨none, middle, ran⟩
  · exact ⟨some ending, after, ran⟩

section Laps

variable {laps : List (List Visit)} {visits : List Visit} {ending : Ending}

theorem Lap.frame (lap : timeline.Lap run before visits later after) :
    later = { run with now := later.now, last := later.last, attempts := run.attempts + 1 } := by
  cases lap with
  | turn reads =>
    rw [reads.frame]
    rfl

theorem Lap.plan_eq (lap : timeline.Lap run before visits later after) :
    later.plan = run.plan := by rw [lap.frame]

theorem Lap.queries_eq (lap : timeline.Lap run before visits later after) :
    later.queries = run.queries := by rw [lap.frame]

theorem Lap.started_eq (lap : timeline.Lap run before visits later after) :
    later.started = run.started := by rw [lap.frame]

theorem Lap.visits_eq (lap : timeline.Lap run before visits later after) :
    after.visits = before.visits ++ visits := by
  cases lap with
  | turn reads asked unmet early pause =>
    cases pause
    exact reads.visits_eq

theorem Laps.synced (taken : timeline.Laps run before laps later after)
    (synced : run.now = before.now) : later.now = after.now := by
  induction taken with
  | none => exact synced
  | next lap _ ih => exact ih lap.synced

theorem Laps.frame (taken : timeline.Laps run before laps later after) :
    later = { run with
      now := later.now, last := later.last, attempts := run.attempts + laps.length } := by
  induction taken with
  | none => rfl
  | next lap _ ih =>
    rw [ih, lap.frame, List.length_cons, Nat.add_assoc, Nat.add_comm 1]

theorem Laps.plan_eq (taken : timeline.Laps run before laps later after) :
    later.plan = run.plan := by rw [taken.frame]

theorem Laps.queries_eq (taken : timeline.Laps run before laps later after) :
    later.queries = run.queries := by rw [taken.frame]

theorem Laps.started_eq (taken : timeline.Laps run before laps later after) :
    later.started = run.started := by rw [taken.frame]

theorem Laps.attempts_eq (taken : timeline.Laps run before laps later after) :
    later.attempts = run.attempts + laps.length := by rw [taken.frame]

theorem Laps.visits_eq (taken : timeline.Laps run before laps later after) :
    after.visits = before.visits ++ laps.flatten := by
  induction taken with
  | none => simp
  | next lap _ ih => rw [ih, lap.visits_eq, List.flatten_cons, List.append_assoc]

theorem Closes.visits_eq (closes : timeline.Closes run before visits ending after) :
    after.visits = before.visits ++ visits := by
  cases closes with
  | satisfied reads | overdue reads | calledOff reads => exact reads.visits_eq
  | calledOffInPause reads asked unmet early pause =>
    cases pause
    exact reads.visits_eq
  | stopped reads asked read => rw [read.visits, reads.visits_eq, List.append_assoc]

theorem Closes.reports (closes : timeline.Closes run before visits ending after)
    (synced : run.now = before.now) : ∃ (last : Run) (stage : Stage),
      ending.report? = some (last.report stage) ∧
      last = { run.again with now := after.now, last := last.last } := by
  cases closes with
  | satisfied reads | overdue reads | calledOff reads =>
    exact ⟨_, _, rfl, reads.synced synced ▸ reads.frame⟩
  | calledOffInPause reads asked unmet early pause =>
    cases pause
    refine ⟨_, _, rfl, ?_⟩
    rw [reads.frame]
  | @stopped _ _ _ _ last _ _ reads asked read stops =>
    rw [read.ended]
    generalize last.outcome = outcome at stops
    cases stops with
    | cancelled | fatal =>
      refine ⟨_, _, rfl, ?_⟩
      rw [reads.frame]
    | late =>
      refine ⟨_, _, rfl, ?_⟩
      rw [reads.frame]
      rfl

end Laps

end Timeline

end Readiness.Poll
