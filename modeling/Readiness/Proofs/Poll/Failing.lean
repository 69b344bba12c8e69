import Readiness.Proofs.Poll.Immediate

/-! Polls with a query whose reads always fail. Such a poll does not succeed. It is over in its first round
if the failures are for good, and goes on until its time is over if no failure is. -/
namespace Readiness.Poll

namespace Timeline

variable {σ : Type} {timeline : Timeline σ} {run later : Run} {before after : Moment σ}
variable {visits : List Visit} {ending : Ending} {q : Query}

def Fails (timeline : Timeline σ) (q : Query) : Prop :=
  ∀ now source, ∃ e, (timeline.answer q now source).2.1 = .error e

def FailsForGood (timeline : Timeline σ) (q : Query) : Prop :=
  ∀ now source, ∃ e, (timeline.answer q now source).2.1 = .error e ∧ e.isFatal = true

/-- A read leaves no state, or the one that its answer makes. -/
theorem Read.state?_eq_or {budget : Duration} {visit : Visit}
    (read : timeline.Read budget before visit after) : visit.state? = none ∨ visit.state? =
      Timed.state? visit.endedAt
        (.answered (timeline.answer visit.query before.now before.source).2.1) := by
  have comes := read.comes
  rw [Visit.state?]
  generalize visit.outcome = outcome, visit.endedAt = ended at comes ⊢
  cases comes with
  | answered => exact .inr rfl
  | late | cancelled => exact .inl rfl

theorem Read.not_meets {budget : Duration} {visit : Visit}
    (read : timeline.Read budget before visit after) (fails : timeline.Fails visit.query)
    (condition : Condition) : visit.meets condition = false := by
  obtain ⟨e, failed⟩ := fails before.now before.source
  rcases read.state?_eq_or with nothing | left
  · rw [Visit.meets, nothing]
    rfl
  · rw [Visit.meets, left, failed]
    exact Reply.any_meets_state? condition (.error e) _

theorem Read.state?_eq_none {budget : Duration} {visit : Visit}
    (read : timeline.Read budget before visit after) (lost : timeline.FailsForGood visit.query) :
    visit.state? = none := by
  obtain ⟨e, failed, fatal⟩ := lost before.now before.source
  rcases read.state?_eq_or with nothing | left
  · exact nothing
  · rw [left, failed]
    exact if_pos fatal

theorem Reads.exists_read (reads : timeline.Reads run before visits later after) :
    ∀ visit ∈ visits, ∃ budget start stop, timeline.Read budget start visit stop := by
  induction reads with
  | none => nofun
  | next read _ _ ih => exact List.forall_mem_cons.2 ⟨⟨_, _, _, read⟩, ih⟩

theorem Closes.not_succeeded (closes : timeline.Closes run before visits ending after)
    (member : q ∈ run.queries) (fails : timeline.Fails q) {report : Report}
    (reported : ending.report? = some report) : report.succeeded = false := by
  cases closes with
  | satisfied reads asked met =>
    obtain ⟨visit, visited, rfl⟩ := List.mem_map.1 (asked ▸ member)
    obtain ⟨_, _, _, read⟩ := reads.exists_read visit visited
    have meets := List.all_eq_true.1 met visit visited
    rw [read.not_meets fails] at meets
    cases meets
  | overdue | calledOffInPause | calledOff =>
    obtain rfl := Option.some.inj reported
    rfl
  | @stopped _ _ _ _ last _ _ reads asked read stops =>
    generalize last.outcome = outcome at stops
    cases stops with
    | cancelled | late | fatal =>
      obtain rfl := Option.some.inj reported
      rfl

theorem poll_not_succeeded (plan : Plan) {queries : List Query} (member : q ∈ queries)
    (fails : timeline.Fails q) (before : Moment σ) :
    ∃ result after, timeline.run (poll plan queries) before = some (result, after) ∧
      ∀ ending report, result = some ending → ending.report? = some report →
        report.succeeded = false := by
  obtain ⟨laps, later, middle, taken, rest⟩ := timeline.poll_takes_laps plan queries before
  rcases rest with ⟨-, ran⟩ | ⟨-, visits, ending, after, closes, ran⟩
  · refine ⟨none, middle, ran, fun ending report same => ?_⟩
    cases same
  · refine ⟨some ending, after, ran, ?_⟩
    rintro _ report ⟨⟩ reported
    rw [← Run.first_queries plan queries before.now, ← taken.queries_eq] at member
    exact closes.not_succeeded member fails reported

theorem Reads.not_mem (reads : timeline.Reads run before visits later after)
    (lost : timeline.FailsForGood q) : q ∉ visits.map (·.query) := by
  intro member
  obtain ⟨visit, visited, rfl⟩ := List.mem_map.1 member
  obtain ⟨_, _, _, read⟩ := reads.exists_read visit visited
  have settled := reads.settled visit visited
  rw [read.state?_eq_none lost] at settled
  cases settled

theorem Lap.not_mem (lap : timeline.Lap run before visits later after)
    (lost : timeline.FailsForGood q) : q ∉ run.queries := by
  cases lap with
  | turn reads asked => exact asked ▸ reads.not_mem lost

/-- The ways in which a poll is over within a round that it does not complete. -/
inductive BreaksOff (visits : List Visit) (report : Report) : Except Error Report → Prop
  | fatal {q : Query} {e : FetchError} (fatal : e.isFatal = true) :
    BreaksOff visits report (.error (.fatal q e report))
  | cancelled : BreaksOff visits report (.error (.cancelled report))
  | late {visit : Visit} (last : visits.getLast? = some visit) (late : visit.outcome = .late) :
    BreaksOff visits report (.ok report)

theorem Closes.breaksOff (closes : timeline.Closes run before visits ending after)
    (member : q ∈ run.queries) (lost : timeline.FailsForGood q) :
    ∃ report, ending.report? = some report ∧ BreaksOff after.visits report ending.verdict := by
  have made := closes.visits_eq
  cases closes with
  | satisfied reads asked | overdue reads asked | calledOffInPause reads asked =>
    exact absurd (asked ▸ member) (reads.not_mem lost)
  | calledOff => exact ⟨_, rfl, .cancelled⟩
  | @stopped _ _ _ _ last _ _ reads asked read stops =>
    generalize outcome : last.outcome = came at stops
    cases stops with
    | cancelled => exact ⟨_, rfl, .cancelled⟩
    | fatal isFatal => exact ⟨_, rfl, .fatal isFatal⟩
    | late =>
      have final : after.visits.getLast? = some last := by
        rw [made, ← List.append_assoc, List.getLast?_concat]
      exact ⟨_, rfl, .late final outcome⟩

/-- A poll with a query whose reads fail for good is over in its first round. -/
theorem poll_breaks_off (plan : Plan) {queries : List Query} (member : q ∈ queries)
    (lost : timeline.FailsForGood q) (before : Moment σ) :
    ∃ ending report after, timeline.run (poll plan queries) before = some (some ending, after) ∧
      ending.report? = some report ∧ report.attempts = 1 ∧
      BreaksOff after.visits report ending.verdict := by
  obtain ⟨laps, later, middle, taken, ran⟩ := timeline.poll_takes_laps plan queries before
  cases taken with
  | next lap => exact absurd member (lap.not_mem lost)
  | none =>
    obtain ⟨limit, rounds⟩ := plan.exists_roundLimit
    rcases ran with ⟨used, -⟩ | ⟨-, visits, ending, after, closes, ran⟩
    · cases used.trans rounds
    · obtain ⟨report, reported, breaksOff⟩ := closes.breaksOff member lost
      obtain ⟨last, stage, made, begun⟩ := closes.reports rfl
      obtain rfl := Option.some.inj (reported.symm.trans made)
      exact ⟨ending, _, after, ran, reported, by rw [begun]; rfl, breaksOff⟩

theorem AnswersAtOnce.result_eq {reply : Query → Instant → Reply}
    (atOnce : timeline.AnswersAtOnce reply) (q : Query) (now : Instant) (source : σ) :
    (timeline.answer q now source).2.1 = reply q now := by
  obtain ⟨left, answered⟩ := atOnce.answer q now source
  rw [answered]

/-- A poll with a query whose reads fail goes on until its time is over if no read fails for good. -/
theorem poll_waits_out {reply : Query → Instant → Reply} (plan : Plan) {queries : List Query}
    (member : q ∈ queries) (fails : timeline.Fails q) (atOnce : timeline.AnswersAtOnce reply)
    (mild : ∀ p ∈ queries, ∀ now, (reply p now).isFatal = false) (paced : 0 < plan.interval)
    (exact : timeline.IsExactUpTo plan.timeout) (before : Moment σ) :
    ∃ ending report after, timeline.run (poll plan queries) before = some (some ending, after) ∧
      ending.verdict = .ok report ∧ report.stage = .timedOut ∧
      report.attempts = plan.timeout / plan.interval + 1 := by
  have undecided (j : Nat) :
      ¬ Decisive plan.condition queries (plan.replies reply before.now j) := by
    rintro (⟨p, asked, fatal⟩ | met)
    · rw [Plan.replies, mild p asked] at fatal
      cases fatal
    · have meets := met q member
      obtain ⟨e, failed⟩ := fails (before.now + j * plan.interval) before.source
      rw [atOnce.result_eq] at failed
      rw [Plan.replies, failed] at meets
      cases meets
  obtain ⟨ending, after, ran, overdue, -⟩ :=
    poll_closed_form timeline reply plan queries before atOnce paced exact
  obtain ⟨report, verdict, stage, attempts, -⟩ := overdue fun j _ => undecided j
  exact ⟨ending, report, after, ran, verdict, stage, attempts⟩

end Timeline

end Readiness.Poll
