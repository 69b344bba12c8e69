import Readiness.Proofs.Poll.Asking
import Readiness.Proofs.Poll.Immediate

/-! Polls of one query whose reads are answered at once and never fail for good: the first read that meets
the condition ends the poll, with a report of just this read. -/
namespace Readiness.Poll

namespace Timeline

variable {σ : Type} {timeline : Timeline σ} {reply : Query → Instant → Reply}
variable {run later : Run} {before after : Moment σ} {visits : List Visit} {q : Query}
variable {ending : Ending}

theorem Reads.single (reads : timeline.Reads run before visits later after)
    (atOnce : timeline.AnswersAtOnce reply) (asked : visits.map (·.query) = [q]) :
    ∃ state, Timed.state? before.now (.answered (reply q before.now)) = some state ∧
      later.last.get? q.key = some state := by
  obtain ⟨visit, rfl, rfl⟩ := List.map_eq_singleton_iff.1 asked
  cases reads with
  | next read left rest =>
    obtain ⟨answered, ended⟩ := read.at_once atOnce
    cases rest
    refine ⟨_, ?_, Ledger.get?_put_self ..⟩
    rw [← answered, ← ended]
    exact left

theorem Closes.succeeded_eq {report : Report} (closes : timeline.Closes run before visits ending after)
    (synced : run.now = before.now) (verdict : ending.verdict = .ok report) :
    report.succeeded = (report.stage == .satisfied) := by
  obtain ⟨last, stage, reported, -⟩ := closes.reports synced
  rw [Ending.report?, verdict] at reported
  obtain rfl := Option.some.inj reported
  rfl

theorem Closes.shows {report : Report} (closes : timeline.Closes run before visits ending after)
    (atOnce : timeline.AnswersAtOnce reply) (asked : run.queries = [q])
    (verdict : ending.verdict = .ok report) (stage : report.stage = .satisfied) :
    ∃ reading, reply q before.now = .ok reading ∧
      report.stateOf? q = some (.observed ⟨reading, before.now⟩) := by
  cases closes with
  | satisfied reads asks met =>
    obtain rfl := Except.ok.inj verdict
    obtain ⟨state, left, shown⟩ := reads.single atOnce (asks.trans asked)
    rw [reads.all_meets atOnce, asks, asked] at met
    cases given : reply q before.now with
    | error => simp [Reply.meets, given] at met
    | ok reading =>
      rw [given] at left
      obtain rfl := Option.some.inj left
      exact ⟨reading, rfl, shown⟩
  | overdue =>
    obtain rfl := Except.ok.inj verdict
    cases stage
  | calledOffInPause | calledOff => cases verdict
  | @stopped _ _ _ _ last _ _ reads asks read stops =>
    generalize last.outcome = outcome at stops
    cases stops with
    | cancelled | fatal => cases verdict
    | late =>
      obtain rfl := Except.ok.inj verdict
      cases stage

end Timeline

theorem not_meets_of_undecided {condition : Condition} {q : Query} {replies : Query → Reply}
    (undecided : ¬ Decisive condition [q] replies) : (replies q).meets condition = false :=
  Bool.eq_false_iff.2 fun met => undecided (.inr (List.forall_mem_singleton.2 met))

/-- A poll of one query succeeds in the first round whose reply meets the condition, and shows this reply;
if there is none in time, it does not succeed. -/
theorem poll_single_closed_form {σ : Type} (timeline : Timeline σ) (reply : Query → Instant → Reply)
    (plan : Plan) (q : Query) (before : Moment σ) (atOnce : timeline.AnswersAtOnce reply)
    (paced : 0 < plan.interval) (exact : timeline.IsExactUpTo plan.timeout)
    (mild : ∀ now, (reply q now).isFatal = false) :
    ∃ ending after report, timeline.run (poll plan [q]) before = some (some ending, after) ∧
      ending.verdict = .ok report ∧
      ((∃ k reading, k * plan.interval ≤ plan.timeout ∧
          (∀ j < k, (plan.replies reply before.now j q).meets plan.condition = false) ∧
          plan.replies reply before.now k q = .ok reading ∧
          plan.condition.holds reading.state = true ∧ report.succeeded = true ∧
          report.stateOf? q = some (.observed ⟨reading, before.now + k * plan.interval⟩) ∧
          after.now = before.now + k * plan.interval) ∨
        (∀ j, j * plan.interval ≤ plan.timeout →
          (plan.replies reply before.now j q).meets plan.condition = false) ∧
          report.succeeded = false) := by
  obtain ⟨laps, later, middle, visits, ending, after, taken, closes, ran, bound⟩ :=
    timeline.poll_closes paced exact [q] before
  obtain ⟨begun, undecided⟩ := taken.at_once atOnce exact
  have synced := taken.synced rfl
  have started : later.started = before.now := taken.started_eq
  have plan_eq : later.plan = plan := taken.plan_eq
  have asked : later.queries = [q] := taken.queries_eq
  rw [Run.first_plan] at begun
  obtain ⟨ended, settles⟩ := closes.at_once atOnce synced
  rw [plan_eq, asked, begun, Run.elapsed, started, synced, begun, Nat.add_sub_cancel_left] at settles
  generalize made : ending.verdict = verdict at settles
  refine ⟨ending, after, ?_⟩
  cases settles with
  | @satisfied report met stage =>
    obtain ⟨reading, given, shown⟩ := closes.shows atOnce asked made stage
    refine ⟨report, ran, made, .inl ⟨laps.length, reading, (Nat.le_div_iff_mul_le paced).1 bound,
      fun j early => not_meets_of_undecided (undecided j early), ?_⟩⟩
    rw [begun] at given shown ended
    have holds := met q List.mem_cons_self
    rw [given] at holds
    refine ⟨given, holds, ?_, shown, ended⟩
    rw [closes.succeeded_eq synced made, stage]
    rfl
  | @overdue report last late stage =>
    refine ⟨report, ran, made, .inr ⟨fun j inTime => ?_, ?_⟩⟩
    · rw [← Nat.succ_mul] at late
      rcases Nat.lt_or_eq_of_le (Nat.lt_succ_iff.1
        (Nat.lt_of_mul_lt_mul_right (Nat.lt_of_le_of_lt inTime late))) with early | rfl
      · exact not_meets_of_undecided (undecided j early)
      · exact not_meets_of_undecided last
    · rw [closes.succeeded_eq synced made, stage]
      rfl
  | fatal first =>
    have fatal := List.find?_some first
    obtain rfl := List.mem_singleton.1 (List.mem_of_find?_eq_some first)
    rw [mild] at fatal
    cases fatal

end Readiness.Poll
