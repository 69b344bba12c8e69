import Readiness.Proofs.Poll.Asking
import Readiness.Proofs.Poll.Laps

/-! A check beside a poll that has no time: where the query is answered at once, both read it once, at the
same instant, and take the answer alike. A poll asks whether it is called off before it reads, and a check
does not, so nothing may have been called off yet. -/
namespace Readiness.Poll

/-- A check of a query and a poll of it end alike: they pass, fail or give up together, and tell of the
same observation, of the same last state and condition, or of the same failure. -/
structure Agree (q : Query) (checked : Except Error Observation) (polled : Except Error Report) :
    Prop where
  ends : (∃ seen, checked = .ok seen) ∨ (∃ expected last, checked = .error (.assertion q expected last)) ∨
    ∃ e report, checked = .error (.fatal q e report)
  passed_iff : (∃ seen, checked = .ok seen) ↔ ∃ report, polled = .ok report ∧ report.succeeded = true
  passed : ∀ seen report, checked = .ok seen → polled = .ok report →
    report.stateOf? q = some (.observed seen)
  failed_iff : (∃ p expected last, checked = .error (.assertion p expected last)) ↔
    ∃ report, polled = .ok report ∧ report.stage = .timedOut
  failed : ∀ p expected last report, checked = .error (.assertion p expected last) →
    polled = .ok report → p = q ∧ report.expected = expected ∧ report.stateOf? q = some last
  fatal_iff : ∀ p e, (∃ report, checked = .error (.fatal p e report)) ↔
    ∃ report, polled = .error (.fatal p e report)

namespace Agree

variable {q : Query}

theorem of_passed (report : Report) {seen : Observation} (succeeded : report.succeeded = true)
    (stage : report.stage = .satisfied) (shown : report.stateOf? q = some (.observed seen)) :
    Agree q (.ok seen) (.ok report) := by
  constructor <;> simp [succeeded, stage, shown]

theorem of_failed (report : Report) {last : LastState} (unsuccessful : report.succeeded = false)
    (stage : report.stage = .timedOut) (shown : report.stateOf? q = some last) :
    Agree q (.error (.assertion q report.expected last)) (.ok report) := by
  constructor
  case failed =>
    rintro p expected last report ⟨⟩ ⟨⟩
    exact ⟨rfl, rfl, shown⟩
  all_goals simp [unsuccessful, stage]

theorem of_fatal (e : FetchError) (first second : Report) :
    Agree q (.error (.fatal q e first)) (.error (.fatal q e second)) := by
  constructor <;> simp

end Agree

def judged (condition : Condition) (q : Query) (now : Instant) :
    Except FetchError Reading → Except Error Observation
  | .ok reading =>
    if condition.holds reading.state then .ok ⟨reading, now⟩
    else .error (.assertion q condition.description (.observed ⟨reading, now⟩))
  | .error e =>
    if e.isFatal then .error (.fatal q e (unstarted condition q))
    else .error (.assertion q condition.description (.missing e.message))

/-- How a poll ends after a round if there is no time for another one. -/
def closing : Ending ⊕ Run × Bool → Ending
  | .inl ending => ending
  | .inr (later, true) => later.finish .satisfied .ok
  | .inr (later, false) => later.finish .timedOut .ok

theorem agree_closing (run : Run) (q : Query) (budget : Duration) (told : Except FetchError Reading) :
    Agree q (judged run.plan.condition q run.now told)
      (closing (run.absorb q budget (.answered told))).verdict := by
  have shown (state : LastState) : (run.record q state).last.get? q.key = some state :=
    Ledger.get?_put_self ..
  rcases told with e | reading
  · cases fatal : e.isFatal with
    | true =>
      simp only [judged, Run.absorb, fatal, if_true]
      exact .of_fatal ..
    | false =>
      simp only [judged, Run.absorb, fatal, Bool.false_eq_true, if_false]
      exact .of_failed ((run.record q _).report .timedOut) rfl rfl (shown _)
  · cases holds : run.plan.condition.holds reading.state with
    | true =>
      simp only [judged, Run.absorb, holds, if_true]
      exact .of_passed ((run.record q _).report .satisfied) rfl rfl (shown _)
    | false =>
      simp only [judged, Run.absorb, holds, Bool.false_eq_true, if_false]
      exact .of_failed ((run.record q _).report .timedOut) rfl rfl (shown _)

namespace Timeline

variable {σ : Type} {timeline : Timeline σ} {before : Moment σ} {q : Query}

/-- A read of the query that begins now is answered now, and nothing has been called off. -/
structure ReadyFor (timeline : Timeline σ) (q : Query) (before : Moment σ) : Prop where
  live : timeline.isCancelled before.now = false
  ready : (timeline.answer q before.now before.source).1 = .ready

def told (timeline : Timeline σ) (q : Query) (before : Moment σ) : Except FetchError Reading :=
  (timeline.answer q before.now before.source).2.1

def readOnce (timeline : Timeline σ) (q : Query) (before : Moment σ) : Moment σ :=
  visited before q (timeline.answer q before.now before.source).2.2
    (.answered (timeline.told q before), before.now)

theorem ReadyFor.run_read (ready : timeline.ReadyFor q before) :
    timeline.run (read q) before =
      some ((timeline.told q before, before.now), timeline.readOnce q before) := by
  refine (Program.run_perform ..).trans ?_
  simp only [respond, ready.ready]
  rfl

theorem ReadyFor.run_fetch (ready : timeline.ReadyFor q before) (budget : Duration) :
    timeline.run (fetch q budget) before =
      some ((.answered (timeline.told q before), before.now), timeline.readOnce q before) := by
  have uncut : timeline.cutBefore before.now = none :=
    cutBefore_eq_none fun c set => Nat.le_of_lt (lt_cancelAt ready.live set)
  have outcome : timeline.outcome before.now budget .ready (timeline.told q before) =
      (.answered (timeline.told q before), before.now) := by
    simp only [Timeline.outcome, Arrival.within, Nat.add_zero, uncut]
  rw [Timeline.run_fetch, respond_fetch_live ready.live]
  simp only [ready.ready]
  change some (timeline.outcome before.now budget .ready (timeline.told q before),
    visited before q _ (timeline.outcome before.now budget .ready (timeline.told q before))) = _
  rw [outcome]
  rfl

theorem ReadyFor.run_round (ready : timeline.ReadyFor q before) {run : Run}
    (synced : run.now = before.now) :
    timeline.run (run.round true [q]) before =
      some (run.absorb q run.remaining (.answered (timeline.told q before)),
        timeline.readOnce q before) := by
  rw [Run.round, run_bind, ready.run_fetch, Option.bind_some]
  simp only [← synced]
  rcases run.absorb q run.remaining (.answered (timeline.told q before)) with ending | ⟨later, holds⟩
  · rfl
  · rfl

/-- A poll that has no time ends after its first round, as the answer makes it. -/
theorem ReadyFor.run_poll (ready : timeline.ReadyFor q before) {plan : Plan} (hurried : plan.timeout = 0)
    (paced : 0 < plan.interval) :
    let run := (Run.first plan [q] before.now).again
    timeline.run (poll plan [q]) before =
      some (some (closing (run.absorb q run.remaining (.answered (timeline.told q before)))),
        timeline.readOnce q before) := by
  intro run
  obtain ⟨limit, rounds⟩ := plan.exists_roundLimit
  rw [poll, run_bind, run_clock, Option.bind_some, rounds, Run.rounds, run_bind]
  change (timeline.run (run.round true [q]) before).bind _ = _
  rw [ready.run_round rfl, Option.bind_some]
  rcases run.absorb_cases q run.remaining (.answered (timeline.told q before)) with
    ⟨ending, absorbed, -⟩ | ⟨state, -, absorbed⟩ <;> rw [absorbed]
  · rfl
  · cases state.meets run.plan.condition with
    | true => rfl
    | false =>
      have overdue : plan.timeout < (run.record q state).elapsed + plan.interval := by
        rw [hurried]
        exact Nat.add_pos_right _ paced
      exact congrArg (timeline.run · _) (if_pos overdue)

theorem ReadyFor.run_check (ready : timeline.ReadyFor q before) (condition : Condition) :
    timeline.run (check condition q) before =
      some (judged condition q before.now (timeline.told q before), timeline.readOnce q before) := by
  rw [check, run_bind, ready.run_read, Option.bind_some]
  rcases timeline.told q before with e | reading <;> simp only [judged] <;> split <;> rfl

end Timeline

/-- Where a query is answered at once, a check of it and a poll of it that has no time make the same one
read and agree. -/
theorem check_agrees_with_poll {σ : Type} {timeline : Timeline σ} {before : Moment σ} {q : Query}
    (ready : timeline.ReadyFor q before) (condition : Condition) {interval : Duration}
    (paced : 0 < interval) :
    ∃ checked ending after visit,
      timeline.run (check condition q) before = some (checked, after) ∧
      timeline.run (poll { condition := condition, interval := interval, timeout := 0 } [q]) before =
        some (some ending, after) ∧
      after.visits = before.visits ++ [visit] ∧ visit.query = q ∧ Agree q checked ending.verdict := by
  let plan : Plan := { condition := condition, interval := interval, timeout := 0 }
  have polled : timeline.run (poll plan [q]) before = _ := ready.run_poll rfl paced
  refine ⟨_, _, timeline.readOnce q before, _, ready.run_check condition, polled, rfl, rfl, ?_⟩
  exact agree_closing (Run.first plan [q] before.now).again q _ (timeline.told q before)

/-- A pod that is there from the second read on, and does not run before the third. -/
def pending : Timeline Nat where
  answer q _ reads :=
    (.ready,
      if reads = 0 then .error (.notFound "no pod")
      else .ok ⟨q.name, if reads = 1 then "Pending" else "Running"⟩,
      reads + 1)
  cancelAt := some (Duration.ofSecs 60)

theorem check_agrees_with_poll_pending :
    let q : Query := ⟨"pod", "web", "shop", none⟩
    let before : Moment Nat := ⟨Duration.ofSecs 5, 1, []⟩
    let condition : Condition := .equals "Running"
    let plan : Plan := { condition := condition, interval := Duration.ofSecs 1, timeout := 0 }
    let last : LastState := .observed ⟨⟨"web", "Pending"⟩, Duration.ofSecs 5⟩
    pending.ReadyFor q before ∧ 0 < plan.interval ∧ ∃ ending report after,
      pending.run (check condition q) before = some (.error (.assertion q "== Running" last), after) ∧
      pending.run (poll plan [q]) before = some (some ending, after) ∧
      ending.verdict = .ok report ∧ report.stage = .timedOut ∧ report.stateOf? q = some last := by
  intro q before condition plan last
  have ready : pending.ReadyFor q before := ⟨by decide, rfl⟩
  have paced : 0 < plan.interval := by decide
  obtain ⟨checked, ending, after, -, check, poll, -, -, agree⟩ :=
    check_agrees_with_poll ready condition paced
  obtain rfl : checked = .error (.assertion q "== Running" last) := by
    rw [ready.run_check] at check
    exact (congrArg Prod.fst (Option.some.inj check)).symm.trans rfl
  obtain ⟨report, verdict, stage⟩ := agree.failed_iff.1 ⟨_, _, _, rfl⟩
  obtain ⟨-, -, shown⟩ := agree.failed _ _ _ report rfl verdict
  exact ⟨ready, paced, ending, report, after, check, poll, verdict, stage, shown⟩

end Readiness.Poll
