import Readiness.Poll.Run

/-! What one read does to a run: it leaves a state in the ledger and the poll goes on, or it ends the
poll in one of three ways. Everything about polls rests on this case analysis. -/
namespace Readiness

def LastState.meets (condition : Condition) : LastState → Bool
  | .observed seen => condition.holds seen.state
  | .unknown | .missing _ => false

theorem LastState.meets_iff {condition : Condition} {last : LastState} :
    last.meets condition = true ↔
      ∃ seen, last = .observed seen ∧ condition.holds seen.state = true := by
  cases last <;> simp [meets]

namespace Poll

/-- What is known of a query after a read that does not end the poll. -/
def Timed.state? (now : Instant) : Timed (Except FetchError Reading) → Option LastState
  | .answered (.ok reading) => some (.observed ⟨reading, now⟩)
  | .answered (.error e) => if e.isFatal then none else some (.missing e.message)
  | .late | .cancelled => none

/-- The report with which a poll ended, be it a result or part of an error. -/
def Ending.report? (ending : Ending) : Option Report :=
  match ending.verdict with
  | .ok report => some report
  | .error e => e.report?

namespace Run

def again (run : Run) : Run := { run with attempts := run.attempts + 1 }

@[simp] theorem again_plan (run : Run) : run.again.plan = run.plan := rfl
@[simp] theorem again_now (run : Run) : run.again.now = run.now := rfl

/-- The three ways in which a read ends a poll. -/
inductive Stops (run : Run) (q : Query) (budget : Duration) :
    Timed (Except FetchError Reading) → Ending → Prop
  | cancelled : Stops run q budget .cancelled
      (run.finish .aborted fun report => .error (.cancelled report))
  | late : Stops run q budget .late
      ((run.record q (.missing ("no response within " ++ Duration.text budget))).finish .timedOut .ok)
  | fatal {e : FetchError} (isFatal : e.isFatal = true) : Stops run q budget (.answered (.error e))
      (run.finish .aborted fun report => .error (.fatal q e report))

theorem Stops.state? {run : Run} {q : Query} {budget : Duration}
    {outcome : Timed (Except FetchError Reading)} {ending : Ending}
    (stops : run.Stops q budget outcome ending) (now : Instant) : outcome.state? now = none := by
  cases stops with
  | cancelled | late => rfl
  | fatal isFatal => simp [Timed.state?, isFatal]

theorem absorb_of_state (run : Run) {outcome : Timed (Except FetchError Reading)} {state : LastState}
    (left : outcome.state? run.now = some state) (q : Query) (budget : Duration) :
    run.absorb q budget outcome =
      .inr (run.record q state, state.meets run.plan.condition) := by
  cases outcome with
  | late | cancelled => simp [Timed.state?] at left
  | answered result =>
    cases result with
    | ok reading =>
      simp only [Timed.state?, Option.some.injEq] at left
      subst left
      rfl
    | error e =>
      simp only [Timed.state?, Option.ite_none_left_eq_some, Option.some.injEq] at left
      obtain ⟨retried, rfl⟩ := left
      simp [absorb, retried, LastState.meets]

theorem absorb_of_no_state (run : Run) {outcome : Timed (Except FetchError Reading)}
    (left : outcome.state? run.now = none) (q : Query) (budget : Duration) :
    ∃ ending, run.absorb q budget outcome = .inl ending ∧ run.Stops q budget outcome ending := by
  cases outcome with
  | cancelled => exact ⟨_, rfl, .cancelled⟩
  | late => exact ⟨_, rfl, .late⟩
  | answered result =>
    cases result with
    | ok reading => simp [Timed.state?] at left
    | error e =>
      have isFatal : e.isFatal = true := by simpa [Timed.state?] using left
      exact ⟨_, by simp [absorb, isFatal], .fatal isFatal⟩

end Run

end Poll

end Readiness
