import Readiness.Proofs.Ledger
import Readiness.Proofs.Poll.Absorb
import Readiness.Proofs.Program.Record

/-! What a poll asks and what it is told last. A poll reads the queries it was given and nothing else;
when a poll of one query succeeds, the last thing it was told is a state that meets the condition, and
this state is the one in its report; and when a poll gives up, it was told of a failure that waiting
cannot mend. -/
namespace Readiness.Poll

def Request.IsOf (queries : List Query) : Request → Prop
  | .clock | .pause _ => True
  | .fetch q _ => q ∈ queries
  | .read _ => False

namespace Run

theorem absorb_cases (run : Run) (q : Query) (budget : Duration)
    (fetched : Timed (Except FetchError Reading)) :
    (∃ ending, run.absorb q budget fetched = .inl ending ∧ run.Stops q budget fetched ending) ∨
    ∃ state, fetched.state? run.now = some state ∧ run.absorb q budget fetched =
      .inr (run.record q state, state.meets run.plan.condition) := by
  cases left : fetched.state? run.now with
  | none => exact .inl (run.absorb_of_no_state left q budget)
  | some state => exact .inr ⟨state, rfl, run.absorb_of_state left q budget⟩

variable {queries : List Query}

theorem round_uses (run : Run) (allHold : Bool) {rest : List Query}
    (among : ∀ q ∈ rest, q ∈ queries) :
    (run.round allHold rest).Uses (Request.IsOf queries) := by
  induction rest generalizing run allHold with
  | nil => trivial
  | cons q rest ih =>
    obtain ⟨here, later⟩ := List.forall_mem_cons.1 among
    have read : (fetch q run.remaining).Uses (Request.IsOf queries) := Program.uses_perform here
    rw [round]
    refine read.bind fun (fetched, now) => ?_
    rcases { run with now := now }.absorb_cases q run.remaining fetched with
      ⟨ending, absorbed, -⟩ | ⟨state, -, absorbed⟩ <;> simp only [absorbed]
    · trivial
    · exact ih _ _ later

theorem round_queries (run : Run) (allHold : Bool) (rest : List Query) :
    (run.round allHold rest).Ends fun
      | .inl _ => True
      | .inr (later, _) => later.queries = run.queries := by
  induction rest generalizing run allHold with
  | nil => rfl
  | cons q rest ih =>
    rw [round, Program.ends_bind]
    refine Program.ends_of_forall _ fun (fetched, now) => ?_
    rcases { run with now := now }.absorb_cases q run.remaining fetched with
      ⟨ending, absorbed, -⟩ | ⟨state, -, absorbed⟩ <;> simp only [absorbed]
    · trivial
    · exact ih ({ run with now := now }.record q state) _

theorem rounds_uses (limit : Nat) {run : Run} (asked : run.queries = queries) :
    (run.rounds limit).Uses (Request.IsOf queries) := by
  induction limit generalizing run with
  | zero => trivial
  | succ limit ih =>
    have round : ({ run with attempts := run.attempts + 1 }.round true run.queries).Uses
        (Request.IsOf queries) :=
      round_uses _ _ fun _ member => asked ▸ member
    refine round.bind_of_ends (round_queries _ _ _) fun result ended => ?_
    match result with
    | .inl ending => trivial
    | .inr (later, true) => trivial
    | .inr (later, false) =>
      dsimp only
      split
      · trivial
      · refine (Program.uses_perform trivial).bind fun (paused, now) => ?_
        cases paused with
        | cancelled => trivial
        | finished => exact ih (ended.trans asked)

end Run

theorem poll_uses (plan : Plan) (queries : List Query) :
    (poll plan queries).Uses (Request.IsOf queries) :=
  (Program.uses_perform trivial).bind fun _ => Run.rounds_uses _ rfl

theorem check_uses (condition : Condition) (q : Query) :
    (check condition q).Uses (· = .read q) := by
  have once : (read q).Uses (· = .read q) := Program.uses_perform rfl
  refine once.bind fun (result, now) => ?_
  cases result <;> dsimp only <;> split <;> trivial

section Rounds

variable {limit : Nat} {run : Run} {record : List (Program.Exchange Answer)} {ending : Ending}

/-- How a run with rounds left ends and what it is told until then, by what comes of its next round. -/
inductive Run.Proceeds (limit : Nat) (run : Run) : List (Program.Exchange Answer) → Ending → Prop
  | stopped {record : List (Program.Exchange Answer)} {ending : Ending}
    (round : (run.again.round true run.queries).Yields record (.inl ending)) :
    Proceeds limit run record ending
  | satisfied {record : List (Program.Exchange Answer)} {later : Run}
    (round : (run.again.round true run.queries).Yields record (.inr (later, true))) :
    Proceeds limit run record (later.finish .satisfied .ok)
  | timedOut {record : List (Program.Exchange Answer)} {later : Run}
    (round : (run.again.round true run.queries).Yields record (.inr (later, false))) :
    Proceeds limit run record (later.finish .timedOut .ok)
  | cancelled {record pause : List (Program.Exchange Answer)} {later : Run} {now : Instant}
    (round : (run.again.round true run.queries).Yields record (.inr (later, false))) :
    Proceeds limit run (record ++ pause) ({ later with now := now }.finish .aborted fun report =>
      .error (.cancelled report))
  | onward {record pause rest : List (Program.Exchange Answer)} {later : Run} {now : Instant}
    {ending : Ending}
    (round : (run.again.round true run.queries).Yields record (.inr (later, false)))
    (more : ({ later with now := now }.rounds limit).Yields rest (some ending)) :
    Proceeds limit run (record ++ (pause ++ rest)) ending

theorem Run.proceeds_of_yields (yields : (run.rounds (limit + 1)).Yields record (some ending)) :
    run.Proceeds limit record ending := by
  rw [rounds, Program.yields_bind] at yields
  obtain ⟨result, first, rest, rfl, round, ended⟩ := yields
  match result with
  | .inl stopped =>
    obtain ⟨rfl, same⟩ := Program.yields_done.1 ended
    obtain rfl := Option.some.inj same
    exact (List.append_nil first).symm ▸ .stopped round
  | .inr (later, true) =>
    obtain ⟨rfl, same⟩ := Program.yields_done.1 ended
    obtain rfl := Option.some.inj same
    exact (List.append_nil first).symm ▸ .satisfied round
  | .inr (later, false) =>
    dsimp only at ended
    split at ended
    · obtain ⟨rfl, same⟩ := Program.yields_done.1 ended
      obtain rfl := Option.some.inj same
      exact (List.append_nil first).symm ▸ .timedOut round
    · obtain ⟨⟨paused, now⟩, pause, rest, rfl, -, ended⟩ := Program.yields_bind.1 ended
      cases paused with
      | cancelled =>
        obtain ⟨rfl, same⟩ := Program.yields_done.1 ended
        obtain rfl := Option.some.inj same
        exact (List.append_nil pause).symm ▸ .cancelled round
      | finished => exact .onward round ended

end Rounds

section Success

variable {run : Run} {q : Query} {budget : Duration} {fetched : Timed (Except FetchError Reading)}
variable {ending : Ending} {report : Report}

theorem Run.Stops.not_succeeded (stops : run.Stops q budget fetched ending)
    (verdict : ending.verdict = .ok report) : report.succeeded = false := by
  cases stops with
  | cancelled | fatal => cases verdict
  | late =>
    obtain rfl := Except.ok.inj verdict
    rfl

theorem answered_of_meets {now : Instant} {condition : Condition} {state : LastState}
    (left : fetched.state? now = some state) (meets : state.meets condition = true) :
    ∃ reading, fetched = .answered (.ok reading) ∧ state = .observed ⟨reading, now⟩ ∧
      condition.holds reading.state = true := by
  obtain ⟨seen, rfl, holds⟩ := LastState.meets_iff.1 meets
  unfold Timed.state? at left
  split at left
  · next reading =>
    obtain rfl := LastState.observed.inj (Option.some.inj left)
    exact ⟨reading, rfl, rfl, holds⟩
  · simp at left
  · cases left
  · cases left

/-- A round for one query is one read. It ends the poll, or is followed by `later`. -/
theorem Run.round_single (run : Run) (asked : run.queries = [q]) {record : List (Program.Exchange Answer)}
    {result : Ending ⊕ Run × Bool} (yields : (run.round true run.queries).Yields record result) :
    ∃ budget fetched now, record = [⟨.fetch q budget, (fetched, now)⟩] ∧
      ((∃ ending, result = .inl ending ∧ Run.Stops { run with now := now } q budget fetched ending) ∨
      ∃ state later, result = .inr (later, state.meets run.plan.condition) ∧
        fetched.state? now = some state ∧ later.last.get? q.key = some state ∧
        later.queries = [q] ∧ later.plan = run.plan) := by
  rw [asked, round, Program.yields_bind] at yields
  obtain ⟨⟨fetched, now⟩, first, rest, rfl, read, ended⟩ := yields
  obtain rfl := Program.yields_perform.1 read
  rcases { run with now := now }.absorb_cases q run.remaining fetched with
    ⟨ending, absorbed, stops⟩ | ⟨state, left, absorbed⟩
  all_goals
    simp only [absorbed] at ended
    obtain ⟨rfl, rfl⟩ := Program.yields_done.1 ended
  · exact ⟨_, fetched, now, rfl, .inl ⟨ending, rfl, stops⟩⟩
  · exact ⟨_, fetched, now, rfl, .inr ⟨state, _, rfl, left, Ledger.get?_put_self .., asked, rfl⟩⟩

/-- What a poll of one query was told last that succeeded. -/
theorem Run.rounds_single (limit : Nat) (run : Run) (asked : run.queries = [q])
    {record : List (Program.Exchange Answer)}
    (yields : (run.rounds limit).Yields record (some ending)) (verdict : ending.verdict = .ok report)
    (succeeded : report.succeeded = true) :
    ∃ before budget reading now,
      record = before ++ [⟨.fetch q budget, (.answered (.ok reading), now)⟩] ∧
      run.plan.condition.holds reading.state = true ∧
      report.stateOf? q = some (.observed ⟨reading, now⟩) := by
  induction limit generalizing run record with
  | zero => cases (Program.yields_done.1 yields).2
  | succ limit ih =>
    cases Run.proceeds_of_yields yields with
    | stopped round =>
      obtain ⟨budget, fetched, now, rfl, ⟨_, ⟨⟩, stops⟩ | ⟨_, _, ⟨⟩, _⟩⟩ :=
        run.again.round_single asked round
      rw [stops.not_succeeded verdict] at succeeded
      cases succeeded
    | satisfied round =>
      obtain ⟨budget, fetched, now, rfl, ⟨_, ⟨⟩, _⟩ | ⟨state, later, same, left, shown, -⟩⟩ :=
        run.again.round_single asked round
      obtain ⟨rfl, meets⟩ := Prod.mk.inj (Sum.inr.inj same)
      obtain rfl := Except.ok.inj verdict
      obtain ⟨reading, rfl, rfl, holds⟩ := answered_of_meets left meets.symm
      exact ⟨[], budget, reading, now, rfl, holds, shown⟩
    | timedOut =>
      obtain rfl := Except.ok.inj verdict
      cases succeeded
    | cancelled => cases verdict
    | @onward _ pause _ next resumed _ round more =>
      obtain ⟨budget, fetched, now, rfl, ⟨_, ⟨⟩, _⟩ | ⟨state, _, same, -, -, goesOn, samePlan⟩⟩ :=
        run.again.round_single asked round
      obtain ⟨rfl, -⟩ := Prod.mk.inj (Sum.inr.inj same)
      obtain ⟨before, budget', reading, now', rfl, holds, shown⟩ :=
        ih { next with now := resumed } goesOn more
      rw [samePlan] at holds
      exact ⟨⟨.fetch q budget, (fetched, now)⟩ :: (pause ++ before), budget', reading, now',
        congrArg (_ :: ·) (List.append_assoc pause before _).symm, holds, shown⟩

/-- A poll of one query that succeeds was told last of a state that meets its condition. -/
theorem poll_single_yields {plan : Plan} {record : List (Program.Exchange Answer)}
    (yields : (poll plan [q]).Yields record (some ending)) (verdict : ending.verdict = .ok report)
    (succeeded : report.succeeded = true) :
    ∃ before budget reading now,
      record = before ++ [⟨.fetch q budget, (.answered (.ok reading), now)⟩] ∧
      plan.condition.holds reading.state = true ∧
      report.stateOf? q = some (.observed ⟨reading, now⟩) := by
  obtain ⟨started, first, rest, rfl, -, ended⟩ := Program.yields_bind.1 yields
  obtain ⟨before, budget, reading, now, rfl, holds, shown⟩ :=
    Run.rounds_single _ _ rfl ended verdict succeeded
  exact ⟨first ++ before, budget, reading, now, by simp, holds, shown⟩

theorem Report.ensureSatisfied_eq_ok_iff {given : Report} :
    given.ensureSatisfied = .ok report ↔ given.succeeded = true ∧ given = report := by
  unfold Report.ensureSatisfied
  split <;> simp [*]

end Success

section Failure

variable {q : Query} {e : FetchError} {ending : Ending} {report : Report}

def IsTold (record : List (Program.Exchange Answer)) (q : Query) (e : FetchError) : Prop :=
  ∃ budget now, (⟨.fetch q budget, (.answered (.error e), now)⟩ : Program.Exchange Answer) ∈ record

theorem IsTold.append_right {record : List (Program.Exchange Answer)} (told : IsTold record q e)
    (before : List (Program.Exchange Answer)) : IsTold (before ++ record) q e := by
  obtain ⟨budget, now, member⟩ := told
  exact ⟨budget, now, List.mem_append_right _ member⟩

theorem Run.round_fatal (run : Run) (allHold : Bool) (rest : List Query)
    {record : List (Program.Exchange Answer)}
    (yields : (run.round allHold rest).Yields record (.inl ending))
    (verdict : ending.verdict = .error (.fatal q e report)) : e.isFatal = true ∧ IsTold record q e := by
  induction rest generalizing run allHold record with
  | nil => cases (Program.yields_done.1 yields).2
  | cons p rest ih =>
    rw [round, Program.yields_bind] at yields
    obtain ⟨⟨fetched, now⟩, first, later, rfl, read, ended⟩ := yields
    obtain rfl := Program.yields_perform.1 read
    rcases { run with now := now }.absorb_cases p run.remaining fetched with
      ⟨stopped, absorbed, stops⟩ | ⟨state, -, absorbed⟩ <;> simp only [absorbed] at ended
    · obtain ⟨rfl, same⟩ := Program.yields_done.1 ended
      obtain rfl := Sum.inl.inj same
      cases stops with
      | cancelled | late => cases verdict
      | fatal isFatal =>
        cases verdict
        exact ⟨isFatal, _, _, List.mem_cons_self⟩
    · obtain ⟨isFatal, told⟩ := ih _ _ ended
      exact ⟨isFatal, told.append_right _⟩

theorem Run.rounds_fatal (limit : Nat) (run : Run) {record : List (Program.Exchange Answer)}
    (yields : (run.rounds limit).Yields record (some ending))
    (verdict : ending.verdict = .error (.fatal q e report)) : e.isFatal = true ∧ IsTold record q e := by
  induction limit generalizing run record with
  | zero => cases (Program.yields_done.1 yields).2
  | succ limit ih =>
    cases Run.proceeds_of_yields yields with
    | stopped round => exact round_fatal _ _ _ round verdict
    | satisfied | timedOut | cancelled => cases verdict
    | onward _ more =>
      obtain ⟨isFatal, told⟩ := ih _ more
      exact ⟨isFatal, (told.append_right _).append_right _⟩

/-- A poll that ends for good was told of a failure that waiting cannot mend, by a read of the query that
it names. -/
theorem poll_fatal_yields {plan : Plan} {queries : List Query}
    {record : List (Program.Exchange Answer)}
    (yields : (poll plan queries).Yields record (some ending))
    (verdict : ending.verdict = .error (.fatal q e report)) : e.isFatal = true ∧ IsTold record q e := by
  obtain ⟨started, first, rest, rfl, -, ended⟩ := Program.yields_bind.1 yields
  obtain ⟨isFatal, told⟩ := Run.rounds_fatal _ _ ended verdict
  exact ⟨isFatal, told.append_right first⟩

end Failure

end Readiness.Poll
