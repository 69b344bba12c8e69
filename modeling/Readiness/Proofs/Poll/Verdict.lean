import Readiness.Poll.Timeline
import Readiness.Proofs.Ledger
import Readiness.Proofs.Poll.Absorb
import Readiness.Proofs.Program

/-! What a poll says when it is over agrees with the states in its report, whatever the clock, the
reads and the pauses were answered. The verdict comes from a flag of the last round and the states
from a ledger of all rounds: within a round the two agree on the queries read so far. -/
namespace Readiness.Poll

/-- The ledger of a report decides whether it is one of success. -/
structure Report.Faithful (plan : Plan) (queries : List Query) (report : Report) : Prop where
  stage : report.stage = .satisfied ∨ report.stage = .timedOut
  succeeded : report.succeeded = true ↔ report.stage = .satisfied
  shown : report.succeeded = true ↔ ∀ q ∈ queries, ∃ seen,
    report.stateOf? q = some (.observed seen) ∧ plan.condition.holds seen.state = true
  unmet : report.stage = .timedOut → ∃ q ∈ queries, ∃ last,
    report.stateOf? q = some last ∧ last.meets plan.condition = false

structure Ending.Faithful (plan : Plan) (queries : List Query) (ending : Ending) : Prop where
  result : ∀ report, ending.verdict = .ok report → report.Faithful plan queries
  aborted : ∀ e, ending.verdict = .error e → ∃ report,
    (e = .cancelled report ∨ ∃ q source, e = .fatal q source report) ∧
      report.stage = .aborted ∧ report.succeeded = false
  passed : ∃ report, ending.report? = some report ∧
    ending.passed = [.idle, .polling, report.stage]

theorem ends_fetch {q : Query} {budget : Duration}
    {expected : Timed (Except FetchError Reading) × Instant → Prop} :
    (fetch q budget).Ends expected ↔ ∀ outcome now, expected (outcome, now) :=
  ⟨fun ends outcome now => ends (outcome, now), fun holds answer => holds answer.1 answer.2⟩

theorem ends_pause {length : Duration} {expected : Paused × Instant → Prop} :
    (pause length).Ends expected ↔ ∀ paused now, expected (paused, now) :=
  ⟨fun ends paused now => ends (paused, now), fun holds answer => holds answer.1 answer.2⟩

namespace Run

def shows (run : Run) (q : Query) : Bool := (run.last.get? q.key).any (·.meets run.plan.condition)

/-- What holds of a run within a round whose queries in `done` have been read. -/
structure Agrees (plan : Plan) (queries done : List Query) (run : Run) (allHold : Bool) : Prop where
  samePlan : run.plan = plan
  passed : run.passed = [.idle, .polling]
  sameQueries : run.queries = queries
  known : ∀ q ∈ queries, (run.last.get? q.key).isSome
  flag : allHold = done.all run.shows

theorem shows_record_self (run : Run) (q : Query) (state : LastState) :
    (run.record q state).shows q = state.meets run.plan.condition := by
  simp [shows, record]

theorem shows_record_of_ne (run : Run) {q other : Query} (apart : other.key ≠ q.key)
    (state : LastState) : (run.record q state).shows other = run.shows other := by
  simp [shows, record, Ledger.get?_put_of_ne _ apart]

variable {plan : Plan} {queries done : List Query} {run : Run} {allHold : Bool}

theorem Agrees.record (agrees : run.Agrees plan queries done allHold) {q : Query}
    (apart : ∀ other ∈ done, other.key ≠ q.key) (state : LastState) :
    (run.record q state).Agrees plan queries (done ++ [q])
      (allHold && state.meets run.plan.condition) where
  samePlan := agrees.samePlan
  passed := agrees.passed
  sameQueries := agrees.sameQueries
  known other member := Ledger.isSome_get?_put _ _ _ (agrees.known other member)
  flag := by
    have same : done.all (run.record q state).shows = done.all run.shows := by
      rw [Bool.eq_iff_iff, List.all_eq_true, List.all_eq_true]
      exact forall₂_congr fun other member => by
        rw [shows_record_of_ne run (apart other member) state]
    simp [agrees.flag, same, shows_record_self]

theorem Agrees.at (agrees : run.Agrees plan queries done allHold) (now : Instant) :
    Agrees plan queries done { run with now := now } allHold :=
  ⟨agrees.samePlan, agrees.passed, agrees.sameQueries, agrees.known, agrees.flag⟩

theorem shows_iff (run : Run) (q : Query) : run.shows q = true ↔ ∃ seen,
    run.last.get? q.key = some (.observed seen) ∧ run.plan.condition.holds seen.state = true := by
  simp only [shows, Option.any_eq_true]
  constructor
  · rintro ⟨last, found, meets⟩
    obtain ⟨seen, rfl, holds⟩ := LastState.meets_iff.1 meets
    exact ⟨seen, found, holds⟩
  · rintro ⟨seen, found, holds⟩
    exact ⟨_, found, LastState.meets_iff.2 ⟨seen, rfl, holds⟩⟩

theorem finish_satisfied_faithful (agrees : run.Agrees plan queries queries true) :
    (run.finish .satisfied .ok).Faithful plan queries where
  result report made := by
    obtain rfl : run.report .satisfied = report := Except.ok.inj made
    refine ⟨.inl rfl, by simp [Run.report], ?_, by simp [Run.report]⟩
    have all := List.all_eq_true.1 agrees.flag.symm
    simpa [Run.report, Report.stateOf?, ← shows_iff, ← agrees.samePlan] using all
  aborted e made := by simp [finish] at made
  passed := ⟨_, rfl, by simp [finish, enter, Run.report, agrees.passed]⟩

theorem finish_timedOut_faithful (agrees : run.Agrees plan queries done allHold) {q : Query}
    (member : q ∈ queries) (unmet : run.shows q = false) :
    (run.finish .timedOut .ok).Faithful plan queries where
  result report made := by
    obtain rfl : run.report .timedOut = report := Except.ok.inj made
    refine ⟨.inr rfl, by simp [Run.report], ?_, fun _ => ⟨q, member, ?_⟩⟩
    · have notAll : ¬ ∀ q ∈ queries, run.shows q = true := fun all => by
        simp [all q member] at unmet
      simpa [Run.report, Report.stateOf?, ← shows_iff, ← agrees.samePlan] using notAll
    · obtain ⟨last, found⟩ := Option.isSome_iff_exists.1 (agrees.known q member)
      exact ⟨last, found, by simpa [shows, found, agrees.samePlan] using unmet⟩
  aborted e made := by simp [finish] at made
  passed := ⟨_, rfl, by simp [finish, enter, Run.report, agrees.passed]⟩

theorem finish_aborted_faithful (agrees : run.Agrees plan queries done allHold)
    {error : Report → Error}
    (carries : ∀ report, error report = .cancelled report ∨
      ∃ q source, error report = .fatal q source report) :
    (run.finish .aborted fun report => .error (error report)).Faithful plan queries where
  result report made := by simp [finish] at made
  aborted e made := by
    obtain rfl : error (run.report .aborted) = e := Except.error.inj made
    exact ⟨_, carries _, rfl, rfl⟩
  passed := by
    refine ⟨run.report .aborted, ?_, by simp [finish, enter, Run.report, agrees.passed]⟩
    rcases carries (run.report .aborted) with made | ⟨q, source, made⟩ <;>
      simp [Ending.report?, finish, made, Error.report?]

theorem Stops.faithful {q : Query} {budget : Duration} {outcome : Timed (Except FetchError Reading)}
    {ending : Ending} (stops : run.Stops q budget outcome ending)
    (agrees : run.Agrees plan queries done allHold) (member : q ∈ queries)
    (apart : ∀ other ∈ done, other.key ≠ q.key) : ending.Faithful plan queries := by
  cases stops with
  | cancelled => exact finish_aborted_faithful agrees fun report => .inl rfl
  | late =>
    exact finish_timedOut_faithful (agrees.record apart _) member (shows_record_self ..)
  | fatal => exact finish_aborted_faithful agrees fun report => .inr ⟨_, _, rfl⟩

/-- A round ends the poll faithfully, or leaves a run whose flag speaks for all its queries. -/
theorem round_faithful (agrees : run.Agrees plan queries done allHold) (rest : List Query)
    (split : queries = done ++ rest) (distinct : (queries.map Query.key).Nodup) :
    (run.round allHold rest).Ends fun
      | .inl ending => ending.Faithful plan queries
      | .inr (run, allHold) => run.Agrees plan queries queries allHold := by
  induction rest generalizing run done allHold with
  | nil =>
    obtain rfl : queries = done := by simpa using split
    exact agrees
  | cons q rest ih =>
    have apart : ∀ other ∈ done, other.key ≠ q.key := by
      subst split
      simp only [List.map_append, List.map_cons, List.nodup_append] at distinct
      intro other member
      exact distinct.2.2 _ (List.mem_map_of_mem member) _ List.mem_cons_self
    rw [round, Program.ends_bind, ends_fetch]
    intro outcome now
    have moved := agrees.at now
    cases left : outcome.state? now with
    | none =>
      obtain ⟨ending, stopped, stops⟩ :=
        absorb_of_no_state { run with now := now } left q run.remaining
      simp only [stopped]
      exact stops.faithful moved (by simp [split]) apart
    | some state =>
      simp only [absorb_of_state { run with now := now } left q run.remaining]
      exact ih (moved.record apart state) (by simp [split])

theorem rounds_faithful (limit : Nat) (agrees : run.Agrees plan queries [] true)
    (distinct : (queries.map Query.key).Nodup) :
    (run.rounds limit).Ends fun result =>
      ∀ ending, result = some ending → ending.Faithful plan queries := by
  induction limit generalizing run with
  | zero => simp [rounds]
  | succ limit ih =>
    -- A round begins with no query read and nothing against the run.
    have begun : Agrees plan queries [] { run with attempts := run.attempts + 1 } true :=
      ⟨agrees.samePlan, agrees.passed, agrees.sameQueries, agrees.known, agrees.flag⟩
    rw [rounds, Program.ends_bind]
    have round := round_faithful begun run.queries (by simp [agrees.sameQueries]) distinct
    refine round.mono fun result after => ?_
    match result with
    | .inl ending => simpa using after
    | .inr (ended, true) => simpa using finish_satisfied_faithful after
    | .inr (ended, false) =>
      obtain ⟨q, member, unmet⟩ : ∃ q ∈ queries, ended.shows q = false := by
        simpa using after.flag
      dsimp only
      split
      · simpa using finish_timedOut_faithful after member unmet
      · rw [Program.ends_bind, ends_pause]
        intro paused now
        cases paused with
        | finished => exact ih ⟨after.samePlan, after.passed, after.sameQueries, after.known, rfl⟩
        | cancelled => simpa using finish_aborted_faithful (after.at now) fun report => .inl rfl

end Run

theorem first_agrees (plan : Plan) (queries : List Query) (started : Instant) :
    ((Run.new plan queries started).enter .polling).Agrees plan queries [] true where
  samePlan := rfl
  passed := rfl
  sameQueries := rfl
  known q member := by
    simp [Run.new, Run.enter, Ledger.get?_ofList_map queries Query.key _ member]
  flag := rfl

/-- A poll of queries with different keys ends faithfully in every world. -/
theorem poll_faithful (plan : Plan) (queries : List Query)
    (distinct : (queries.map Query.key).Nodup) {σ : Type}
    (world : (request : Request) → σ → Option (Answer request × σ)) (before after : σ)
    (ending : Ending)
    (ended : (poll plan queries).run world before = some (some ending, after)) :
    ending.Faithful plan queries := by
  have ends : (poll plan queries).Ends fun result =>
      ∀ ending, result = some ending → ending.Faithful plan queries := by
    rw [poll, Program.ends_bind]
    exact fun started => Run.rounds_faithful _ (first_agrees plan queries started) distinct
  exact ends.of_run ended ending rfl

def halfReady : Timeline Unit where
  answer q _ source :=
    (.ready, .ok ⟨q.name, if q.name = "api" then "Running" else "Pending"⟩, source)
  cancelAt := none

theorem poll_halfReady_faithful :
    let plan : Plan := { condition := .equals "Running", timeout := Duration.ofSecs 8 }
    let queries : List Query := [⟨"pod", "api", "shop", none⟩, ⟨"pod", "db", "shop", none⟩]
    (queries.map Query.key).Nodup ∧ ∃ ending after,
      (poll plan queries).run halfReady.respond ⟨0, (), []⟩ = some (some ending, after) ∧
        ending.passed = [.idle, .polling, .timedOut] ∧ ending.Faithful plan queries := by
  intro plan queries
  have distinct : (queries.map Query.key).Nodup := by decide
  have ended : ((poll plan queries).run halfReady.respond ⟨0, (), []⟩).map
      (fun out => out.1.map (·.passed)) = some (some [.idle, .polling, .timedOut]) := by decide
  simp only [Option.map_eq_some_iff] at ended
  obtain ⟨⟨_, after⟩, ran, ending, rfl, passed⟩ := ended
  exact ⟨distinct, ending, after, ran, passed,
    poll_faithful plan queries distinct halfReady.respond _ _ _ ran⟩

end Readiness.Poll
