import Readiness.Poll.Plan
import Readiness.Poll.Report
import Readiness.Program

/-! # Running a poll

A poll goes through its queries in rounds. Within a round each query is read once, in the order
given, and no read may outlast what is left of the time. After a round in which every state meets
the condition the poll is over; after any other round it pauses, unless the pause would end past
the deadline. A poll is a program: the clock, the reads and the pauses are requests. -/
namespace Readiness.Poll

inductive Request where
  | clock
  /-- A read that is given up after `budget`, or when the poll is called off. -/
  | fetch (query : Query) (budget : Duration)
  /-- A read that is waited for, however long it takes. -/
  | read (query : Query)
  | pause (length : Duration)

inductive Timed (α : Type) where
  | answered (result : α)
  | late
  | cancelled

def Timed.map {α β : Type} (f : α → β) : Timed α → Timed β
  | answered result => answered (f result)
  | late => late
  | cancelled => cancelled

inductive Paused where
  | finished
  | cancelled

/-- Reads and pauses are answered together with the instant at which they ended. -/
def Answer : Request → Type
  | .clock => Instant
  | .fetch _ _ => Timed (Except FetchError Reading) × Instant
  | .read _ => Except FetchError Reading × Instant
  | .pause _ => Paused × Instant

abbrev Polling := Program Request Answer

def clock : Polling Instant := .perform (.clock : Request)

def fetch (query : Query) (budget : Duration) :
    Polling (Timed (Except FetchError Reading) × Instant) :=
  .perform (.fetch query budget : Request)

def read (query : Query) : Polling (Except FetchError Reading × Instant) :=
  .perform (.read query : Request)

def pause (length : Duration) : Polling (Paused × Instant) := .perform (.pause length : Request)

/-- What a poll knows while it runs; `passed` lists the stages it went through, the first first. -/
structure Run where
  plan : Plan
  queries : List Query
  started : Instant
  now : Instant
  attempts : Nat
  last : Ledger LastState
  passed : List Stage

/-- How a poll ended, and by which stages it came there. -/
structure Ending where
  verdict : Except Error Report
  passed : List Stage

namespace Run

def new (plan : Plan) (queries : List Query) (started : Instant) : Run where
  plan := plan
  queries := queries
  started := started
  now := started
  attempts := 0
  last := .ofList (queries.map fun q => (q.key, .unknown))
  passed := [.idle]

def enter (run : Run) (stage : Stage) : Run := { run with passed := run.passed ++ [stage] }

def elapsed (run : Run) : Duration := run.now - run.started

def remaining (run : Run) : Duration := run.plan.timeout - run.elapsed

def record (run : Run) (q : Query) (state : LastState) : Run :=
  { run with last := run.last.put q.key state }

def report (run : Run) (stage : Stage) : Report where
  succeeded := stage == .satisfied
  stage := stage
  last := run.last
  elapsed := run.elapsed
  attempts := run.attempts
  expected := run.plan.condition.description
  queries := run.queries

def finish (run : Run) (stage : Stage) (verdict : Report → Except Error Report) : Ending :=
  ⟨verdict (run.report stage), (run.enter stage).passed⟩

/-- What one read means for the run: the end, or the run with the outcome recorded and whether the
state met the condition. -/
def absorb (run : Run) (q : Query) (budget : Duration) :
    Timed (Except FetchError Reading) → Ending ⊕ Run × Bool
  | .cancelled => .inl (run.finish .aborted fun report => .error (.cancelled report))
  | .late =>
    let run := run.record q (.missing ("no response within " ++ Duration.text budget))
    .inl (run.finish .timedOut .ok)
  | .answered (.ok reading) =>
    .inr (run.record q (.observed ⟨reading, run.now⟩), run.plan.condition.holds reading.state)
  | .answered (.error e) =>
    if e.isFatal then .inl (run.finish .aborted fun report => .error (.fatal q e report))
    else .inr (run.record q (.missing e.message), false)

/-- The rest of a round, in which so far every state met the condition or not. -/
def round (run : Run) (allHold : Bool) : List Query → Polling (Ending ⊕ Run × Bool)
  | [] => pure (.inr (run, allHold))
  | q :: rest => do
    let (fetched, now) ← fetch q run.remaining
    match { run with now := now }.absorb q run.remaining fetched with
    | .inl ending => pure (.inl ending)
    | .inr (run, holds) => run.round (allHold && holds) rest

/-- At most `limit` rounds; `none` when that many do not suffice. -/
def rounds : (limit : Nat) → Run → Polling (Option Ending)
  | 0, _ => pure none
  | limit + 1, run => do
    match ← { run with attempts := run.attempts + 1 }.round true run.queries with
    | .inl ending => pure (some ending)
    | .inr (run, true) => pure (some (run.finish .satisfied .ok))
    | .inr (run, false) =>
      if run.plan.timeout < run.elapsed + run.plan.interval then
        pure (some (run.finish .timedOut .ok))
      else
        match ← pause run.plan.interval with
        | (.cancelled, now) =>
          pure (some ({ run with now := now }.finish .aborted fun report =>
            .error (.cancelled report)))
        | (.finished, now) => rounds limit { run with now := now }

end Run

/-- Reads the queries round after round until every one meets the condition of the plan. -/
def poll (plan : Plan) (queries : List Query) : Polling (Option Ending) := do
  let started ← clock
  ((Run.new plan queries started).enter .polling).rounds plan.roundLimit

/-- The report of a check that failed for good: a poll that never began. -/
def unstarted (condition : Condition) (q : Query) : Report :=
  (Run.new { condition := condition, interval := 0, timeout := 0 } [q] 0).report .aborted

def check (condition : Condition) (q : Query) : Polling (Except Error Observation) := do
  match ← read q with
  | (.ok reading, now) =>
    let seen : Observation := ⟨reading, now⟩
    if condition.holds reading.state then return .ok seen
    else return .error (.assertion q condition.description (.observed seen))
  | (.error e, _) =>
    if e.isFatal then return .error (.fatal q e (unstarted condition q))
    else return .error (.assertion q condition.description (.missing e.message))

end Readiness.Poll
