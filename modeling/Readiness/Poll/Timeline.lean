import Readiness.Poll.Run

/-! # Timelines

A timeline is a world in which a poll can run: a clock that moves only while something waits, a
source of readings that answers each read after a while or never, timers for pauses and budgets,
and an instant at which the poll is called off. -/
namespace Readiness.Poll

/-- When a read is answered, seen from its start. An answer that takes no time may still have to
be waited for, and then it is no longer `ready`. -/
inductive Arrival where
  | ready
  | after (wait : Duration)
  | never
  deriving DecidableEq, Repr

/-- How long a read that starts with `budget` left waits for its answer; `none` when the answer
comes too late. -/
def Arrival.within (timer : Duration → Duration) (budget : Duration) : Arrival → Option Duration
  | ready => some 0
  | after wait => if 0 < budget ∧ timer wait ≤ timer budget then some (timer wait) else none
  | never => none

structure Visit where
  query : Query
  startedAt : Instant
  outcome : Timed (Except FetchError Reading)
  endedAt : Instant

/-- The source answers as it likes, by what was asked, when, and what it was asked before. -/
structure Timeline (σ : Type) where
  answer : Query → Instant → σ → Arrival × Except FetchError Reading × σ
  cancelAt : Option Instant
  /-- How long a timer runs that is set for a given length. -/
  timer : Duration → Duration := Duration.waited

structure Moment (σ : Type) where
  now : Instant
  source : σ
  visits : List Visit

namespace Timeline

variable {σ α : Type}

/-- Whether the poll is called off before `limit`. -/
def cutBefore (timeline : Timeline σ) (limit : Instant) : Option Instant :=
  match timeline.cancelAt with
  | some c => if c < limit then some c else none
  | none => none

def isCancelled (timeline : Timeline σ) (now : Instant) : Bool :=
  (timeline.cutBefore (now + 1)).isSome

/-- The outcome of a read that starts at `now` with `budget` left, and the instant at which it is
known. -/
def outcome (timeline : Timeline σ) (now : Instant) (budget : Duration) (arrival : Arrival)
    (result : Except FetchError Reading) : Timed (Except FetchError Reading) × Instant :=
  let (outcome, ended) := match arrival.within timeline.timer budget with
    | some wait => (Timed.answered result, now + wait)
    | none => (Timed.late, now + timeline.timer budget)
  match timeline.cutBefore ended with
  | some c => (.cancelled, c)
  | none => (outcome, ended)

def visited (moment : Moment σ) (q : Query) (source : σ)
    (outcome : Timed (Except FetchError Reading) × Instant) : Moment σ :=
  ⟨outcome.2, source, moment.visits ++ [⟨q, moment.now, outcome.1, outcome.2⟩]⟩

/-- Nothing is answered to a read without a limit that waits for ever. -/
def respond (timeline : Timeline σ) :
    (request : Request) → Moment σ → Option (Answer request × Moment σ)
  | .clock, moment => some (moment.now, moment)
  | .fetch q budget, moment =>
    if timeline.isCancelled moment.now then some ((.cancelled, moment.now), moment)
    else
      let (arrival, result, source) := timeline.answer q moment.now moment.source
      let outcome := timeline.outcome moment.now budget arrival result
      some (outcome, visited moment q source outcome)
  | .read q, moment =>
    let (arrival, result, source) := timeline.answer q moment.now moment.source
    let answered (now : Instant) := ((result, now), visited moment q source (.answered result, now))
    match arrival with
    | .ready => some (answered moment.now)
    | .after wait => some (answered (moment.now + timeline.timer wait))
    | .never => none
  | .pause length, moment =>
    if timeline.isCancelled moment.now then some ((.cancelled, moment.now), moment)
    else
      let ended := moment.now + timeline.timer length
      match timeline.cutBefore ended with
      | some c => some ((.cancelled, c), { moment with now := c })
      | none => some ((.finished, ended), { moment with now := ended })

def run (timeline : Timeline σ) (program : Polling α) (moment : Moment σ) :
    Option (α × Moment σ) :=
  Program.run timeline.respond program moment

end Timeline

end Readiness.Poll
