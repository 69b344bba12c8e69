import Readiness.Scenario.Context

/-! # Waiting in steps

A step waits by a poll whose reads are looks at the world. What a poll reads is given by a source:
the look to be made for a query, and what its answer means. -/
namespace Readiness.Scenario

structure Source where
  lookup : Query → Lookup
  read : (q : Query) → (lookup q).Answer → Except FetchError Reading

namespace Source

def resource : Source where
  lookup q := .cluster (.fetch q)
  read _ answer := answer

def carryOut (source : Source) : (request : Poll.Request) → Asking (Poll.Answer request)
  | .clock => Program.perform (Request.clock)
  | .fetch q budget => do
    let (timed, now) ← Program.perform (Request.lookWithin (source.lookup q) budget)
    return (timed.map (source.read q), now)
  | .read q => do
    let answer ← Program.perform (Request.look (source.lookup q))
    let now ← Program.perform Request.clock
    return (source.read q answer, now)
  | .pause length => Program.perform (Request.pause length)

end Source

namespace Task

def ofPoll {α : Type} : Except Poll.Error α → Task α
  | .ok a => pure a
  | .error e => throw (.poll e)

/-- A poll that follows a plan, with its report whatever it was. -/
def poll (source : Source) (plan : Poll.Plan) (queries : List Query) : Task Poll.Report := do
  match ← ExceptT.lift ((Poll.poll plan queries).handle source.carryOut) with
  | some ending => ofPoll ending.verdict
  | none => throw .endless

def await (ctx : Context) (source : Source) (queries : List Query) (wait : Wait)
    (condition : Condition) : Task Poll.Report := do
  let report ← poll source (ctx.settings.timings.plan wait condition) queries
  ofPoll report.ensureSatisfied

def check (q : Query) (condition : Condition) : Task Observation := do
  ofPoll (← ExceptT.lift ((Poll.check condition q).handle Source.resource.carryOut))

end Task

/-- The state of a query at the end of a poll, or nothing. -/
def seenState (report : Poll.Report) (q : Query) : String :=
  ((report.stateOf? q).bind LastState.raw?).getD ""

end Readiness.Scenario
