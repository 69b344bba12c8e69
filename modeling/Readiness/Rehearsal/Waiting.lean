import Readiness.Rehearsal.Script

/-! # Rehearsed waits

Polls and checks against scripted readings, one after another on one clock. All share one token of
cancellation: once cancelled it stays so, until it is replaced by a fresh one. -/
namespace Readiness.Rehearsal

inductive WaitStep where
  /-- A poll that is called off after a while, if it still runs then. -/
  | poll (plan : Poll.Plan) (queries : List Query) (cancelAfter : Option Duration)
  | check (condition : Condition) (query : Query)
  | sleep (length : Duration)
  | cancel
  | fresh

inductive WaitResult where
  | polled (ending : Poll.Ending)
  | checked (result : Except Poll.Error Observation)
  | quiet

structure Waiting where
  now : Instant
  tally : Tally
  cancelled : Bool

namespace Waiting

def start : Waiting := ⟨0, .empty, false⟩

def cancelAt (waiting : Waiting) (after : Option Duration) : Option Instant :=
  if waiting.cancelled then some waiting.now else after.map (waiting.now + Duration.waited ·)

def run {α : Type} (scripts : List (String × Script)) (cancelAt : Option Instant)
    (program : Poll.Polling α) (waiting : Waiting) : Option (α × List Poll.Visit × Waiting) := do
  let timeline : Poll.Timeline Tally := { answer := scripted scripts, cancelAt := cancelAt }
  let (result, moment) ← timeline.run program ⟨waiting.now, waiting.tally, []⟩
  return (result, moment.visits, { waiting with now := moment.now, tally := moment.source })

def wasCancelled : Except Poll.Error Poll.Report → Bool
  | .error (.cancelled _) => true
  | _ => false

/-- One step: its result, the fetches made during it, and where things stand after it. Nothing
comes of a step that waits for ever. -/
def perform (scripts : List (String × Script)) (waiting : Waiting) :
    WaitStep → Option (WaitResult × List Poll.Visit × Waiting)
  | .poll plan queries after => do
    let (ending, visits, waiting') ←
      waiting.run scripts (waiting.cancelAt after) (Poll.poll plan queries)
    let ending ← ending
    return (.polled ending, visits,
      { waiting' with cancelled := waiting.cancelled || wasCancelled ending.verdict })
  | .check condition q => do
    let (result, visits, waiting) ← waiting.run scripts none (Poll.check condition q)
    return (.checked result, visits, waiting)
  | .sleep length => some (.quiet, [], { waiting with now := waiting.now + Duration.waited length })
  | .cancel => some (.quiet, [], { waiting with cancelled := true })
  | .fresh => some (.quiet, [], { waiting with cancelled := false })

end Waiting

end Readiness.Rehearsal
