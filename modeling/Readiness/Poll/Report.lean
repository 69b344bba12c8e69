import Readiness.Ledger
import Readiness.Query

/-! # Reports of a poll

How a poll ended: its stage, how long it took, and the last state of each query. A report is a
header line and one line for each query. -/
namespace Readiness.Poll

/-- Where a poll stands; the last three are the ways to end. -/
inductive Stage where
  | idle
  | polling
  | satisfied
  | timedOut
  | aborted
  deriving DecidableEq, Repr

def Stage.text : Stage → String
  | idle => "Idle"
  | polling => "Polling"
  | satisfied => "Satisfied"
  | timedOut => "TimedOut"
  | aborted => "Aborted"

structure Report where
  succeeded : Bool
  stage : Stage
  last : Ledger LastState
  elapsed : Duration
  attempts : Nat
  expected : String
  queries : List Query

namespace Report

def stateOf? (report : Report) (q : Query) : Option LastState := report.last.get? q.key

def header (report : Report) : String :=
  report.stage.text ++ " waiting for " ++ toString report.queries.length ++
    " resource(s) to be " ++ report.expected ++ " after " ++ Duration.text report.elapsed ++
    " (" ++ toString report.attempts ++ " attempt(s))"

def line (report : Report) (q : Query) : String :=
  "  " ++ q.text ++ ": " ++ ((report.stateOf? q).getD .unknown).text

def lines (report : Report) : List String := report.header :: report.queries.map report.line

def text (report : Report) : String := String.intercalate "\n" report.lines

end Report

inductive Error where
  | timeout (report : Report)
  | cancelled (report : Report)
  | fatal (query : Query) (source : FetchError) (report : Report)
  | assertion (query : Query) (expected : String) (observed : LastState)

namespace Error

def message : Error → String
  | timeout report => "timed out: " ++ report.text
  | cancelled report => "cancelled: " ++ report.text
  | fatal query source report =>
    "aborted while fetching " ++ query.text ++ ": " ++ source.message ++ "\n" ++ report.text
  | assertion query expected observed =>
    "assertion failed for " ++ query.text ++ ": expected state " ++ expected ++ ", got " ++
      observed.text

def report? : Error → Option Report
  | timeout report | cancelled report | fatal _ _ report => some report
  | assertion .. => none

end Error

/-- A report of anything but success is an error for one who needs the success. -/
def Report.ensureSatisfied (report : Report) : Except Error Report :=
  if report.succeeded then .ok report else .error (.timeout report)

end Readiness.Poll
