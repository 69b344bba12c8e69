import Readiness.Api.Failure
import Readiness.Cli.Client
import Readiness.Poll.Run

/-! # What steps ask for

The requests that the steps of a scenario make of the world around them, and tasks, which are
programs over these requests that may fail. -/
namespace Readiness.Scenario

inductive Error where
  | poll (error : Poll.Error)
  | fetch (error : FetchError)
  | command (failure : Cli.Failure)
  | client (failure : Api.Failure)
  /-- There is no client for pages. -/
  | pages (detail : String)
  | configuration (detail : String)
  | preflight (reason : String)
  | noProject
  | noInstancePod
  | assertion (text : String)
  /-- A wait went through more rounds than are counted. -/
  | endless

def Error.message : Error → String
  | poll error => error.message
  | fetch error => error.message
  | command failure => failure.message
  | client failure => failure.clientText
  | pages detail => "http client error: " ++ detail
  | configuration detail => "configuration error: " ++ detail
  | preflight reason => "cluster preflight failed: " ++ reason
  | noProject => "no project selected for this scenario"
  | noInstancePod => "no instance pod discovered in this scenario"
  | assertion text => text
  | endless => "the wait did not end"

/-- A look at the cluster, or at a page that is served at an address. -/
inductive Lookup where
  | cluster (call : Cluster.Call)
  | page (url : String)

/-- A page is answered by the code of its response, or by the reason why there is none. -/
def Lookup.Answer : Lookup → Type
  | cluster call => call.Answer
  | page _ => Except String Nat

inductive Request where
  | clock
  | pause (length : Duration)
  | look (lookup : Lookup)
  /-- A look that is given up after `budget`, or when the scenario is over. -/
  | lookWithin (lookup : Lookup) (budget : Duration)
  | run (job : Cli.Job)
  | variable (name : String)
  | hasFile (path : String)
  /-- The path at which there is a program of that name. -/
  | locate (binary : String)
  /-- Makes a client of the API server from its configuration, within `budget`. -/
  | connectWithin (budget : Duration)
  /-- Makes a client for pages, which waits for a page no longer than `patience`. -/
  | openPages (patience : Duration)

def Answer : Request → Type
  | .clock => Instant
  | .pause _ => Poll.Paused × Instant
  | .look lookup => lookup.Answer
  | .lookWithin lookup _ => Poll.Timed lookup.Answer × Instant
  | .run _ => Cli.Outcome
  | .variable _ | .locate _ => Option String
  | .hasFile _ => Bool
  | .connectWithin _ => Poll.Timed (Except Api.Failure Unit) × Instant
  | .openPages _ => Except String Unit

abbrev Asking := Program Request Answer

abbrev Task := ExceptT Error Asking

def ask (request : Request) : Task (Answer request) := ExceptT.lift (Program.perform request)

namespace Task

def ofFetch {α : Type} : Except FetchError α → Task α
  | .ok a => pure a
  | .error e => throw (.fetch e)

def call (call : Cluster.Call) : Task call.Answer := ask (.look (.cluster call))

/-- What the command line client does, each of its jobs being a request. -/
def ofSession {α : Type} (session : Cli.Session (Except Cli.Failure α)) : Task α := do
  match ← ExceptT.lift (session.handle fun job => Program.perform (Request.run job)) with
  | .ok a => return a
  | .error failure => throw (.command failure)

end Task

end Readiness.Scenario
