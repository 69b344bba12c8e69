import Readiness.Cli.Command
import Readiness.Cli.Failure
import Readiness.Cli.Output
import Readiness.Cluster
import Readiness.Program

/-! # The command line client

A cluster reached through the commands of its command line client. Each call is a program that
starts commands and reads what they wrote. -/
namespace Readiness.Cli

abbrev Session := Program Job fun _ => Outcome

def result (text : String) : Outcome → Except Failure String
  | .notStarted reason => .error (.notStarted text reason)
  | .ended ended =>
    if ended.succeeded then .ok ended.output
    else .error (.ofExit text ended.code ended.complaint)

structure Client where
  binary : String

namespace Client

def perform (client : Client) (job : Job) : Session (Except Failure String) := do
  return result (job.text client.binary) (← Program.perform job)

def run (client : Client) (command : Command) : Session (Except Failure String) :=
  client.perform (.run command)

def processTemplate (client : Client) (template space : String) : Session (Except Failure String) :=
  client.perform (.pipe (.process template space) (.createInput space))

def routeHost (client : Client) (name space : String) : Session (Except Failure String) := do
  return (← client.run (.getPath "route" name space "\x7b.spec.host\x7d")).map Text.trimmed

/-- A project that is not found is absent; any other failure leaves the question open. -/
def projectExists (client : Client) (name : String) : Session (Except Failure Bool) := do
  match ← client.run (.getProject name) with
  | .ok _ => return .ok true
  | .error (.notFound _ _) => return .ok false
  | .error failure => return .error failure

def phasePath : String := "\x7b.status.phase\x7d"

/-- The state that the output of a read stands for: of a read without a path, nothing but blanks
means that the resource is present. -/
def stateOf (path : Option String) (output : String) : String :=
  if path = none ∧ Text.isAllBlank output then Cluster.present else Text.trimmed output

def fetch (client : Client) (q : Query) : Session (Except FetchError Reading) := do
  match ← client.run (.getPath q.kind q.name q.space (q.path.getD phasePath)) with
  | .ok output => return .ok ⟨q.name, stateOf q.path output⟩
  | .error failure => return .error failure.asFetch

def list (client : Client) (kind space : String) : Session (Except FetchError (List Reading)) := do
  match ← client.run (.list kind space) with
  | .ok output => return .ok (Listing.read output.toList)
  | .error failure => return .error failure.asFetch

/-- Only the success of a command counts. -/
def succeed (client : Client) (command : Command) : Session (Except FetchError Unit) := do
  match ← client.run command with
  | .ok _ => return .ok ()
  | .error failure => return .error failure.asFetch

def answer (client : Client) : (call : Cluster.Call) → Session call.Answer
  | .fetch q => client.fetch q
  | .list kind space => client.list kind space
  | .hasNamespace name => do
    match ← client.projectExists name with
    | .ok found => return .ok found
    | .error failure => return .error failure.asFetch
  | .createNamespace name => client.succeed (.newProject name)
  | .ping => client.succeed (.getProject "default")

end Client

end Readiness.Cli
