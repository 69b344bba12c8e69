import Readiness.Rehearsal.Memory
import Readiness.Rehearsal.Server
import Readiness.Rehearsal.Shell
import Readiness.Rehearsal.Web
import Readiness.Scenario.Stage

/-! # Rehearsals of scenarios

A world in which the steps of a scenario can run: a clock, files, variables, and stand-ins for the
command line client, the cluster and the servers of pages. The clock moves only while something
waits. What a command or a server does takes no time but has to be waited for. -/
namespace Readiness.Rehearsal

open Scenario (Request Lookup)

inductive Reader where
  | memory
  | cli
  | server (site : Site) (network : Bool)

/-- What does not change during a rehearsal. -/
structure Setting where
  reader : Reader
  rules : List Rule
  tree : Files.Tree
  environment : List (String × String)
  pages : Pages
  creation : Creation
  latency : Duration
  /-- Why the configuration of the API server cannot be read. -/
  unconfigured : Option String

structure World where
  now : Instant
  /-- The path of the command line client, as far as it was found. -/
  binary : String
  memory : Memory
  denied : Option FetchError
  shell : Shell
  server : Server
  client : Api.Client
  web : Web
  cancelled : Bool

namespace World

def start (binary : String) (memory : Memory) : World where
  now := 0
  binary := binary
  memory := memory
  denied := none
  shell := .new
  server := .new
  client := {}
  web := .new
  cancelled := false

def perform (setting : Setting) (job : Cli.Job) (world : World) : Cli.Outcome × World :=
  let (outcome, shell) := world.shell.perform setting.tree world.binary setting.rules job
  (outcome, { world with shell := shell })

def serve (site : Site) (network : Bool) (request : Api.Request) (world : World) :
    Api.Reply × World :=
  if network then
    let (reply, server) := world.server.serve site request
    (reply, { world with server := server })
  else (.broken "client error (Connect)", world)

/-- The answer to a call once it has arrived; nothing comes of a call that is never answered. -/
def call (setting : Setting) (call : Cluster.Call) (world : World) :
    Option (call.Answer × World) :=
  match setting.reader with
  | .memory =>
    let (answer, memory) :=
      world.memory.answer setting.creation world.denied world.now call
    some (answer, { world with memory := memory })
  | .cli =>
    ((Cli.Client.mk world.binary).answer call).run
      (fun job world => some (world.perform setting job)) world
  | .server site network =>
    match (world.client.answer call).run
        (fun request world => some (world.serve site network request)) world with
    | some ((answer, client), world) => some (answer, { world with client := client })
    | none => none

def look (setting : Setting) : (lookup : Lookup) → World → Option (lookup.Answer × World)
  | .cluster call, world => world.call setting call
  | .page url, world =>
    let (answer, web) := world.web.load setting.pages url
    some (answer, { world with web := web })

/-- When a look is answered: at once, if it needs no exchange with anyone. -/
def arrival (setting : Setting) (world : World) : Lookup → Poll.Arrival
  | .page url => if (Web.target url).toOption.isNone then .ready else .after 0
  | .cluster call =>
    match setting.reader with
    | .memory => if setting.latency = 0 then .ready else .after setting.latency
    | .cli => .after 0
    | .server _ _ => if (world.client.answer call).isDone then .ready else .after 0

def latency (setting : Setting) : Lookup → Duration
  | .cluster _ =>
    match setting.reader with
    | .memory => setting.latency
    | .cli | .server _ _ => 0
  | .page _ => 0

def wait (world : World) (length : Duration) : World :=
  { world with now := world.now + Duration.waited length }

/-- The world after a look that was given up. A command that has begun is carried out all the same,
and a request is not sent. -/
def abandon (setting : Setting) (lookup : Lookup) (world : World) : World :=
  match setting.reader, lookup with
  | .cli, .cluster _ => ((world.look setting lookup).map (·.2)).getD world
  | _, _ => world

def respond (setting : Setting) :
    (request : Request) → World → Option (Scenario.Answer request × World)
  | .clock, world => some (world.now, world)
  | .pause length, world =>
    if world.cancelled then some ((.cancelled, world.now), world)
    else some ((.finished, (world.wait length).now), world.wait length)
  | .look lookup, world => (world.wait (latency setting lookup)).look setting lookup
  | .lookWithin lookup budget, world =>
    if world.cancelled then some ((.cancelled, world.now), world)
    else match (arrival setting world lookup).within Duration.waited budget with
      | none =>
        let world := (world.abandon setting lookup).wait budget
        some ((.late, world.now), world)
      | some length =>
        ((world.wait length).look setting lookup).map fun (answer, world) =>
          ((.answered answer, world.now), world)
  | .run job, world => some (world.perform setting job)
  | .variable name, world => some (setting.environment.lookup name, world)
  | .hasFile path, world => some (setting.tree.has path, world)
  | .locate binary, world =>
    match locate setting.tree ((setting.environment.lookup "PATH").getD "") binary with
    | some path => some (some path, { world with binary := path })
    | none => some (none, world)
  | .connectWithin _, world =>
    let result := match setting.unconfigured with
      | some detail => .error (.configuration detail)
      | none => .ok ()
    some ((.answered result, world.now), world)
  | .openPages _, world => some (.ok (), world)

def run {α : Type} (setting : Setting) (program : Scenario.Asking α) (world : World) :
    Option (α × World) :=
  Program.run (respond setting) program world

end World

end Readiness.Rehearsal
