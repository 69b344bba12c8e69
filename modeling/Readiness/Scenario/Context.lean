import Readiness.Scenario.Request
import Readiness.Settings

/-! # Contexts

What a scenario has been told and has found out so far. Steps work in a context: most of them only
look at it, some put into it what they have found. -/
namespace Readiness.Scenario

structure Context where
  settings : Settings
  /-- The path of the command line client. -/
  binary : String
  /-- The project that the scenario works in. -/
  project : Option String := none
  instancePod : Option String := none
  deriving DecidableEq, Repr

namespace Context

def space (ctx : Context) : Task String :=
  match ctx.project with
  | some name => pure name
  | none => throw .noProject

def pod (ctx : Context) : Task String :=
  match ctx.instancePod with
  | some name => pure name
  | none => throw .noInstancePod

def client (ctx : Context) : Cli.Client := ⟨ctx.binary⟩

def run (ctx : Context) (command : Cli.Command) : Task String := .ofSession (ctx.client.run command)

/-- Looks a manifest up among the files. -/
def manifestPath (ctx : Context) (name : String) : Task String :=
  Settings.Manifest.path (fun path => ask (.hasFile path)) (ctx.settings.manifest name)

def text (ctx : Context) : String :=
  "ScenarioContext \x7b namespace: " ++ Text.quotedOption ctx.project ++
    ", instance_pod: " ++ Text.quotedOption ctx.instancePod ++
    ", backend: " ++ ctx.settings.backend.name ++
    ", oc: OcCli \x7b binary: " ++ Text.quoted ctx.binary ++ " \x7d, .. \x7d"

end Context

/-- A part of a scenario that can change the context it works in. What it has changed stays changed
if it fails later on. -/
abbrev Step := ExceptT Error (StateT Context Asking)

namespace Step

def within {α : Type} (task : Context → Task α) : Step α :=
  ExceptT.mk fun ctx => do return (← (task ctx).run, ctx)

def setProject (name : String) : Step Unit := modify fun ctx => { ctx with project := some name }

def setInstancePod (pod : String) : Step Unit :=
  modify fun ctx => { ctx with instancePod := some pod }

def leaves (step : Step Unit) (ctx : Context) : Task Context := ExceptT.mk do
  let (result, ctx) ← step.run.run ctx
  return result.map fun _ => ctx

end Step

end Readiness.Scenario
