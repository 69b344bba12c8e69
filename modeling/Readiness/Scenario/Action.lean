import Readiness.Scenario.Commands
import Readiness.Scenario.PodSet
import Readiness.Scenario.Resources

/-! # Actions

The steps of a scenario. An action ends with an outcome, or fails, and leaves a context to the next
one. -/
namespace Readiness.Scenario

inductive Action where
  | chooseProject (name : String)
  | chooseProjectFrom (variableName : String)
  | create (manifest : String)
  | createTemplate (template manifest : String)
  | instantiate (template params : String)
  | process (manifest : String)
  | newApp (source : String)
  | startBuild (config : String)
  | awaitInstall (name : String)
  | awaitBuild (name : String)
  /-- The pods whose names begin with `lead`, with those that build or deploy or without. -/
  | awaitRunning (lead : String) (helpers : Bool)
  | awaitInstance (lead : String)
  | awaitHost (route : String)
  | awaitPage (route : String)
  | awaitAll (kind : String) (names : List String)
  | check (kind name : String)
  | checkBackupConfig
  | verifyBackup (name : String)
  deriving DecidableEq, Repr

inductive Outcome where
  | done
  | text (text : String)
  | texts (texts : List String)
  | seen (observation : Observation)
  | satisfied (report : Poll.Report)

namespace Action

/-- An action that leaves the context alone. -/
def keep {α : Type} (outcome : α → Outcome) (task : Context → Task α) : Step Outcome := do
  return outcome (← Step.within task)

def step : Action → Step Outcome
  | chooseProject name => do
    Project.use name
    return .done
  | chooseProjectFrom variableName => do
    Project.useFrom variableName
    return .done
  | create manifest => keep .text (Commands.create · manifest)
  | createTemplate template manifest => keep .text (Commands.createTemplate · template manifest)
  | instantiate template params => keep .text (Commands.instantiate · template params)
  | process manifest => keep .text (Commands.process · manifest)
  | newApp source => keep .text (Commands.newApp · source)
  | startBuild config => keep .text (Commands.startBuild · config)
  | awaitInstall name => keep .satisfied (Resources.awaitPhase · "csv" name .operator "Succeeded")
  | awaitBuild name => keep .satisfied (Resources.awaitPhase · "build" name .build "Complete")
  | awaitRunning lead helpers => keep .texts (PodSet.await · lead helpers PodSet.running)
  | awaitInstance lead => do return .text (← PodSet.awaitInstance lead)
  | awaitHost route => keep .text (Resources.awaitHost · route)
  | awaitPage route => keep .text (Page.await · route)
  | awaitAll kind names => keep .satisfied (Resources.awaitAll · kind names)
  | check kind name => keep .seen (Resources.check · kind name)
  | checkBackupConfig => keep (fun _ => .done) (Resources.check · "backupconfig" "default")
  | verifyBackup name => keep (fun _ => .done) (Commands.verifyBackup · name)

def perform (ctx : Context) (action : Action) : Asking (Except Error Outcome × Context) :=
  action.step.run.run ctx

end Action

end Readiness.Scenario
