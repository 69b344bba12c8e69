import Readiness.Cli.Output
import Readiness.Scenario.Context

/-! # Steps by command

Steps that have the command line client do something in the chosen project, and read from its
output whether it was done. -/
namespace Readiness.Scenario.Commands

def create (ctx : Context) (manifest : String) : Task String := do
  let path ← ctx.manifestPath manifest
  ctx.run (.create path (← ctx.space))

def createTemplate (ctx : Context) (template manifest : String) : Task String := do
  let output ← create ctx manifest
  if Cli.Output.mentions template.toList output.toList then return output
  else throw (.assertion ("creating " ++ manifest ++ " did not report template `" ++ template ++
    "`: " ++ Text.trimmed output))

def instantiate (ctx : Context) (template params : String) : Task String := do
  let path ← ctx.manifestPath params
  ctx.run (.instantiate template path (← ctx.space))

def process (ctx : Context) (manifest : String) : Task String := do
  let path ← ctx.manifestPath manifest
  let space ← ctx.space
  .ofSession (ctx.client.processTemplate path space)

def newApp (ctx : Context) (source : String) : Task String := do
  let path ← ctx.manifestPath source
  ctx.run (.newApp path (← ctx.space))

def startBuild (ctx : Context) (config : String) : Task String := do
  let output ← ctx.run (.startBuild config (← ctx.space))
  match Cli.Output.startedBuild output.toList with
  | some build => return String.ofList build
  | none => throw (.assertion ("start-build " ++ config ++ " did not report a build: " ++ output))

/-- What a complete backup holds. -/
def backupEntries : List String := ["plugins", "jobs", "credentials.xml", "config.xml"]

def backupContainer : String := "backup"

def backupDirectory (root name : String) : String :=
  String.ofList (root.toList.reverse.dropWhile (· == '/')).reverse ++ "/" ++ name

/-- Lists a backup inside of the instance pod. -/
def verifyBackup (ctx : Context) (name : String) : Task Unit := do
  let pod ← ctx.pod
  let directory := backupDirectory ctx.settings.backupRoot name
  let listing ← ctx.run (.exec pod backupContainer (← ctx.space) ["ls", directory])
  match Cli.Output.lacking backupEntries listing with
  | [] => return
  | lacking => throw (.assertion ("backup " ++ directory ++ " in pod " ++ pod ++ " is missing " ++
      Text.quotedList lacking ++ "; found: " ++ String.intercalate " " (Text.wordsOf listing)))

end Readiness.Scenario.Commands
