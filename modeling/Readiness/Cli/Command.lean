import Readiness.Files

/-! # Commands

What the command line client is told to do, and the arguments that say so. -/
namespace Readiness.Cli

inductive Command where
  | create (manifest space : String)
  /-- Creates what the standard input describes. -/
  | createInput (space : String)
  | process (template space : String)
  | instantiate (template params space : String)
  | newApp (source space : String)
  | startBuild (config space : String)
  | exec (pod container space : String) (command : List String)
  | get (kind name space : String)
  | getPath (kind name space path : String)
  | list (kind space : String)
  | getProject (name : String)
  | newProject (name : String)
  deriving DecidableEq, Repr

namespace Command

/-- Writes one line for each resource: its name, a tab and its phase. -/
def listingTemplate : String :=
  "\x7brange .items[*]\x7d\x7b.metadata.name\x7d\x7b\"\\t\"\x7d\x7b.status.phase\x7d\x7b\"\\n\"\x7d\x7bend\x7d"

def jsonPath (path : String) : List String := ["-o", "jsonpath=" ++ path]

def arguments : Command → List String
  | create manifest space => ["create", "-f", manifest, "-n", space]
  | createInput space => ["create", "-f", "-", "-n", space]
  | process template space => ["process", "-f", template, "-n", space]
  | instantiate template params space =>
    ["new-app", "--template", template, "--param-file", params, "-n", space]
  | newApp source space => ["new-app", "-f", source, "-n", space]
  | startBuild config space => ["start-build", config, "-n", space]
  | exec pod container space command =>
    ["exec", pod, "-c", container, "-n", space, "--"] ++ command
  | get kind name space => ["get", kind, name, "-n", space]
  | getPath kind name space path => ["get", kind, name, "-n", space] ++ jsonPath path
  | list kind space => ["get", kind, "-n", space] ++ jsonPath listingTemplate
  | getProject name => ["get", "project", name]
  | newProject name => ["new-project", name]

/-- The namespace that a command is confined to. -/
def space? : Command → Option String
  | create _ space | createInput space | process _ space | instantiate _ _ space
  | newApp _ space | startBuild _ space | exec _ _ space _ | get _ _ space
  | getPath _ _ space _ | list _ space => some space
  | getProject _ | newProject _ => none

end Command

/-- A command alone, or one that feeds its output to another. -/
inductive Job where
  | run (command : Command)
  | pipe (source sink : Command)
  deriving DecidableEq, Repr

/-- How a client is called in messages: by the last component of its path. -/
def calledName (binary : String) : String := (Files.fileName? binary).getD binary

def Command.text (binary : String) (command : Command) : String :=
  calledName binary ++ " " ++ String.intercalate " " command.arguments

def Job.text (binary : String) : Job → String
  | run command => command.text binary
  | pipe source sink => source.text binary ++ " | " ++ sink.text binary

end Readiness.Cli
