import Readiness.Cli.Command
import Readiness.Cli.Output
import Readiness.Files
import Readiness.Rehearsal.Script

/-! # A scripted shell

A stand-in for the command line client, which answers by rules and keeps a log of how it was
called. -/
namespace Readiness.Rehearsal

inductive Pattern where
  | exact (arguments : List String)
  | leading (arguments : List String)

def Pattern.fits (arguments : List String) : Pattern → Bool
  | exact expected => arguments == expected
  | leading expected => expected.isPrefixOf arguments

structure Response where
  out : List UInt8
  err : List UInt8
  code : Int
  /-- The input comes before the output. -/
  echo : Bool
  /-- A signal ends the process after it has written. -/
  abort : Bool

structure Rule where
  pattern : Pattern
  responses : List Response

structure Logged where
  arguments : List String
  input : Option (List UInt8)

/-- What has happened so far: how often each rule was used, by its place, and the log. -/
structure Shell where
  used : Tally
  log : List Logged

namespace Shell

def new : Shell := ⟨.empty, []⟩

/-- The input is read only when the arguments say so. -/
def readsInput (arguments : List String) : Bool :=
  arguments[1]? == some "-f" && arguments[2]? == some "-"

def unexpected (arguments : List String) : Cli.Ended where
  code := some 3
  out := []
  err := Text.Utf8.encode ("unexpected: " ++ String.intercalate " " arguments ++ "\n")

def Response.ended (response : Response) (input : Option (List UInt8)) : Cli.Ended where
  code := if response.abort then none else some (response.code % 256)
  out := (if response.echo then input.getD [] else []) ++ response.out
  err := response.err

def call (rules : List Rule) (arguments : List String) (input : List UInt8) (shell : Shell) :
    Cli.Ended × Shell :=
  let input := if readsInput arguments then some input else none
  let log := shell.log ++ [⟨arguments, input⟩]
  match rules.zipIdx.find? fun (rule, _) => rule.pattern.fits arguments with
  | none => (unexpected arguments, { shell with log := log })
  | some (rule, place) =>
    let key := toString place
    let ended := match turn (shell.used.count key) rule.responses with
      | some response => Response.ended response input
      | none => unexpected arguments
    (ended, ⟨shell.used.mark key, log⟩)

def argumentLimit : Nat := 131071

/-- Why the program at `path`, seen from the working directory, cannot be started with the
arguments. -/
def refusal (tree : Files.Tree) (path : String) (arguments : List String) : Option String :=
  if (path :: arguments).any (Text.contains · "\x00") then
    some "nul byte found in provided data"
  else match tree.find (Files.join "." path) with
    | .ok (.file true) =>
      if arguments.any (argumentLimit < ·.utf8ByteSize) then
        some "Argument list too long (os error 7)"
      else none
    | .ok _ => some "Permission denied (os error 13)"
    | .error .missing => some "No such file or directory (os error 2)"
    | .error .belowFile => some "Not a directory (os error 20)"
    | .error .tooLong => some "File name too long (os error 36)"

def perform (tree : Files.Tree) (path : String) (rules : List Rule) (job : Cli.Job)
    (shell : Shell) : Cli.Outcome × Shell :=
  match job with
  | .run command =>
    match refusal tree path command.arguments with
    | some reason => (.notStarted reason, shell)
    | none =>
      let (ended, shell) := shell.call rules command.arguments []
      (.ended ended, shell)
  | .pipe source sink =>
    match refusal tree path source.arguments with
    | some reason => (.notStarted reason, shell)
    | none =>
      let (first, shell) := shell.call rules source.arguments []
      match refusal tree path sink.arguments with
      | some reason => (.notStarted reason, shell)
      | none =>
        let (second, shell) := shell.call rules sink.arguments first.out
        (.ended (.piped first second), shell)

end Shell

/-- How the client is installed in the directory `bin`. -/
inductive Installation where
  | complete
  | missing
  | notExecutable
  deriving DecidableEq

/-- The working directory with the client in it, beside the script that it follows. -/
def installed (binary : String) : Installation → Files.Tree
  | .missing => Files.Tree.add [] "bin/script.json" (.file false)
  | .complete =>
    (Files.Tree.add [] "bin/script.json" (.file false)).add ("bin/" ++ binary) (.file true)
  | .notExecutable =>
    (Files.Tree.add [] "bin/script.json" (.file false)).add ("bin/" ++ binary) (.file false)

def isExecutable (tree : Files.Tree) (path : String) : Bool :=
  match tree.find path with
  | .ok (.file true) => true
  | _ => false

/-- Where a binary is found: one with a slash in its name at that path, any other in the first of
the directories of the search path that has it. -/
def locate (tree : Files.Tree) (searchPath binary : String) : Option String :=
  let candidates := if Text.contains binary "/" then [binary]
    else (searchPath.toList.splitOnP (· == ':')).map fun directory =>
      Files.join (String.ofList directory) binary
  candidates.find? (isExecutable tree)

end Readiness.Rehearsal
