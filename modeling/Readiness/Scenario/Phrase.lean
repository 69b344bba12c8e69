import Readiness.Scenario.Action
import Readiness.Text.Classes
import Readiness.Text.Parts

/-! # Phrases

The sentences in which the steps of a scenario are written. A phrase is a sequence of pieces, some
of which hold an argument; a step that is written in a phrase means the action that the phrase
makes of its arguments. -/
namespace Readiness.Scenario

inductive Keyword where
  | given
  | when
  | then
  deriving DecidableEq, Repr

inductive Piece where
  | words (text : String)
  /-- One of some wordings, which is an argument. -/
  | oneOf (wordings : List String)
  /-- A text in quotes of either sort. -/
  | quoted
  /-- A text in double quotes that holds something, but no quote. -/
  | name
  /-- Letters, digits and what else is part of a word. -/
  | word
  deriving DecidableEq, Repr

namespace Piece

/-- The text before a closing quote and the rest after it. A backslash stands before any character
but a line feed, and both stay in the text. -/
def closing (quote : Char) : List Char → Option (List Char × List Char)
  | [] => none
  | '\\' :: c :: rest =>
    if c = '\n' then none
    else (closing quote rest).map fun (text, rest) => ('\\' :: c :: text, rest)
  | c :: rest =>
    if c = quote then some ([], rest)
    else if c = '\\' then none
    else (closing quote rest).map fun (text, rest) => (c :: text, rest)

def afterWords (words : String) (text : List Char) : Option (List Char) :=
  if words.toList.isPrefixOf text then some (text.drop words.toList.length) else none

/-- What a piece can be at the beginning of a text: its arguments, and the rest. -/
def readings (piece : Piece) (text : List Char) : List (List String × List Char) :=
  match piece, text with
  | words wording, text => (afterWords wording text).toList.map ([], ·)
  | oneOf wordings, text =>
    wordings.flatMap fun wording => (afterWords wording text).toList.map ([wording], ·)
  | quoted, '"' :: rest =>
    (closing '"' rest).toList.map fun (text, rest) => ([String.ofList text], rest)
  | quoted, '\'' :: rest =>
    (closing '\'' rest).toList.map fun (text, rest) => ([String.ofList text], rest)
  | name, '"' :: rest =>
    match Text.cut '"' rest with
    | some (c :: text, rest) => [([String.ofList (c :: text)], rest)]
    | _ => []
  | word, text =>
    match text.takeWhile Text.isWordChar with
    | [] => []
    | found => [([String.ofList found], text.dropWhile Text.isWordChar)]
  | _, _ => []

/-- The arguments of a whole text that consists of the pieces, for each way to read it so. -/
def readAll : List Piece → List Char → List (List String)
  | [], text => if text.isEmpty then [[]] else []
  | piece :: rest, text =>
    (piece.readings text).flatMap fun (found, after) => (readAll rest after).map (found ++ ·)

end Piece

structure Phrase where
  keywords : List Keyword
  pieces : List Piece
  meaning : List String → Option Action

namespace Phrase

def around (keywords : List Keyword) (before after : String) (meaning : String → Action) :
    Phrase where
  keywords := keywords
  pieces := [.words before, .quoted, .words after]
  meaning
    | [argument] => some (meaning argument)
    | _ => none

def between (keywords : List Keyword) (before middle : String)
    (meaning : String → String → Action) : Phrase where
  keywords := keywords
  pieces := [.words before, .quoted, .words middle, .quoted]
  meaning
    | [first, second] => some (meaning first second)
    | _ => none

def fixed (keywords : List Keyword) (text : String) (action : Action) : Phrase where
  keywords := keywords
  pieces := [.words text]
  meaning
    | [] => some action
    | _ => none

/-- The kind of resources that a label in a phrase stands for. -/
def kindOf (label : String) : String :=
  match label with
  | "operator group" => "operatorgroup"
  | "subscription" => "subscription"
  | "backup config" => "backupconfig"
  | "image streams" => "imagestream"
  | "build configs" => "buildconfig"
  | "deployment configs" => "deploymentconfig"
  | "services" => "service"
  | "routes" => "route"
  | _ => "backup"

def projectFromVariable : Phrase where
  keywords := [.given]
  pieces := [.words "project [", .word, .words "] is used"]
  meaning
    | [name] => some (.chooseProjectFrom name)
    | _ => none

def manifestCreated : Phrase where
  keywords := [.given, .when]
  pieces := [.words "the ",
    .oneOf ["catalog source", "operator group", "subscription", "custom resource", "backup",
      "CRDs", "CRD"],
    .words " ", .oneOf ["is", "are"], .words " created from ", .name]
  meaning
    | [_, _, manifest] => some (.create manifest)
    | _ => none

def resourceExists : Phrase where
  keywords := [.then]
  pieces := [.words "the ", .oneOf ["operator group", "subscription", "backup config"],
    .words " ", .name, .words " exists"]
  meaning
    | [label, name] => some (.check (kindOf label) name)
    | _ => none

def resourcesExist : Phrase where
  keywords := [.then, .when]
  pieces := [.words "the ",
    .oneOf ["image streams", "build configs", "deployment configs", "services", "routes"],
    .words " ", .name, .words " exist"]
  meaning
    | [label, names] => some (.awaitAll (kindOf label) (Text.nameListOf names))
    | _ => none

def all : List Phrase := [
  around [.given] "project " " is used" .chooseProject,
  projectFromVariable,
  manifestCreated,
  resourceExists,
  around [.then] "the CSV " " succeeds" .awaitInstall,
  fixed [.then] "all pods are running" (.awaitRunning PodSet.everything true),
  around [.given] "the operator " " is running" (.awaitRunning · false),
  around [.then] "the application pods " " are running" (.awaitRunning · false),
  around [.given, .then] "the instance pod " " is ready" .awaitInstance,
  around [.then] "the route " " has a host" .awaitHost,
  around [.then] "the route " " is accessible" .awaitPage,
  between [.when] "the template " " is created from " .createTemplate,
  between [.when, .then] "the template " " is instantiated with parameters from " .instantiate,
  around [.when] "the template in " " is processed into the project" .process,
  around [.when] "an application is created from " "" .newApp,
  resourcesExist,
  around [.when, .then] "a build of " " is started" .startBuild,
  around [.then] "the build " " completes" .awaitBuild,
  fixed [.when] "the default backup config exists" .checkBackupConfig,
  around [.then] "the backup " " is recorded" (fun name => .awaitAll "backup" [name]),
  around [.then] "the backup " " contains the Jenkins home" .verifyBackup]

/-- The actions that a text means in one phrase, under a keyword. -/
def meanings (phrase : Phrase) (keyword : Keyword) (text : String) : List Action :=
  if phrase.keywords.contains keyword then
    (Piece.readAll phrase.pieces text.toList).filterMap phrase.meaning
  else []

/-- The action that a step means, if it is written in one of the phrases. -/
def read (keyword : Keyword) (text : String) : Option Action :=
  (all.flatMap fun phrase => phrase.meanings keyword text).head?

end Phrase

end Readiness.Scenario
