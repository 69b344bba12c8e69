import Readiness.Scenario.Phrase

/-! # Stages

Where a scenario stands. It is prepared by making sure that the cluster answers; after a refusal no
step of it does anything. Each feature is announced by a banner, when its first scenario begins. -/
namespace Readiness.Scenario

/-! ## Banners -/

def rule (feature : String) : String :=
  String.ofList (List.replicate (feature.utf8ByteSize + 8) '=')

/-- The lines of a banner. The rules above and below the feature are as long as its text in octets,
with the marks on both sides. -/
def banner (feature : String) : List String :=
  [rule feature, "=== " ++ feature ++ " ===", rule feature]

/-- Remembers the feature of the last scenario by a key, because two features may share a name. -/
structure FeatureTracker where
  last : Option String := none
  deriving DecidableEq, Repr

/-- The banner for a feature, unless it is that of the last scenario. -/
def FeatureTracker.enter (tracker : FeatureTracker) (key name : String) :
    Option (List String) × FeatureTracker :=
  if tracker.last = some key then (none, tracker) else (some (banner name), ⟨some key⟩)

/-- The key of a feature is the path of its file or, without one, its name. -/
def featureKey (path : Option String) (name : String) : String := path.getD name

/-! ## Preparing -/

/-- Nothing is asked of a cluster that cannot be reached. -/
def checkReachable : Task Unit := do
  match ← Task.call .ping with
  | .ok () => return
  | .error e => throw (.preflight e.message)

namespace Preflight

def timeLeft (settings : Settings) (started now : Instant) : Duration :=
  Duration.ofSecs settings.connectTimeout - (now - started)

def locate (settings : Settings) : Task String := do
  let located : Option String ← ask (.locate settings.binary)
  match located with
  | some binary => return binary
  | none => throw (.command (.binaryNotFound settings.binary))

/-- Insists on an answer that has come in time and tells of no failure. -/
def demand {ε : Type} (settings : Settings) (blame : ε → Error) :
    Poll.Timed (Except ε Unit) × Instant → Task Unit
  | (.answered (.ok ()), _) => return
  | (.answered (.error e), _) => throw (blame e)
  | (.late, _) | (.cancelled, _) =>
    throw (.preflight ("cluster did not answer within " ++
      Duration.text (.ofSecs settings.connectTimeout)))

/-- A client of the API server is made where the cluster is read through it. -/
def connect (settings : Settings) (started : Instant) : Task Unit :=
  match settings.backend with
  | .cli => return
  | .api => do
    let now : Instant ← ask .clock
    let answer ← ask (.connectWithin (timeLeft settings started now))
    demand settings .client answer

def openPages (settings : Settings) : Task Unit := do
  let opened : Except String Unit ← ask (.openPages (.ofSecs settings.httpTimeout))
  match opened with
  | .ok () => return
  | .error detail => throw (.pages detail)

def ping (settings : Settings) (started : Instant) : Task Unit := do
  let now : Instant ← ask .clock
  let answer ← ask (.lookWithin (.cluster .ping) (timeLeft settings started now))
  demand settings (fun e : FetchError => .preflight e.message) answer

end Preflight

/-- Makes the clients of a scenario and sees whether the cluster answers, all within one time limit.
What waits for nobody, such as finding the command line client, is never cut short by it. -/
def preflight (settings : Settings) : Task Context := do
  let started : Instant ← ask .clock
  let binary ← Preflight.locate settings
  Preflight.connect settings started
  Preflight.openPages settings
  Preflight.ping settings started
  return ⟨settings, binary, none, none⟩

inductive Stage where
  | unprepared
  | refused (reason : String)
  | ready (ctx : Context)
  deriving DecidableEq, Repr

namespace Stage

def prepare (settings : Settings) : Asking Stage := do
  match ← (preflight settings).run with
  | .ok ctx => return .ready ctx
  | .error e => return .refused e.message

def refusal : Stage → Option String
  | unprepared => some "no cluster connection"
  | refused reason => some reason
  | ready _ => none

def perform (stage : Stage) (action : Action) : Asking (Except Error Outcome × Stage) := do
  match stage with
  | unprepared => return (.error (.preflight "no cluster connection"), unprepared)
  | refused reason => return (.error (.preflight reason), refused reason)
  | ready ctx =>
    let (result, ctx) ← action.perform ctx
    return (result, ready ctx)

end Stage

/-! ## Sentences -/

structure Sentence where
  keyword : Keyword
  text : String

namespace Sentence

def action? (sentence : Sentence) : Option Action := Phrase.read sentence.keyword sentence.text

end Sentence

namespace Stage

/-- What is written in none of the phrases is not performed. -/
def follow (stage : Stage) (sentence : Sentence) :
    Asking (Option (Except Error Outcome) × Stage) := do
  match sentence.action? with
  | none => return (none, stage)
  | some action =>
    let (result, stage) ← stage.perform action
    return (some result, stage)

def followAll (stage : Stage) :
    List Sentence → Asking (List (Option (Except Error Outcome)) × Stage)
  | [] => return ([], stage)
  | sentence :: rest => do
    let (result, stage) ← stage.follow sentence
    let (results, stage) ← stage.followAll rest
    return (result :: results, stage)

end Stage

end Readiness.Scenario
