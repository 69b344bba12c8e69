import Readiness.Scenario.Waiting

/-! # Steps on projects and resources

Steps that choose the project a scenario works in, and steps that wait until resources of this
project are there, are in a certain state or serve a page. -/
namespace Readiness.Scenario

/-! ## Projects

A project that is absent is created, and waited for until it is active. -/

namespace Project

def query (name : String) : Query := ⟨"namespace", name, name, none⟩

def create (ctx : Context) (name : String) : Task Unit := do
  Task.ofFetch (← Task.call (.createNamespace name))
  let _ ← Task.await ctx .resource [query name] .resource (.equals "Active")

/-- Makes a project the one that the scenario works in. -/
def use (name : String) : Step Unit := do
  let found : Bool ← Step.within fun _ => do Task.ofFetch (← Task.call (.hasNamespace name))
  unless found do Step.within (create · name)
  Step.setProject name

def choose (ctx : Context) (name : String) : Task Context := (use name).leaves ctx

def unset (variableName : String) : Error :=
  .configuration (variableName ++ " environment variable needs to be set")

/-- The project is named by a variable of the environment, which has to hold more than blanks. -/
def useFrom (variableName : String) : Step Unit := do
  match ← Step.within fun _ => ask (.variable variableName) with
  | none => throw (unset variableName)
  | some name => if Text.isAllBlank name then throw (unset variableName) else use (Text.trimmed name)

end Project

/-! ## Resources -/

namespace Resources

def queries (space kind : String) (names : List String) : List Query :=
  names.map fun name => ⟨kind, name, space, none⟩

def awaitAll (ctx : Context) (kind : String) (names : List String) : Task Poll.Report := do
  let space ← ctx.space
  Task.await ctx .resource (queries space kind names) .resource .present

def check (ctx : Context) (kind name : String) : Task Observation := do
  let space ← ctx.space
  Task.check ⟨kind, name, space, none⟩ .present

def phasePath : String := "\x7b.status.phase\x7d"

def awaitPhase (ctx : Context) (kind name : String) (wait : Wait) (phase : String) :
    Task Poll.Report := do
  let space ← ctx.space
  Task.await ctx .resource [⟨kind, name, space, some phasePath⟩] wait (.equals phase)

def hostPath : String := "\x7b.spec.host\x7d"

/-- Waits until a route has a host, and tells it. -/
def awaitHost (ctx : Context) (route : String) : Task String := do
  let space ← ctx.space
  let q : Query := ⟨"route", route, space, some hostPath⟩
  return seenState (← Task.await ctx .resource [q] .route .nonEmpty) q

end Resources

/-! ## Pages

Waiting until the host of a route serves its page. -/

namespace Page

/-- A host without a protocol is asked for plain pages. -/
def url (host : String) : String :=
  if Text.startsWith host "http://" ∨ Text.startsWith host "https://" then host
  else "http://" ++ host

/-- The state of a page is the code of its response. -/
def source : Source where
  lookup q := .page q.name
  read q answer := match answer with
    | .ok code => .ok ⟨q.name, toString code⟩
    | .error reason => .error (.transient ("GET " ++ q.name ++ ": " ++ reason))

def await (ctx : Context) (route : String) : Task String := do
  let address := url (← Resources.awaitHost ctx route)
  let space ← ctx.space
  let _ ← Task.await ctx source [⟨"url", address, space, none⟩] .route (.equals "200")
  return address

end Page

end Readiness.Scenario
