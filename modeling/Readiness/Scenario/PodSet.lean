import Readiness.Scenario.Waiting

/-! # Sets of pods

Pods are waited for together. The state of a set is the text of all names and phases in it, so that
one condition speaks of the whole set, and the set is listed anew for each read. -/
namespace Readiness.Scenario.PodSet

/-- Pods that build or deploy end by themselves and are not waited for. -/
def isHelper (name : String) : Bool := Text.endsWith name "-build" || Text.endsWith name "-deploy"

def everything : String := "*"

/-- Whether a pod belongs to the set that `lead`, the beginning of its name, stands for. -/
def belongs (lead : String) (helpers : Bool) (pod : Reading) : Bool :=
  (lead == everything || Text.startsWith pod.name lead) && (helpers || !isHelper pod.name)

def pairText (pod : Reading) : String := pod.name ++ "=" ++ pod.state

/-- A set without pods is not found. -/
def reading (helpers : Bool) (q : Query) (pods : List Reading) : Except FetchError Reading :=
  match pods.filter (belongs q.name helpers) with
  | [] => .error (.notFound ("no pods matching " ++ q.text))
  | members => .ok ⟨q.name, String.intercalate " " (members.map pairText)⟩

def source (helpers : Bool) : Source where
  lookup q := .cluster (.list q.kind q.space)
  read q answer := answer.bind (reading helpers q)

def names (state : String) : List String :=
  (Text.wordsOf state).map fun pair => ((Text.cutOf '=' pair).map (·.1)).getD pair

def isRunning (pair : String) : Bool :=
  match Text.cutOf '=' pair with
  | some (_, phase) => phase == "Running"
  | none => false

def running : Condition :=
  ⟨"every matching pod Running",
    fun state => !Text.isAllBlank state && (Text.wordsOf state).all isRunning⟩

/-- Waits for a set and tells the names in it that were seen last. -/
def await (ctx : Context) (lead : String) (helpers : Bool) (condition : Condition) :
    Task (List String) := do
  let space ← ctx.space
  let q : Query := ⟨"pods", lead, space, none⟩
  return names (seenState (← Task.await ctx (source helpers) [q] .pod condition) q)

def readyPath : String := "\x7b.status.containerStatuses[*].ready\x7d"

def ready : Condition := .both .nonEmpty (.excludes "false")

def readyQuery (space pod : String) : Query := ⟨"pod", pod, space, some readyPath⟩

def awaitReady (ctx : Context) (pod : String) : Task Poll.Report := do
  let space ← ctx.space
  Task.await ctx .resource [readyQuery space pod] .pod ready

/-- Finds the first pod of a set, waits until its containers are ready and keeps it. -/
def awaitInstance (lead : String) : Step String := do
  match ← Step.within (await · lead false .nonEmpty) with
  | [] => throw (.assertion ("no pod starting with `" ++ lead ++ "`"))
  | pod :: _ =>
    let _ ← Step.within (awaitReady · pod)
    Step.setInstancePod pod
    return pod

end Readiness.Scenario.PodSet
