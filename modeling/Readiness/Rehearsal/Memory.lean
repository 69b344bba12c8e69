import Readiness.Cluster

/-! # A cluster in memory

A stand-in for a cluster. Each of its objects has versions, and a look at an object sees the latest
version of the time. -/
namespace Readiness.Rehearsal

inductive Content where
  | document (value : Json.Value)
  | unreadable (error : FetchError)
  | gone

structure Version where
  since : Instant
  content : Content

/-- The versions of one object, the earliest first. Objects are told apart by kind and name
alone. -/
structure Timeline where
  kind : String
  name : String
  versions : List Version

/-- How namespaces are created: after a delay, or not at all. -/
structure Creation where
  failure : Option FetchError := none
  delay : Duration := 0

abbrev Memory := List Timeline

namespace Memory

/-- Versions of one instant stay in the order in which they were added. -/
def insert (version : Version) (versions : List Version) : List Version :=
  versions.takeWhile (·.since ≤ version.since) ++
    version :: versions.dropWhile (·.since ≤ version.since)

def put (memory : Memory) (kind name : String) (version : Version) : Memory :=
  let kind := Cluster.Kind.canonical kind
  let isMeant (t : Timeline) := t.kind == kind && t.name == name
  if memory.any isMeant then
    memory.map fun t => if isMeant t then { t with versions := insert version t.versions } else t
  else memory ++ [⟨kind, name, [version]⟩]

def Timeline.current (timeline : Timeline) (now : Instant) : Content :=
  match (timeline.versions.takeWhile (·.since ≤ now)).getLast? with
  | some version => version.content
  | none => .gone

def current (memory : Memory) (kind name : String) (now : Instant) : Content :=
  match memory.find? fun t => t.kind == Cluster.Kind.canonical kind && t.name == name with
  | some timeline => Timeline.current timeline now
  | none => .gone

def fetch (memory : Memory) (q : Query) (now : Instant) : Except FetchError Reading :=
  match memory.current q.kind q.name now with
  | .document value => (Cluster.stateAt value q.path).map (⟨q.name, ·⟩)
  | .unreadable e => .error e
  | .gone => .error (.notFound q.text)

/-- The objects of a kind in the order of their names; one that cannot be read spoils the list. -/
def list (memory : Memory) (kind : String) (now : Instant) : Except FetchError (List Reading) :=
  let wanted := memory.filter (·.kind == Cluster.Kind.canonical kind)
  let ordered := wanted.mergeSort fun a b => a.name ≤ b.name
  (ordered.filterMapM fun t =>
    match Timeline.current t now with
    | .document value => (Cluster.stateAt value none).map fun state => some ⟨t.name, state⟩
    | .unreadable e => .error e
    | .gone => .ok none)

def hasNamespace (memory : Memory) (name : String) (now : Instant) : Except FetchError Bool :=
  match memory.current "namespace" name now with
  | .document _ => .ok true
  | .unreadable e => .error e
  | .gone => .ok false

def phaseDocument (phase : String) : Json.Value :=
  .object [("status", .object [("phase", .string phase)])]

/-- A namespace that takes its time is pending until then. -/
def createNamespace (memory : Memory) (creation : Creation) (name : String) (now : Instant) :
    Except FetchError Unit × Memory :=
  match creation.failure with
  | some e => (.error e, memory)
  | none =>
    let memory := if 0 < creation.delay then
        memory.put "namespace" name ⟨now, .document (phaseDocument "Pending")⟩
      else memory
    (.ok (), memory.put "namespace" name
      ⟨now + creation.delay, .document (phaseDocument "Active")⟩)

def answer (memory : Memory) (creation : Creation) (denied : Option FetchError) (now : Instant) :
    (call : Cluster.Call) → call.Answer × Memory
  | .fetch q =>
    match denied with
    | some e => (.error e, memory)
    | none => (memory.fetch q now, memory)
  | .list kind _ =>
    match denied with
    | some e => (.error e, memory)
    | none => (memory.list kind now, memory)
  | .hasNamespace name =>
    match denied with
    | some e => (.error e, memory)
    | none => (memory.hasNamespace name now, memory)
  | .createNamespace name =>
    match denied with
    | some e => (.error e, memory)
    | none => memory.createNamespace creation name now
  | .ping =>
    match denied with
    | some e => (.error e, memory)
    | none => (.ok (), memory)

end Memory

end Readiness.Rehearsal
