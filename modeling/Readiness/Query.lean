import Readiness.Text.Quoted
import Readiness.Time

/-! # Queries and what is seen of them

A query names one resource of a namespace and, optionally, the part of it to look at. Where it
cannot be read there is an error of one of four kinds, two of which waiting longer cannot mend. The
last state of a query is what a report shows of it. -/
namespace Readiness

structure Query where
  kind : String
  name : String
  space : String
  path : Option String := none
  deriving DecidableEq, Repr

namespace Query

/-- Queries of one resource share a key, whatever part of it they look at. -/
def key (q : Query) : String := q.space ++ "/" ++ q.kind ++ "/" ++ q.name

def text (q : Query) : String :=
  q.kind ++ "/" ++ q.name ++ " -n " ++ q.space ++
    match q.path with
    | none => ""
    | some path => " -o jsonpath=" ++ path

end Query

structure Reading where
  name : String
  state : String
  deriving DecidableEq, Repr

structure Observation extends Reading where
  seenAt : Instant
  deriving DecidableEq, Repr

inductive LastState where
  | unknown
  | missing (reason : String)
  | observed (seen : Observation)
  deriving DecidableEq, Repr

namespace LastState

def raw? : LastState → Option String
  | observed seen => some seen.state
  | _ => none

def text : LastState → String
  | unknown => "<not fetched>"
  | missing reason => "<missing: " ++ reason ++ ">"
  | observed seen => Text.quoted seen.state

end LastState

inductive FetchError where
  | notFound (detail : String)
  | transient (detail : String)
  | unauthorized (detail : String)
  | invalid (detail : String)
  deriving DecidableEq, Repr

namespace FetchError

def isFatal : FetchError → Bool
  | unauthorized _ | invalid _ => true
  | notFound _ | transient _ => false

def message : FetchError → String
  | notFound detail => "not found: " ++ detail
  | transient detail => "transient error: " ++ detail
  | unauthorized detail => "authentication failed: " ++ detail
  | invalid detail => "invalid query: " ++ detail

end FetchError

end Readiness
