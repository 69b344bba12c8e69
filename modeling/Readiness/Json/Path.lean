import Readiness.Json.Value

/-! # Paths into a document

A path is a list of steps, each from a value to some of the values inside it. Main statement:
`targets_append`, by which paths compose. -/
namespace Readiness.Json

inductive Segment where
  | field (name : String)
  | index (n : Nat)
  | wildcard
  deriving DecidableEq, Repr

def Segment.step : Segment → Value → List Value
  | field name, v => (v.member? name).toList
  | index n, v => (v.item? n).toList
  | wildcard, v => v.children

abbrev Path := List Segment

namespace Path

/-- The values that the path leads to, in the order of the document. -/
def targets : Path → Value → List Value
  | [], v => [v]
  | segment :: rest, v => (segment.step v).flatMap (targets rest)

theorem targets_append (p q : Path) (v : Value) :
    targets (p ++ q) v = (targets p v).flatMap (targets q) := by
  induction p generalizing v with
  | nil => simp [targets]
  | cons segment rest ih =>
    have onward : targets (rest ++ q) = fun v => (targets rest v).flatMap (targets q) := funext ih
    simp [targets, onward, List.flatMap_assoc]

/-- A text stands for itself and null for nothing. -/
def shown : Value → String
  | .string s => s
  | .null => ""
  | v => v.text

def extract (path : Path) (v : Value) : String :=
  String.intercalate " " ((path.targets v).map shown)

end Path

end Readiness.Json
