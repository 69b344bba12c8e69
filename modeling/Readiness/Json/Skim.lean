import Readiness.Json.Reader

/-! # Passing over values

A value that nobody asks for is passed without being kept. It has to be a value, but it may be
nested to any depth. Every call that passes a part of a document is given a count of calls that may
be nested below it, and the length of the text is always enough. -/
namespace Readiness.Json.Reader

def skimKey : Reader Unit := do
  match ← peekMark with
  | some '"' =>
    skimString
    colon
  | some _ => failNext .keyNotString
  | none => failHere .endInObject

mutual

def skim : Nat → Reader Unit
  | 0 => failHere .endInValue
  | depth + 1 => do
    match ← peekMark with
    | none => failHere .endInValue
    | some '[' =>
      pass
      match ← peekMark with
      | some ']' => pass
      | some _ => skimItems depth
      | none => failHere .endInList
    | some '\x7b' =>
      pass
      match ← peekMark with
      | some '\x7d' => pass
      | some _ => skimMembers depth
      | none => failHere .endInObject
    | some '"' => skimString
    | some c =>
      if isNumberStart c then skimNumber
      else
        let _ ← scalar c

/-- The items of an array that is not empty, and the bracket after them. -/
def skimItems : Nat → Reader Unit
  | 0 => failHere .endInList
  | depth + 1 => do
    skim depth
    match ← peekMark with
    | some ',' =>
      pass
      skimItems depth
    | some ']' => pass
    | some _ => failNext .listEndExpected
    | none => failHere .endInList

def skimMembers : Nat → Reader Unit
  | 0 => failHere .endInObject
  | depth + 1 => do
    skimKey
    skim depth
    match ← peekMark with
    | some ',' =>
      pass
      skimMembers depth
    | some '\x7d' => pass
    | some _ => failNext .objectEndExpected
    | none => failHere .endInObject

end

end Readiness.Json.Reader
