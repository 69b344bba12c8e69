import Readiness.Json.Token

/-! # Reading documents

A reader of documents, one function for each kind of value. Values may be nested to a limited
depth. Every call that reads a part of a document is also given a count of calls that may be nested
below it, and the length of the text is always enough. -/
namespace Readiness.Json

namespace Reader

/-- How many arrays and objects may be nested. -/
def nestingLimit : Nat := 127

/-- Passes an opening bracket, below which `depth` more may be nested, the bracket included. -/
def enter (depth : Nat) : Reader Unit := if depth = 0 then failNext .tooDeep else pass

def moreItems (first : Bool) : Reader Bool := do
  match ← peekMark with
  | none => failHere .endInList
  | some ']' => return false
  | some c =>
    if first then return true
    else if c = ',' then
      pass
      match ← peekMark with
      | some ']' => failNext .trailingComma
      | some _ => return true
      | none => failHere .endInValue
    else failNext .listEndExpected

/-- Whether a member follows, the first one or another. -/
def moreMembers (first : Bool) : Reader Bool := do
  match ← peekMark with
  | none => failHere .endInObject
  | some '\x7d' => return false
  | some c =>
    if first then if c = '"' then return true else failNext .keyNotString
    else if c = ',' then
      pass
      match ← peekMark with
      | some '"' => return true
      | some '\x7d' => failNext .trailingComma
      | some _ => failNext .keyNotString
      | none => failHere .endInValue
    else failNext .objectEndExpected

def colon : Reader Unit := do
  match ← peekMark with
  | some ':' => pass
  | some _ => failNext .colonExpected
  | none => failHere .endInObject

mutual

def value (depth : Nat) : Nat → Reader Value
  | 0 => failHere .endInValue
  | calls + 1 => do
    match ← peekMark with
    | none => failHere .endInValue
    | some '[' =>
      enter depth
      let items ← items (depth - 1) true calls
      pass
      return .array items
    | some '\x7b' =>
      enter depth
      let members ← members (depth - 1) true calls
      pass
      return .ofMembers members
    | some c => scalar c

def items (depth : Nat) (first : Bool) : Nat → Reader (List Value)
  | 0 => failHere .endInList
  | calls + 1 => do
    if ← moreItems first then
      let item ← value depth calls
      return item :: (← items depth false calls)
    else return []

def members (depth : Nat) (first : Bool) : Nat → Reader (List (String × Value))
  | 0 => failHere .endInObject
  | calls + 1 => do
    if ← moreMembers first then
      let key ← string
      colon
      let item ← value depth calls
      return (key, item) :: (← members depth false calls)
    else return []

end

def whole {α : Type} (reader : Reader α) (s : String) : Except Error α :=
  (do
    let result ← reader
    match ← peekMark with
    | none => return result
    | some _ => failNext .trailingText : Reader α).run' (.ofText s)

/-- A count of nested calls that suffices for what is ahead. -/
def callLimit : Reader Nat := do return 4 * (← get).rest.length + 4

end Reader

/-- The document that `s` writes, with blanks around it or none. -/
def Value.ofText? (s : String) : Option Value :=
  (Reader.whole (do Reader.value Reader.nestingLimit (← Reader.callLimit)) s).toOption

end Readiness.Json
