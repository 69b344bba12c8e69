import Readiness.Json.Skim
import Readiness.Time.Timestamp

/-! # Shapes of documents

What a document is expected to look like, and reading by a shape. What is read is a document again,
made of the parts that the shape names: timestamps in universal time, members that hold nothing
left out, missing members filled in. -/
namespace Readiness.Json

inductive Use where
  /-- It may be missing or null; a later one with the same key takes the place of an earlier one. -/
  | optional
  /-- The same, but it is never without a value. -/
  | filled (value : Value)
  /-- A text that has to be this one wherever it stands, and is not kept. -/
  | fixed (value : String)
  /-- It may be missing but not be there twice. -/
  | single (value : Value)
  /-- It has to be there exactly once, but may be null. -/
  | required

/-- What is made of an object besides the members of its shape. -/
inductive Form where
  /-- Other members are passed over. -/
  | closed
  /-- The same, and an array is taken for the members in their order. -/
  | listed
  /-- Other members are kept. -/
  | wide
  deriving DecidableEq

inductive Shape where
  | anything
  | text
  | boolean
  /-- A whole number below `2 ^ bits`, or at least `-2 ^ bits` if it may be negative. -/
  | integer (name : String) (bits : Nat) (signed : Bool)
  | timestamp
  | list (item : Shape)
  | table (item : Shape)
  | object (form : Form) (name : String) (fields : List (String × Use × Shape))

abbrev Field := String × Use × Shape

namespace Reader

/-- Fails at a value that is not of the expected kind. A value that contains no others is read
first. -/
def mismatch {α : Type} (expected : String) (c : Char) : Reader α := do
  match c with
  | '[' => failHere (.wrongKind (Value.array []).found expected)
  | '\x7b' => failHere (.wrongKind (Value.object []).found expected)
  | c =>
    let v ← scalar c
    failHere (.wrongKind v.found expected)

/-- Fails in an array, at the bracket after it if that comes next. -/
def failInList {α : Type} (fault : Fault) : Reader α := do
  match ← peekMark with
  | some ']' => pass
  | some ',' =>
    pass
    skipBlanks
  | _ => pure ()
  failHere fault

/-- Fails in an object, at the bracket after it if that comes next. -/
def failInObject {α : Type} (fault : Fault) : Reader α := do
  if (← peekMark) = some '\x7d' then pass
  failHere fault

def integer (name : String) (bits : Nat) (signed : Bool) (c : Char) : Reader Value := do
  if isNumberStart c then
    let n ← number
    match n with
    | .whole value =>
      if value < Nat.pow 2 bits ∧ (if signed then -(Nat.pow 2 bits : Int) else 0) ≤ value then
        return .number n
      else failHere (.wrongValue (Value.number n).found name)
    | .real _ => failHere (.wrongKind (Value.number n).found name)
  else mismatch name c

def timestamp (c : Char) : Reader Value := do
  if c = '"' then
    match Timestamp.ofText (← string) with
    | .ok stamp => return .string stamp.text
    | .error fault => failHere (.badText fault.text)
  else mismatch "an RFC 3339 formatted date and time string" c

/-- A text that has to be the expected one; another one spoils the object that it is in. -/
def fixedText (expected : String) : Reader Unit := do
  match ← peekMark with
  | none => failHere .endInValue
  | some '"' =>
    let found ← string
    if found ≠ expected then failInObject (.wrongValue (Value.string found).found expected)
  | some c => mismatch "a string" c

end Reader

namespace Shape

open Reader

/-- The version and the kind of an object are kept together or not at all: one that is there twice
or is no text ends the search for them, and those found until then are lost. -/
def settle (version kind : Option Value) : List (String × Value) → List (String × Value)
  | [] =>
    match version, kind with
    | some version, some kind => [("apiVersion", version), ("kind", kind)]
    | _, _ => []
  | (key, value) :: rest =>
    if key = "apiVersion" then
      match version, value with
      | none, .string _ => settle (some value) kind rest
      | _, _ => rest
    else if key = "kind" then
      match kind, value with
      | none, .string _ => settle version (some value) rest
      | _, _ => rest
    else (key, value) :: settle version kind rest

def lastOf (key : String) (members : List (String × Value)) : Option Value :=
  match members.reverse.lookup key with
  | some .null | none => none
  | some value => some value

/-- What is kept of a field, given the members that were read. -/
def keptOf (members : List (String × Value)) : Field → Option (String × Value)
  | (key, .optional, _) => (lastOf key members).map (key, ·)
  | (key, .filled value, _) | (key, .single value, _) =>
    some (key, (lastOf key members).getD value)
  | (key, .required, _) => (members.lookup key).map (key, ·)
  | (_, .fixed _, _) => none

def isField (fields : List Field) (key : String) : Bool := fields.any (·.1 == key)

def assemble (fields : List Field) (members : List (String × Value)) : Value :=
  let others := members.filter fun (key, _) => !isField fields key
  .ofMembers (settle none none others ++ fields.filterMap (keptOf members))

def missing? (fields : List Field) (members : List (String × Value)) : Option String :=
  (fields.find? fun (key, use, _) =>
    match use with
    | .required => !(members.any (·.1 == key))
    | _ => false).map (·.1)

def isRepeated (use : Use) (key : String) (members : List (String × Value)) : Bool :=
  match use with
  | .single _ | .required => members.any (·.1 == key)
  | _ => false

def mayBeNull : Use → Bool
  | .optional | .filled _ | .required => true
  | .fixed _ | .single _ => false

mutual

def read (depth : Nat) (shape : Shape) : Nat → Reader Value
  | 0 => failHere .endInValue
  | calls + 1 => do
    match ← peekMark with
    | none => failHere .endInValue
    | some c =>
      match shape with
      | .anything => value depth calls
      | .text => if c = '"' then return .string (← string) else mismatch "a string" c
      | .boolean => if c = 't' ∨ c = 'f' then scalar c else mismatch "a boolean" c
      | .integer name bits signed => Reader.integer name bits signed c
      | .timestamp => Reader.timestamp c
      | .list item =>
        if c = '[' then
          enter depth
          let items ← readItems (depth - 1) item true calls
          pass
          return .array items
        else mismatch "a sequence" c
      | .table item =>
        if c = '\x7b' then
          enter depth
          let members ← readEntries (depth - 1) item true calls
          pass
          return .ofMembers members
        else mismatch "a map" c
      | .object form name fields =>
        if c = '\x7b' then
          enter depth
          let members ← readMembers (depth - 1) form fields true [] calls
          match missing? fields members with
          | some key => failInObject (.missingField key)
          | none =>
            pass
            return assemble fields members
        else if c = '[' ∧ form ≠ .wide then
          enter depth
          if form = .closed then failInList (.wrongKind (Value.array []).found name)
          else
            let members ← readListed (depth - 1) true fields calls
            match missing? fields members with
            | some key => failInList (.missingField key)
            | none =>
              match ← peekMark with
              | some ']' =>
                pass
                return assemble fields members
              | _ => failNext .trailingText
        else mismatch name c
termination_by structural calls => calls

def readItems (depth : Nat) (item : Shape) (first : Bool) : Nat → Reader (List Value)
  | 0 => failHere .endInList
  | calls + 1 => do
    if ← moreItems first then
      let value ← read depth item calls
      return value :: (← readItems depth item false calls)
    else return []
termination_by structural calls => calls

def readEntries (depth : Nat) (item : Shape) (first : Bool) :
    Nat → Reader (List (String × Value))
  | 0 => failHere .endInObject
  | calls + 1 => do
    if ← moreMembers first then
      let key ← string
      colon
      let value ← read depth item calls
      return (key, value) :: (← readEntries depth item false calls)
    else return []
termination_by structural calls => calls

/-- The members of an object that count, after those that were read. -/
def readMembers (depth : Nat) (form : Form) (fields : List Field) (first : Bool)
    (members : List (String × Value)) : Nat → Reader (List (String × Value))
  | 0 => failHere .endInObject
  | calls + 1 => do
    if ← moreMembers first then
      let key ← string
      match fields.lookup key with
      | some (use, shape) =>
        if isRepeated use key members then failInObject (.duplicateField key)
        else
          colon
          let value ← readField depth use shape calls
          readMembers depth form fields false (members ++ [(key, value)]) calls
      | none =>
        colon
        if form = .wide then
          let value ← value depth calls
          readMembers depth form fields false (members ++ [(key, value)]) calls
        else
          skim (← callLimit)
          readMembers depth form fields false members calls
    else return members
termination_by structural calls => calls

/-- The value of a member, null standing for nothing. -/
def readField (depth : Nat) (use : Use) (shape : Shape) : Nat → Reader Value
  | 0 => failHere .endInValue
  | calls + 1 => do
    match use with
    | .fixed expected =>
      fixedText expected
      return .null
    | use =>
      if (← peekMark) = some 'n' ∧ mayBeNull use then scalar 'n' else read depth shape calls
termination_by structural calls => calls

/-- The members that stand in an array, in the order of the fields. -/
def readListed (depth : Nat) (first : Bool) (fields : List Field) :
    Nat → Reader (List (String × Value))
  | 0 => failHere .endInList
  | calls + 1 => do
    match fields with
    | [] => return []
    | (key, use, shape) :: rest =>
      if ← moreItems first then
        let value ← readField depth use shape calls
        return (key, value) :: (← readListed depth false rest calls)
      else return []
termination_by structural calls => calls

end

def ofText (shape : Shape) (s : String) : Except Error Value :=
  whole (do shape.read nestingLimit (← callLimit)) s

end Shape

end Readiness.Json
