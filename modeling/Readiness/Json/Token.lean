import Readiness.Json.Error
import Readiness.Text.Parts

/-! # Tokens

Reading the parts of a document that contain no others: words, strings and numbers. A value that is
passed unread is checked less strictly: surrogates need not be paired, and a number may be of any
size. -/
namespace Readiness.Json

/-- Readers move a cursor or end in an error. -/
abbrev Reader := StateT Cursor (Except Error)

namespace Reader

variable {α : Type}

/-- Fails where the reader stands. -/
def failHere (fault : Fault) : Reader α := fun cursor => .error ⟨fault, cursor.place⟩

/-- Fails at the next octet. -/
def failNext (fault : Fault) : Reader α := fun cursor => .error ⟨fault, cursor.next⟩

/-- Fails some octets ahead. -/
def failAfter (octets : Nat) (fault : Fault) : Reader α := fun cursor =>
  .error ⟨fault, cursor.placeAfter octets⟩

def peek : Reader (Option Char) := fun cursor => .ok (cursor.rest.head?, cursor)

def skipBlanks : Reader Unit := fun cursor => .ok ((), cursor.skipBlanks)

/-- The next character that is no blank. -/
def peekMark : Reader (Option Char) := do
  skipBlanks
  peek

def pass : Reader Unit := fun cursor => .ok ((), cursor.pass (cursor.rest.take 1))

def takeWhile (p : Char → Bool) : Reader (List Char) := fun cursor =>
  .ok (cursor.rest.takeWhile p, cursor.passWhile p)

def takeDigits : Reader (List Char) := takeWhile Char.isDigit

def word : List Char → Reader Unit
  | [] => pure ()
  | c :: rest => do
    match ← peek with
    | none => failHere .endInValue
    | some found =>
      if found = c then
        pass
        word rest
      else failNext .wordExpected

/-! ## Strings -/

def octetCount (text : List Char) : Nat := text.foldl (fun count c => count + c.utf8Size) 0

def unit : Reader Nat := fun cursor =>
  if octetCount (cursor.rest.take 4) < 4 then
    .error ⟨.endInString, cursor.placeAfter 4⟩
  else
    match Text.valueIn 16 (cursor.rest.take 4) with
    | some value => .ok (value, cursor.pass (cursor.rest.take 4))
    | none => .error ⟨.badEscape, cursor.placeAfter 4⟩

def isLow (unit : Nat) : Bool := 0xDC00 ≤ unit && unit ≤ 0xDFFF

def isHigh (unit : Nat) : Bool := 0xD800 ≤ unit && unit ≤ 0xDBFF

/-- Passes a character that has to come between the halves of a pair. -/
def link (c : Char) : Reader Unit := do
  match ← peek with
  | none => failHere .endInString
  | some found => if found = c then pass else failNext .unfinishedPair

def numbered : Reader Char := do
  let first ← unit
  if isLow first then failHere .loneSurrogate
  else if isHigh first then
    link '\\'
    link 'u'
    let second ← unit
    if isLow second then
      return Char.ofNat (0x10000 + (first - 0xD800) * 0x400 + (second - 0xDC00))
    else failHere .loneSurrogate
  else return Char.ofNat first

def lettered : Char → Option Char
  | '"' => some '"'
  | '\\' => some '\\'
  | '/' => some '/'
  | 'b' => some '\x08'
  | 'f' => some '\x0c'
  | 'n' => some '\n'
  | 'r' => some '\r'
  | 't' => some '\t'
  | _ => none

def escaped (number : Reader Char) : Reader Char := do
  match ← peek with
  | none => failHere .endInString
  | some 'u' =>
    pass
    number
  | some c =>
    match lettered c with
    | some meant =>
      pass
      return meant
    | none => failNext .badEscape

def isControl (c : Char) : Bool := c.toNat < 0x20

/-- The rest of a string after its opening quote; `read` is what was read of it, the last first. -/
def stringRest (read : List Char) : Nat → Reader String
  | 0 => failHere .endInString
  | steps + 1 => do
    match ← peek with
    | none => failHere .endInString
    | some '"' =>
      pass
      return String.ofList read.reverse
    | some '\\' =>
      pass
      let c ← escaped numbered
      stringRest (c :: read) steps
    | some c =>
      if isControl c then failNext .controlCharacter
      else
        pass
        stringRest (c :: read) steps

/-- A string whose opening quote is next. -/
def string : Reader String := do
  pass
  let cursor ← get
  stringRest [] (cursor.rest.length + 1)

def anyUnit : Reader Char := do
  let _ ← unit
  return ' '

def skimStringRest : Nat → Reader Unit
  | 0 => failHere .endInString
  | steps + 1 => do
    match ← peek with
    | none => failHere .endInString
    | some '"' => pass
    | some '\\' =>
      pass
      let _ ← escaped anyUnit
      skimStringRest steps
    | some c =>
      if isControl c then failHere .controlCharacter
      else
        pass
        skimStringRest steps

def skimString : Reader Unit := do
  pass
  let cursor ← get
  skimStringRest (cursor.rest.length + 1)

/-! ## Numbers -/

/-- How a number is read that may turn out too large, or breaks off. -/
structure Strictness where
  /-- What is wrong with a number that breaks off. -/
  atEnd : Fault
  /-- Whether its size counts. -/
  sized : Bool

def strict : Strictness := ⟨.endInValue, true⟩

def lenient : Strictness := ⟨.badNumber, false⟩

def someDigits (strictness : Strictness) : Reader (List Char) := do
  match ← takeDigits with
  | [] =>
    match ← peek with
    | none => failHere strictness.atEnd
    | some _ => failNext .badNumber
  | digits => return digits

/-- The digits before the point, of which only a lone zero may begin with one. -/
def wholeDigits (strictness : Strictness) : Reader (List Char) := do
  match ← peek with
  | some '0' =>
    pass
    match ← peek with
    | some c => if c.isDigit then failNext .badNumber else return ['0']
    | none => return ['0']
  | _ => someDigits strictness

def fraction (strictness : Strictness) : Reader (Option (List Char)) := do
  if (← peek) = some '.' then
    pass
    return some (← someDigits strictness)
  else return none

def exponentBound : Nat := Nat.pow 2 31

/-- The digits of an exponent before the one that makes it too large, and that one. -/
def cutExponent (read : List Char) : List Char → List Char
  | [] => read
  | digit :: rest =>
    if Text.digitsValue read < exponentBound then cutExponent (read ++ [digit]) rest else read

/-- The exponent. One that takes a number other than zero out of every range is not read to its
end. -/
def exponent (strictness : Strictness) (isZero : Bool) : Reader (Option Int) := do
  match ← peek with
  | some 'e' | some 'E' =>
    pass
    let sign ← peek
    if sign = some '+' ∨ sign = some '-' then pass
    let before ← get
    let digits ← someDigits strictness
    let value := Text.digitsValue digits
    if strictness.sized ∧ !isZero ∧ sign ≠ some '-' ∧ exponentBound ≤ value then
      set before
      failAfter (cutExponent [] digits).length .numberTooLarge
    else return some (if sign = some '-' then -(value : Int) else value)
  | _ => return none

/-- The parts of a number that is next. -/
def written (strictness : Strictness) : Reader Number.Written := do
  let negative := (← peek) = some '-'
  if negative then pass
  let whole ← wholeDigits strictness
  let fraction ← fraction strictness
  let isZero := (whole ++ fraction.getD []).all (· == '0')
  let exponent ← exponent strictness isZero
  return ⟨negative, whole, fraction, exponent⟩

def number : Reader Number := do
  match Number.ofWritten (← written strict) with
  | some n => return n
  | none => failHere .numberTooLarge

def skimNumber : Reader Unit := do
  let _ ← written lenient
  return

def isNumberStart (c : Char) : Bool := c == '-' || c.isDigit

/-- A value that contains no others and begins with `c`. -/
def scalar (c : Char) : Reader Value := do
  match c with
  | 'n' =>
    word "null".toList
    return .null
  | 't' =>
    word "true".toList
    return .bool true
  | 'f' =>
    word "false".toList
    return .bool false
  | '"' => return .string (← string)
  | c => if isNumberStart c then return .number (← number) else failNext .valueExpected

end Reader

end Readiness.Json
