import Readiness.Text.Parts

/-! # Timestamps

A second of the calendar, and the texts that write one: a date, a time of day, perhaps with a
fraction of a second, and the distance from universal time. Blanks may stand before most parts. A
timestamp is kept in universal time and without its fraction. -/
namespace Readiness

structure Date where
  year : Int
  month : Nat
  day : Nat
  deriving DecidableEq, Repr

namespace Date

def isLeapYear (year : Int) : Bool := year % 4 == 0 && (year % 100 != 0 || year % 400 == 0)

def daysIn (year : Int) (month : Nat) : Nat :=
  if month = 2 then if isLeapYear year then 29 else 28
  else if month = 4 ∨ month = 6 ∨ month = 9 ∨ month = 11 then 30
  else 31

/-- The years that are counted. -/
def isCounted (year : Int) : Bool := -262143 ≤ year && year ≤ 262142

def isValid (date : Date) : Bool := isCounted date.year && date.day ≤ daysIn date.year date.month

def next (date : Date) : Date :=
  if date.day < daysIn date.year date.month then { date with day := date.day + 1 }
  else if date.month < 12 then ⟨date.year, date.month + 1, 1⟩
  else ⟨date.year + 1, 1, 1⟩

def previous (date : Date) : Date :=
  if 1 < date.day then { date with day := date.day - 1 }
  else if 1 < date.month then ⟨date.year, date.month - 1, daysIn date.year (date.month - 1)⟩
  else ⟨date.year - 1, 12, 31⟩

end Date

/-- A leap second is the second 60 of its minute. -/
structure Timestamp where
  date : Date
  hour : Nat
  minute : Nat
  second : Nat
  deriving DecidableEq, Repr

namespace Timestamp

inductive Fault where
  | tooShort
  | badCharacter
  | outOfRange
  | tooLong
  | impossible
  deriving DecidableEq, Repr

def Fault.text : Fault → String
  | tooShort => "premature end of input"
  | badCharacter => "input contains invalid characters"
  | outOfRange => "input is out of range"
  | tooLong => "trailing input"
  | impossible => "no possible date and time matching input"

/-- Takes parts from the front of a text. -/
abbrev Scan := StateT (List Char) (Except Fault)

def digits (limit : Nat) : Scan Nat := fun text =>
  match text, (text.take limit).takeWhile Char.isDigit with
  | [], _ => .error .tooShort
  | _, [] => .error .badCharacter
  | _, read => .ok (Text.digitsValue read, text.drop read.length)

def skipBlanks : Scan Unit := modify Text.trimStart

def field (low high : Nat) : Scan Nat := do
  skipBlanks
  let value ← digits 2
  if low ≤ value ∧ value ≤ high then return value else throw .outOfRange

def allDigits : Scan Nat := do digits (← get).length

/-- A year without a sign has at most four digits. -/
def year : Scan Int := do
  skipBlanks
  let value : Int ← match ← get with
    | '-' :: rest => do
      set rest
      pure (-(← allDigits))
    | '+' :: rest => do
      set rest
      pure (← allDigits)
    | _ => do pure (← digits 4)
  if -Nat.pow 2 31 ≤ value ∧ value < Nat.pow 2 31 then return value else throw .outOfRange

def mark (allowed : List Char) : Scan Unit := do
  match ← get with
  | [] => throw .tooShort
  | c :: rest => if allowed.contains c then set rest else throw .badCharacter

/-- Passes a fraction of a second, if there is one. -/
def skipFraction : Scan Unit := do
  match ← get with
  | '.' :: rest =>
    set rest
    let _ ← digits 9
    modify (·.dropWhile Char.isDigit)
  | _ => return

def octets (text : List Char) : Nat := text.foldl (fun count c => count + c.utf8Size) 0

def twoDigits : Scan Nat := do
  match ← get with
  | tens :: ones :: rest =>
    if tens.isDigit ∧ ones.isDigit then
      set rest
      return Text.digitsValue [tens, ones]
    else throw .badCharacter
  | rest => throw (if octets rest < 2 then .tooShort else .badCharacter)

/-- Hours and minutes, with colons and blanks or nothing between them, counted in minutes. -/
def distance : Scan Nat := do
  let hours ← twoDigits
  modify (·.dropWhile fun c => c == ':' || Text.isBlank c)
  let minutes ← twoDigits
  if minutes < 60 then return hours * 60 + minutes else throw .outOfRange

def isUniversal (text : List Char) : Bool := (text.take 3).map Char.toUpper == "UTC".toList

/-- How many minutes the time of day is ahead of universal time. -/
def zone : Scan Int := do
  let text ← get
  if isUniversal text then
    set (text.drop 3)
    return 0
  else match text with
    | 'Z' :: rest | 'z' :: rest =>
      set rest
      return 0
    | '+' :: rest =>
      set rest
      return ← distance
    | '-' :: rest | '−' :: rest =>
      set rest
      return -(← distance)
    | [] => throw .tooShort
    | _ => throw .badCharacter

def dayMinutes : Nat := 24 * 60

/-- The time of a day that is ahead of universal time, in universal time. -/
def toUniversal (date : Date) (hour minute second : Nat) (ahead : Int) : Timestamp :=
  let minutes : Int := hour * 60 + minute - ahead
  let ofDay := (minutes % dayMinutes).toNat
  let date := if minutes < 0 then date.previous
    else if (dayMinutes : Int) ≤ minutes then date.next else date
  ⟨date, ofDay / 60, ofDay % 60, second⟩

/-- The parts of a timestamp. That there is such a day is looked at last. -/
def scan : Scan Timestamp := do
  let year ← year
  skipBlanks
  mark ['-']
  let month ← field 1 12
  skipBlanks
  mark ['-']
  let day ← field 1 31
  mark ['T', 't', ' ']
  let hour ← field 0 23
  skipBlanks
  mark [':']
  let minute ← field 0 59
  skipBlanks
  mark [':']
  let second ← field 0 60
  skipFraction
  skipBlanks
  let ahead ← zone
  skipBlanks
  unless (← get).isEmpty do throw .tooLong
  let date : Date := ⟨year, month, day⟩
  unless date.isValid ∧ ahead.natAbs < dayMinutes do throw .outOfRange
  let stamp := toUniversal date hour minute second ahead
  if Date.isCounted stamp.date.year then return stamp else throw .impossible

def ofText (s : String) : Except Fault Timestamp := scan.run' s.toList

def padded (width n : Nat) : String :=
  let digits := Nat.toDigits 10 n
  String.ofList (List.replicate (width - digits.length) '0' ++ digits)

/-- A year of more or less than four digits, or before the year 0, shows its sign. -/
def yearText (year : Int) : String :=
  let sign := if year < 0 then "-" else if year < 10000 then "" else "+"
  sign ++ padded 4 year.natAbs

def text (stamp : Timestamp) : String :=
  yearText stamp.date.year ++ "-" ++ padded 2 stamp.date.month ++ "-" ++ padded 2 stamp.date.day ++
    "T" ++ padded 2 stamp.hour ++ ":" ++ padded 2 stamp.minute ++ ":" ++ padded 2 stamp.second ++
    "Z"

end Timestamp

end Readiness
