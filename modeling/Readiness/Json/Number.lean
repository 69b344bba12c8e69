import Readiness.Json.Binary64
import Readiness.Text.Parts

/-! # Numbers of a document

A whole number that fits a word of 64 bits, with or without a sign, is kept as it is; every other
number is a binary one, and reading it may round more than once: the digits that a word can hold
become the nearest binary number, which is then multiplied or divided by a power of ten. -/
namespace Readiness.Json

inductive Number where
  | whole (value : Int)
  | real (value : Binary64)
  deriving DecidableEq, Repr

namespace Number

/-- The parts of a written number: its sign, the digits before the point, those after it and the
exponent. -/
structure Written where
  negative : Bool
  whole : List Char
  fraction : Option (List Char)
  exponent : Option Int

/-- Takes digits into a word of 64 bits as long as it can hold them, and leaves the rest. -/
def gather (word : Nat) : List Char → Nat × List Char
  | [] => (word, [])
  | digit :: rest =>
    let longer := word * 10 + Text.digitsValue [digit]
    if longer < Text.wordBound then gather longer rest else (word, digit :: rest)

/-- The digits that count, with the exponent that makes up for the others. A digit before the point
that is not counted still multiplies by ten. -/
def Written.gathered (w : Written) : Nat × Int :=
  let fraction := w.fraction.getD []
  let (whole, uncounted) := gather 0 w.whole
  let (word, ignored) := gather whole fraction
  (word, uncounted.length + ignored.length - fraction.length + w.exponent.getD 0)

def greatestPower : Nat := 308

def powerOfTen (n : Nat) : Option Binary64 := Binary64.ofNat (Nat.pow 10 n)

/-- `x * 10 ^ exponent`, divided in steps when one power of ten is not enough. Two such steps leave
nothing of a word. -/
def scale (x : Binary64) (exponent : Int) : (steps : Nat) → Option Binary64
  | 0 => some (.zero false)
  | steps + 1 =>
    if exponent.natAbs ≤ greatestPower then do
      let power ← powerOfTen exponent.natAbs
      if 0 ≤ exponent then x.mul power else x.div power
    else if x.significand = 0 then some x
    else if 0 ≤ exponent then none
    else do scale (← x.div (← powerOfTen greatestPower)) (exponent + greatestPower) steps

def Written.real (w : Written) : Option Number := do
  let (word, exponent) := w.gathered
  let magnitude ← scale (← Binary64.ofNat word) exponent 3
  return .real { magnitude with negative := w.negative }

/-- A number without point and exponent stays whole, except for the negative zero. -/
def ofWritten (w : Written) : Option Number :=
  match w.fraction, w.exponent with
  | none, none =>
    let value : Int := Text.digitsValue w.whole
    if w.negative then
      if value ≠ 0 ∧ value ≤ Nat.pow 2 63 then some (.whole (-value)) else w.real
    else if value < UInt64.size then some (.whole value) else w.real
  | _, _ => w.real

/-- Numbers below `10 ^ 16` and not below `10 ^ -5` are written with a point and no exponent. -/
def decimalText (d : Decimal) : String :=
  let digits := Nat.toDigits 10 d.digits
  let point := d.exponent + digits.length
  let zeros (n : Int) := List.replicate n.toNat '0'
  if 0 ≤ d.exponent ∧ point ≤ 16 then String.ofList (digits ++ zeros d.exponent) ++ ".0"
  else if 0 < point ∧ point ≤ 16 then
    String.ofList (digits.take point.toNat ++ '.' :: digits.drop point.toNat)
  else if -5 < point ∧ point ≤ 0 then "0." ++ String.ofList (zeros (-point) ++ digits)
  else
    let mantissa := match digits with
      | first :: second :: rest => first :: '.' :: second :: rest
      | short => short
    String.ofList mantissa ++ (if 0 < point then "e+" else "e") ++ toString (point - 1)

def text : Number → String
  | whole value => toString value
  | real x =>
    let sign := if x.negative then "-" else ""
    sign ++ if x.significand = 0 then "0.0" else decimalText x.shortest

end Number

end Readiness.Json
