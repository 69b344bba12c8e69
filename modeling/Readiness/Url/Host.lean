import Readiness.Text.Parts
import Readiness.Text.Utf8
import Readiness.Url.Domain

/-! # Hosts

A host is named by a domain, by a number of 32 bits or by eight numbers of 16 bits between brackets.
A domain that ends in a number is a number as a whole. -/
namespace Readiness.Url

/-! ## Escaped octets

A character that has a meaning of its own in an address, or none there at all, is written as the
octets of its UTF-8, each as a percent sign and two hexadecimal digits. -/

def escapedOctet (octet : UInt8) : List Char :=
  ['%', (Nat.digitChar (octet.toNat / 16)).toUpper, (Nat.digitChar (octet.toNat % 16)).toUpper]

/-- Escapes what is not ASCII or has no shape, and the characters of `marks`. -/
def escape (marks text : List Char) : List Char :=
  text.flatMap fun c =>
    if c.toNat < 0x20 ∨ 0x7F ≤ c.toNat ∨ c ∈ marks then
      (String.utf8EncodeChar c).flatMap escapedOctet
    else [c]

/-- The octets of a text. A percent sign without two digits after it stands for itself. -/
def unescape : List Char → List UInt8
  | [] => []
  | [c] => String.utf8EncodeChar c
  | [c, d] => String.utf8EncodeChar c ++ String.utf8EncodeChar d
  | c :: d :: e :: rest =>
    match if c = '%' then Text.valueIn 16 [d, e] else none with
    | some octet => UInt8.ofNat octet :: unescape rest
    | none => String.utf8EncodeChar c ++ unescape (d :: e :: rest)

/-! ## Names -/

inductive Host where
  | domain (name : List Char)
  | number (value : Nat)
  | pieces (values : List Nat)

namespace Host

/-! ## Numbers of 32 bits -/

/-- A number in decimal, with a zero before it in octal, and behind `0x` in hexadecimal, where no
digits mean zero. -/
def part (text : List Char) : Option Nat :=
  match text with
  | [] => none
  | '0' :: 'x' :: digits => Text.valueIn 16 digits
  | '0' :: d :: digits => Text.valueIn 8 (d :: digits)
  | digits => Text.valueIn 10 digits

def withoutLastEmpty (labels : List (List Char)) : List (List Char) :=
  if labels.getLast? = some [] then labels.dropLast else labels

def endsInNumber (labels : List (List Char)) : Bool :=
  (withoutLastEmpty labels).getLast?.any fun label =>
    !label.isEmpty && label.all Char.isDigit || (part label).isSome

/-- At most four parts of an octet each, of which the last stands for the missing ones too. -/
def numberOf (labels : List (List Char)) : Option Nat := do
  let parts ← (withoutLastEmpty labels).mapM part
  let last ← parts.getLast?
  let heads := parts.dropLast
  if heads.length < 4 ∧ heads.all (· < 256) ∧ last < Nat.pow 256 (4 - heads.length) then
    some (heads.foldl (· * 256 + ·) 0 * Nat.pow 256 (4 - heads.length) + last)
  else none

def octets (value : Nat) : List Nat :=
  [value / Nat.pow 256 3 % 256, value / Nat.pow 256 2 % 256, value / 256 % 256, value % 256]

/-! ## Eight numbers of 16 bits -/

def octet (text : List Char) : Option Nat := do
  let value ← if text.isEmpty then none else Text.valueIn 10 text
  if value < 256 ∧ (text.head? = some '0' → text.length = 1) then some value else none

/-- Two pieces may be written as four octets. -/
def dotted (text : List Char) : Option (List Nat) := do
  match ← (text.splitOnP (· == '.')).mapM octet with
  | [a, b, c, d] => some [a * 256 + b, c * 256 + d]
  | _ => none

def piece (text : List Char) : Option Nat :=
  if text.isEmpty ∨ 4 < text.length then none else Text.valueIn 16 text

def piecesOf (isEnd : Bool) (text : List Char) : Option (List Nat) :=
  if text.isEmpty then some []
  else do
    let parts := text.splitOnP (· == ':')
    let last ← parts.getLast?
    let heads ← parts.dropLast.mapM piece
    let ends ← if isEnd && last.contains '.' then dotted last else (piece last).map ([·])
    some (heads ++ ends)

/-- The text before and after the first two colons in a row. -/
def cutGap : List Char → Option (List Char × List Char)
  | [] => none
  | [_] => none
  | c :: d :: rest =>
    if c = ':' ∧ d = ':' then some ([], rest)
    else (cutGap (d :: rest)).map fun (before, after) => (c :: before, after)

/-- Two colons in a row stand for at least one piece that is zero. -/
def readPieces (text : List Char) : Option (List Nat) := do
  match cutGap text with
  | none =>
    let values ← piecesOf true text
    if values.length = 8 then some values else none
  | some (before, after) =>
    let before ← piecesOf false before
    let after ← piecesOf true after
    if before.length + after.length < 8 then
      some (before ++ List.replicate (8 - before.length - after.length) 0 ++ after)
    else none

def zeros (values : List Nat) : Nat := (values.takeWhile (· == 0)).length

/-- Where the first of the longest rows of zeros begins, and its length. -/
def longestGap (values : List Nat) : Nat × Nat :=
  (List.range values.length).foldl (fun best i =>
    if best.2 < zeros (values.drop i) then (i, zeros (values.drop i)) else best) (0, 0)

def showPieces (values : List Nat) : List Char :=
  let (first, length) := longestGap values
  if length < 2 then joined values
  else joined (values.take first) ++ "::".toList ++ joined (values.drop (first + length))
where
  joined (values : List Nat) : List Char := [':'].intercalate (values.map (Nat.toDigits 16))

/-! ## Reading and showing -/

def ofLabels (labels : List (List Char)) : Option Host :=
  if endsInNumber labels then (numberOf labels).map .number
  else match ['.'].intercalate labels with
    | [] => none
    | name => some (.domain name)

def ofText (text : List Char) : Option Host :=
  match text with
  | '[' :: rest =>
    if rest.getLast? = some ']' then (readPieces rest.dropLast).map .pieces else none
  | _ => do ofLabels (← Domain.labelsOf (Text.Utf8.decode (unescape text)))

def text : Host → List Char
  | .domain name => name
  | .number value => ['.'].intercalate ((octets value).map (Nat.toDigits 10))
  | .pieces values => '[' :: (showPieces values ++ [']'])

end Host

end Readiness.Url
