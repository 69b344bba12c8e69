import Readiness.Text.Classes

/-! # Quoted texts

A text in double quotes in which every character can be told from every other: a report shows raw
states this way. The quote, the backslash and four control characters are written with a
backslash, hidden characters by their number, all others as they are. -/
namespace Readiness.Text

namespace Quoted

def hex (n : Nat) : List Char := Nat.toDigits 16 n

def escape (c : Char) : List Char :=
  match c with
  | '\x00' => ['\\', '0']
  | '\t' => ['\\', 't']
  | '\r' => ['\\', 'r']
  | '\n' => ['\\', 'n']
  | '\\' => ['\\', '\\']
  | '"' => ['\\', '"']
  | c => if isHidden c then '\\' :: 'u' :: '\x7b' :: (hex c.toNat ++ ['\x7d']) else [c]

def encode (text : List Char) : List Char := '"' :: (text.flatMap escape ++ ['"'])

end Quoted

def quoted (s : String) : String := String.ofList (Quoted.encode s.toList)

/-- Quoted texts between brackets, separated by a comma and a space. -/
def quotedList (texts : List String) : String :=
  "[" ++ String.intercalate ", " (texts.map quoted) ++ "]"

/-- How a text that may be missing is shown: `None`, or `Some` and the text in quotes. -/
def quotedOption : Option String → String
  | none => "None"
  | some s => "Some(" ++ quoted s ++ ")"

end Readiness.Text
