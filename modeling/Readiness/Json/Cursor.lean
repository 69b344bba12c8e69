/-! # Cursors

Where a reader stands in a text: the characters ahead, and the place counted in lines and in the
octets of UTF-8 before it in its line. -/
namespace Readiness.Json

/-- Lines are counted from one, columns from zero. -/
structure Position where
  line : Nat
  column : Nat
  deriving DecidableEq, Repr

structure Cursor where
  rest : List Char
  place : Position

namespace Position

def start : Position := ⟨1, 0⟩

def newLine (place : Position) : Position := ⟨place.line + 1, 0⟩

def after (place : Position) (c : Char) : Position :=
  if c = '\n' then place.newLine else ⟨place.line, place.column + c.utf8Size⟩

def text (place : Position) : String :=
  "line " ++ toString place.line ++ " column " ++ toString place.column

end Position

namespace Cursor

def ofText (s : String) : Cursor := ⟨s.toList, .start⟩

/-- The cursor after the characters of `text`, which are ahead. -/
def pass (cursor : Cursor) (text : List Char) : Cursor :=
  ⟨cursor.rest.drop text.length, text.foldl Position.after cursor.place⟩

def passWhile (p : Char → Bool) (cursor : Cursor) : Cursor := cursor.pass (cursor.rest.takeWhile p)

def isBlank (c : Char) : Bool := c == ' ' || c == '\t' || c == '\n' || c == '\r'

def skipBlanks (cursor : Cursor) : Cursor := cursor.passWhile isBlank

/-- The place after some of the octets ahead, which may be in the middle of a character. -/
def octetsAhead (n : Nat) : List Char → Position → Position
  | [], place => place
  | c :: rest, place =>
    if n = 0 then place
    else if c.utf8Size ≤ n then octetsAhead (n - c.utf8Size) rest (place.after c)
    else ⟨place.line, place.column + n⟩

def placeAfter (cursor : Cursor) (octets : Nat) : Position :=
  octetsAhead octets cursor.rest cursor.place

def next (cursor : Cursor) : Position := cursor.placeAfter 1

end Cursor

end Readiness.Json
