/-! # Parts of texts

What is read out of a text: its words, its lines, what stands before a mark, the names of a list
and numbers. The blanks are the characters with the Unicode property White_Space. Texts are lists of
characters here; the versions on `String` carry them over. -/
namespace Readiness.Text

/-- The Unicode property White_Space, which has 25 members. -/
def isBlank (c : Char) : Bool :=
  let n := c.toNat
  (9 ≤ n && n ≤ 13) || n == 0x20 || n == 0x85 || n == 0xA0 || n == 0x1680 ||
  (0x2000 ≤ n && n ≤ 0x200A) || n == 0x2028 || n == 0x2029 || n == 0x202F || n == 0x205F ||
  n == 0x3000

def trimStart (text : List Char) : List Char := text.dropWhile isBlank

def trimEnd (text : List Char) : List Char := (text.reverse.dropWhile isBlank).reverse

def trim (text : List Char) : List Char := trimEnd (trimStart text)

def trimmed (s : String) : String := String.ofList (trim s.toList)

def isAllBlank (s : String) : Bool := s.toList.all isBlank

/-- The maximal runs of characters that are not blank. -/
def words (text : List Char) : List (List Char) :=
  (text.splitOnP isBlank).filter fun word => !word.isEmpty

def wordsOf (s : String) : List String := (words s.toList).map String.ofList

/-- A line feed may be preceded by one carriage return that belongs to it. -/
def dropReturn (line : List Char) : List Char :=
  if line.getLast? = some '\r' then line.dropLast else line

/-- Every piece but the last was ended by a line feed; the last one is a line only if it holds
something. -/
def closeLines : List (List Char) → List (List Char)
  | [] => []
  | [last] => if last.isEmpty then [] else [last]
  | piece :: rest => dropReturn piece :: closeLines rest

def lines (text : List Char) : List (List Char) := closeLines (text.splitOnP (· == '\n'))

/-! ## Cutting and searching -/

/-- The text before and after the first occurrence of `mark`. -/
def cut (mark : Char) : List Char → Option (List Char × List Char)
  | [] => none
  | c :: rest =>
    if c = mark then some ([], rest)
    else (cut mark rest).map fun (before, after) => (c :: before, after)

def cutOf (mark : Char) (s : String) : Option (String × String) :=
  (cut mark s.toList).map fun (before, after) => (String.ofList before, String.ofList after)

def afterLast (mark : Char) (text : List Char) : List Char :=
  (text.reverse.takeWhile (· != mark)).reverse

def hasPart (part : List Char) : List Char → Bool
  | [] => part.isEmpty
  | c :: rest => part.isPrefixOf (c :: rest) || hasPart part rest

def contains (s part : String) : Bool := hasPart part.toList s.toList

def startsWith (s lead : String) : Bool := lead.toList.isPrefixOf s.toList

def endsWith (s tail : String) : Bool := tail.toList.isSuffixOf s.toList

theorem hasPart_iff {part text : List Char} : hasPart part text = true ↔ part <:+: text := by
  induction text with
  | nil => simp [hasPart, List.infix_nil]
  | cons c rest ih => simp [hasPart, ih, List.infix_cons_iff]

/-! ## Letters of ASCII

Kinds, settings and error texts of a cluster compare without regard to the case of the letters
`A` to `Z`; every other character stands for itself. -/

def lower (s : String) : String := String.ofList (s.toList.map Char.toLower)

def sameIgnoringCase (a b : String) : Bool :=
  a.toList.map Char.toLower == b.toList.map Char.toLower

/-! ## Lists of names

Names written one after another, separated by commas and ampersands. Blanks around a name do not
belong to it, and between two separators there need not be a name. -/

def separatesNames (c : Char) : Bool := c == ',' || c == '&'

def nameList (text : List Char) : List (List Char) :=
  ((text.splitOnP separatesNames).map trim).filter fun name => !name.isEmpty

def nameListOf (s : String) : List String := (nameList s.toList).map String.ofList

/-! ## Whole numbers

A count in a setting or a subscript is an optional plus sign and ASCII digits, with a value below
`2 ^ 64`. Elsewhere digits are of another base. -/

def digitsValue (digits : List Char) : Nat :=
  digits.foldl (fun value d => value * 10 + (d.toNat - '0'.toNat)) 0

/-- Reads an optional plus sign and at least one digit, the value staying below `bound`. -/
def readNumeral (bound : Nat) (text : List Char) : Option Nat :=
  let digits := match text with
    | '+' :: rest => rest
    | rest => rest
  if digits ≠ [] ∧ digits.all Char.isDigit ∧ digitsValue digits < bound then
    some (digitsValue digits)
  else none

def wordBound : Nat := UInt64.size

def hexValue (c : Char) : Option Nat :=
  if c.isDigit then some (c.toNat - 48)
  else if 'a' ≤ c ∧ c ≤ 'f' then some (c.toNat - 87)
  else if 'A' ≤ c ∧ c ≤ 'F' then some (c.toNat - 55)
  else none

/-- The value of digits in a base of at most sixteen. -/
def valueIn (base : Nat) (digits : List Char) : Option Nat :=
  digits.foldlM (fun value c => ((hexValue c).filter (· < base)).map (value * base + ·)) 0

end Readiness.Text
