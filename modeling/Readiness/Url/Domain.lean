import Readiness.Text.Folded
import Readiness.Text.Joining
import Readiness.Url.Punycode

/-! # Domains

The name of a host is a list of labels between points. It is compared in ASCII: neither the case
nor the style of its letters counts, and a label with other letters is written in Punycode behind
`xn--`. A name that could not be told from others when it is shown is refused. -/
namespace Readiness.Url.Domain

/-- The one of the texts that stand for each other by which they are compared. -/
def standard (text : List Char) : List Char := Text.composed (text.flatMap Text.folded)

def isAscii (c : Char) : Bool := c.toNat < 0x80

/-- Characters of ASCII that have a meaning elsewhere in an address. -/
def reserved : List Char := " %#/:<>?@[\\]^|".toList

/-- Signs that stand for an object or for a character that is missing, or that describe how a
character is put together. -/
def isSubstitute (c : Char) : Bool :=
  let n := c.toNat
  n == 0xFFFC || n == 0xFFFD || n == 0x31EF || 0x2FF0 ≤ n && n ≤ 0x2FFF

def mayStand (c : Char) : Bool :=
  !reserved.contains c && !(Text.isHidden c && !Text.isWordChar c) && !isSubstitute c

def isLabel (label : List Char) : Bool :=
  label.all mayStand && !label.head?.any Text.isMark && Text.joinersFit [] label

/-- Where a name has letters or digits of a script from right to left, every label must keep its
place. -/
def isSteady (labels : List (List Char)) : Bool :=
  let directions := labels.map (·.map Text.direction)
  !directions.flatten.any [.rightToLeft, .arabicDigit].contains ||
    directions.all Text.Direction.isSteady

def unveil : List Char → Option (List Char)
  | 'x' :: 'n' :: '-' :: '-' :: code => do
    let label ← Punycode.decode code
    if label.all isAscii ∨ standard label ≠ label then none else some label
  | label => some label

def veil (label : List Char) : Option (List Char) :=
  if label.all isAscii then some label else (Punycode.encode label).map ("xn--".toList ++ ·)

/-- A sign with a point in it, which separates no labels. -/
def hidesPoint (c : Char) : Bool :=
  !".。．｡".toList.contains c && (Text.folded c).contains '.'

def labelsOf (name : List Char) : Option (List (List Char)) := do
  let labels ← ((standard name).splitOnP (· == '.')).mapM unveil
  if !name.any hidesPoint && labels.all isLabel && isSteady labels then labels.mapM veil else none

end Readiness.Url.Domain
