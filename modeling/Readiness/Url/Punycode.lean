/-! # Punycode

A label of a domain that is not ASCII is written in ASCII all the same: first its characters that
are ASCII, then where which others have to be put between them. The numbers for that are written in
base 36 with digits of changing weight, smallest first, and a digit below its threshold ends its
number. -/
namespace Readiness.Url.Punycode

def digit (n : Nat) : Char := Char.ofNat (if n < 26 then 97 + n else 22 + n)

def digitValue (c : Char) : Option Nat :=
  if c.isDigit then some (c.toNat - 22)
  else if c.isLower then some (c.toNat - 97)
  else if c.isUpper then some (c.toNat - 65)
  else none

/-- The threshold of the digit at a place; places are counted in steps of 36. -/
def threshold (bias place : Nat) : Nat := min 26 (max 1 (place - bias))

theorem threshold_pos (bias place : Nat) : 0 < threshold bias place := by
  unfold threshold; omega

/-- The bias for numbers of the size of `delta`, in steps of 36 for each digit. -/
def settle (delta : Nat) : Nat :=
  if 455 < delta then 36 + settle (delta / 35) else 36 * delta / (delta + 38)
termination_by delta
decreasing_by omega

def adapt (delta count : Nat) (isFirst : Bool) : Nat :=
  let delta := if isFirst then delta / 700 else delta / 2
  settle (delta + delta / count)

/-- More characters than this are not written, and twice as many not read. -/
def limit : Nat := 1000

/-! ## Writing -/

def writeNumber (bias place n : Nat) : List Char :=
  let least := threshold bias place
  if n < least then [digit n]
  else digit (least + (n - least) % (36 - least)) ::
    writeNumber bias (place + 36) ((n - least) / (36 - least))
termination_by n
decreasing_by
  have := threshold_pos bias place
  exact Nat.lt_of_le_of_lt (Nat.div_le_self ..) (by omega)

/-- Where the characters with a number stand among those with at most that number. -/
def spots (number : Nat) : (before : Nat) → List Char → List Nat
  | _, [] => []
  | before, c :: rest =>
    if c.toNat = number then before :: spots number (before + 1) rest
    else spots number (if c.toNat < number then before + 1 else before) rest

/-- The characters that are put between those of ASCII, in the order of their numbers: each with
its number and its place in what is there by then. -/
def insertions (text : List Char) : List (Nat × Nat) :=
  let numbers := ((text.map Char.toNat).filter (0x80 ≤ ·)).mergeSort.eraseDups
  numbers.flatMap fun number => (spots number 0 text).map (number, ·)

/-- Writes insertions into a text of `count` characters, of which the next has at least the number
`next` and, if it has that number, a place not before `place`. -/
def writeAll (count next place bias : Nat) : List (Nat × Nat) → List Char
  | [] => []
  | (number, spot) :: rest =>
    let delta := (number - next) * (count + 1) + spot - place
    writeNumber bias 36 delta ++
      writeAll (count + 1) number (spot + 1) (adapt delta (count + 1) (place = 0)) rest

def encode (text : List Char) : Option (List Char) :=
  let basics := text.filter (·.toNat < 0x80)
  let lead := if basics.isEmpty then [] else basics ++ ['-']
  if text.length ≤ limit then some (lead ++ writeAll basics.length 0x80 0 72 (insertions text))
  else none

/-! ## Reading -/

def readNumber (bias place weight value : Nat) : List Char → Option (Nat × List Char)
  | [] => none
  | c :: rest => do
    let n ← digitValue c
    let value := value + n * weight
    let least := threshold bias place
    if n < least then some (value, rest)
    else readNumber bias (place + 36) (weight * (36 - least)) value rest

theorem length_of_readNumber {bias place weight value n : Nat} {text rest : List Char}
    (h : readNumber bias place weight value text = some (n, rest)) : rest.length < text.length := by
  induction text generalizing place weight value with
  | nil => simp [readNumber] at h
  | cons c more ih =>
    cases hc : digitValue c with
    | none => simp [readNumber, hc] at h
    | some d =>
      simp only [readNumber, hc, bind, Option.bind] at h
      split at h
      · simp only [Option.some.injEq, Prod.mk.injEq] at h
        simp [h.2]
      · exact Nat.lt_succ_of_lt (ih h)

/-- Puts characters into `text`, of which the next has at least the number `next` and, if it has
that number, a place not before `place`. -/
def putAll (text : List Char) (next place bias : Nat) (code : List Char) : Option (List Char) :=
  match code with
  | [] => some text
  | c :: rest =>
    match _h : readNumber bias 36 1 place (c :: rest) with
    | none => none
    | some (value, rest') =>
      let count := text.length + 1
      let number := next + value / count
      if number.isValidChar then
        putAll (text.insertIdx (value % count) (Char.ofNat number)) number (value % count + 1)
          (adapt (value - place) count (place = 0)) rest'
      else none
termination_by code.length
decreasing_by exact length_of_readNumber ‹readNumber _ _ _ _ _ = _›

def decode (code : List Char) : Option (List Char) :=
  let tail := (code.reverse.takeWhile (· != '-')).reverse
  let basics := code.take (code.length - tail.length - 1)
  if limit * 2 < code.length ∨ basics.any (0x80 ≤ ·.toNat) then none
  else if basics.isEmpty then putAll [] 0x80 0 72 code
  else putAll basics 0x80 0 72 tail

end Readiness.Url.Punycode
