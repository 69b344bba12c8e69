/-! # Octets as text

What a command writes is a list of octets, read as UTF-8. Octets that are no text are not refused:
each longest part that starts a character without completing it becomes one replacement
character. -/
namespace Readiness.Text.Utf8

def replacement : Char := '\uFFFD'

def isFollower (b : UInt8) : Bool := 0x80 ≤ b && b ≤ 0xBF

/-- Whether `b` may come second after the first octet `lead`: no overlong form, no surrogate and
nothing above U+10FFFF starts that way. -/
def maySecond (lead : Nat) (b : UInt8) : Bool :=
  isFollower b &&
    match lead with
    | 0xE0 => 0xA0 ≤ b
    | 0xED => b ≤ 0x9F
    | 0xF0 => 0x90 ≤ b
    | 0xF4 => b ≤ 0x8F
    | _ => true

def complete : (owed : Nat) → (value : Nat) → List UInt8 → Char × List UInt8
  | 0, value, rest => (Char.ofNat value, rest)
  | _ + 1, _, [] => (replacement, [])
  | owed + 1, value, b :: rest =>
    if isFollower b then complete owed (value * 64 + b.toNat % 64) rest
    else (replacement, b :: rest)

/-- How many octets follow `lead`, and the bits it brings; `none` when no character starts so. -/
def start (lead : Nat) : Option (Nat × Nat) :=
  if lead < 0x80 then some (0, lead)
  else if 0xC2 ≤ lead ∧ lead ≤ 0xDF then some (1, lead - 0xC0)
  else if 0xE0 ≤ lead ∧ lead ≤ 0xEF then some (2, lead - 0xE0)
  else if 0xF0 ≤ lead ∧ lead ≤ 0xF4 then some (3, lead - 0xF0)
  else none

/-- The first character of the octets `lead :: rest`, and the octets after it. -/
def next (lead : UInt8) (rest : List UInt8) : Char × List UInt8 :=
  match start lead.toNat, rest with
  | none, _ => (replacement, rest)
  | some (0, value), _ => complete 0 value rest
  | some (_ + 1, _), [] => (replacement, [])
  | some (owed + 1, value), b :: more =>
    if maySecond lead.toNat b then complete (owed + 1) value (b :: more) else (replacement, rest)

theorem length_complete_le (owed value : Nat) (rest : List UInt8) :
    (complete owed value rest).2.length ≤ rest.length := by
  fun_induction complete owed value rest with
  | case1 => simp
  | case2 => simp
  | case3 _ _ _ _ _ ih => simp; omega
  | case4 => simp

theorem length_next_le (lead : UInt8) (rest : List UInt8) :
    (next lead rest).2.length ≤ rest.length := by
  unfold next
  split
  · simp
  · exact length_complete_le ..
  · simp
  · split
    · exact length_complete_le ..
    · simp

def decode : List UInt8 → List Char
  | [] => []
  | lead :: rest => (next lead rest).1 :: decode (next lead rest).2
termination_by octets => octets.length
decreasing_by
  have := length_next_le lead rest
  simp; omega

def encode (s : String) : List UInt8 := s.toList.flatMap String.utf8EncodeChar

def decoded (octets : List UInt8) : String := String.ofList (decode octets)

end Readiness.Text.Utf8
