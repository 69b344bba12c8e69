import Readiness.Text.Parts

/-! # Versions of a group

A version is stable, a beta or an alpha, or something else. Of two versions the more stable one
comes first, then the newer one. -/
namespace Readiness.Api

inductive Stability where
  | other
  | alpha
  | beta
  | stable
  deriving DecidableEq, Repr

def Stability.rank : Stability → Nat
  | other => 0
  | alpha => 1
  | beta => 2
  | stable => 3

/-- A version without a minor number has the minor number 0, any other one more than it says. -/
structure Version where
  stability : Stability
  major : Nat
  minor : Nat
  name : String
  deriving DecidableEq, Repr

namespace Version

def wordBound : Nat := UInt32.size

def afterWord (word : String) (text : List Char) : Option (List Char) :=
  if word.toList.isPrefixOf text then some (text.drop word.length) else none

def minorOf (text : List Char) : Option Nat :=
  if text.isEmpty then some 0 else (Text.readNumeral wordBound text).map (· + 1)

/-- The stability and the minor number that follow the major number. -/
def suffix (text : List Char) : Option (Stability × Nat) :=
  match text, afterWord "alpha" text, afterWord "beta" text with
  | [], _, _ => some (.stable, 0)
  | _, some rest, _ => (minorOf rest).map (.alpha, ·)
  | _, none, some rest => (minorOf rest).map (.beta, ·)
  | _, none, none => none

def ofText (s : String) : Version :=
  let other : Version := ⟨.other, 0, 0, s⟩
  match s.toList with
  | 'v' :: rest =>
    match Text.readNumeral wordBound (rest.takeWhile Char.isDigit),
        suffix (rest.dropWhile Char.isDigit) with
    | some major, some (stability, minor) => ⟨stability, major, minor, s⟩
    | _, _ => other
  | _ => other

/-- Whether `a` goes before `b` when the better version comes first, equal ones keeping their
order. -/
def notAfter (a b : Version) : Bool :=
  if a.stability ≠ b.stability then b.stability.rank < a.stability.rank
  else if a.stability = .other then !decide (b.name < a.name)
  else if a.major ≠ b.major then b.major < a.major
  else b.minor ≤ a.minor

end Version

end Readiness.Api
