/-! # Finite binary numbers of 64 bits

The numbers `± significand * 2 ^ exponent` with a significand of 53 bits. A fraction, and so a
product or a quotient, becomes the nearest of them; one of them is written with the fewest decimal
digits that lead back to it. All arithmetic is exact, on natural numbers. -/
namespace Readiness.Json

/-- A significand below `2 ^ 52` goes with the least exponent, `-1074`. -/
structure Binary64 where
  negative : Bool
  significand : Nat
  exponent : Int
  deriving DecidableEq, Repr

/-- A positive decimal `digits * 10 ^ exponent`. -/
structure Decimal where
  digits : Nat
  exponent : Int
  deriving DecidableEq, Repr

structure Fraction where
  num : Nat
  den : Nat

namespace Fraction

def scaled (n base : Nat) (exponent : Int) : Fraction :=
  if 0 ≤ exponent then ⟨n * base.pow exponent.toNat, 1⟩ else ⟨n, base.pow (-exponent).toNat⟩

def unscale (x : Fraction) (base : Nat) (exponent : Int) : Fraction :=
  if 0 ≤ exponent then ⟨x.num, x.den * base.pow exponent.toNat⟩
  else ⟨x.num * base.pow (-exponent).toNat, x.den⟩

def floor (x : Fraction) : Nat := x.num / x.den

def round (x : Fraction) : Nat :=
  let whole := x.num / x.den
  let rest := x.num % x.den
  if 2 * rest < x.den then whole
  else if x.den < 2 * rest then whole + 1
  else whole + whole % 2

def le (x y : Fraction) : Bool := x.num * y.den ≤ y.num * x.den

def lt (x y : Fraction) : Bool := x.num * y.den < y.num * x.den

end Fraction

namespace Binary64

def leastExponent : Int := -1074

def greatestExponent : Int := 971

def zero (negative : Bool) : Binary64 := ⟨negative, 0, leastExponent⟩

/-- The exponent at which a positive number has a significand of 53 bits, or the least one. -/
def exponentOf (x : Fraction) : Int :=
  let low := max ((Nat.log2 x.num : Int) - Nat.log2 x.den - 53) leastExponent
  if (x.unscale 2 low).floor < Nat.pow 2 53 then low else low + 1

/-- The nearest number to a fraction; `none` when it is too large. -/
def ofFraction (negative : Bool) (x : Fraction) : Option Binary64 :=
  if x.num = 0 then some (zero negative)
  else
    let exponent := exponentOf x
    let significand := (x.unscale 2 exponent).round
    let (significand, exponent) :=
      if significand = Nat.pow 2 53 then (Nat.pow 2 52, exponent + 1) else (significand, exponent)
    if exponent ≤ greatestExponent then some ⟨negative, significand, exponent⟩ else none

def ofNat (n : Nat) : Option Binary64 := ofFraction false ⟨n, 1⟩

def mul (x y : Binary64) : Option Binary64 :=
  ofFraction (x.negative != y.negative)
    (.scaled (x.significand * y.significand) 2 (x.exponent + y.exponent))

def div (x y : Binary64) : Option Binary64 :=
  let quotient := Fraction.scaled x.significand 2 (x.exponent - y.exponent)
  ofFraction (x.negative != y.negative) ⟨quotient.num, quotient.den * y.significand⟩

/-- Whether a number between the neighbours of `x` is nearer to `x` than to them; the border goes to
`x` when its significand is even. Borders are counted in quarters of the last place, because the
lower one is nearer at a power of two. -/
def covers (x : Binary64) (y : Fraction) : Bool :=
  let quarter := x.exponent - 2
  let low := if x.significand = Nat.pow 2 52 ∧ leastExponent < x.exponent then 1 else 2
  let lower := Fraction.scaled (4 * x.significand - low) 2 quarter
  let upper := Fraction.scaled (4 * x.significand + 2) 2 quarter
  if x.significand % 2 = 0 then lower.le y && y.le upper else lower.lt y && y.lt upper

def magnitude (x : Binary64) : Fraction := .scaled x.significand 2 x.exponent

/-- The greatest `e` with `10 ^ e ≤ x`, found downwards from `top`. -/
def decimalExponent (x : Fraction) (top : Int) : Nat → Int
  | 0 => top
  | steps + 1 =>
    if (Fraction.scaled 1 10 top).le x then top else decimalExponent x (top - 1) steps

/-- The nearer of the two neighbours of `x` among the multiples of `10 ^ exponent` that lead back
to `x`. -/
def candidate (x : Binary64) (exponent : Int) : Option Decimal :=
  let parts := x.magnitude.unscale 10 exponent
  let below := parts.floor
  let leadsBack n := x.covers (.scaled n 10 exponent)
  match leadsBack below, leadsBack (below + 1) with
  | true, true => some ⟨parts.round, exponent⟩
  | true, false => some ⟨below, exponent⟩
  | false, true => some ⟨below + 1, exponent⟩
  | false, false => none

/-- The first grid with a candidate, of the grids from `10 ^ exponent` on that are each ten times
finer than the one before. -/
def firstCandidate (x : Binary64) (exponent : Int) : Nat → Decimal
  | 0 => ⟨(x.magnitude.unscale 10 exponent).round, exponent⟩
  | grids + 1 => (x.candidate exponent).getD (x.firstCandidate (exponent - 1) grids)

def dropZeros (d : Decimal) : Nat → Decimal
  | 0 => d
  | steps + 1 => if d.digits % 10 = 0 then dropZeros ⟨d.digits / 10, d.exponent + 1⟩ steps else d

/-- The decimal with the fewest digits that leads back to a number other than zero, and of those
the nearest one. Seventeen digits suffice. -/
def shortest (x : Binary64) : Decimal :=
  dropZeros (x.firstCandidate (decimalExponent x.magnitude 309 640) 16) 17

end Binary64

end Readiness.Json
