/-! # Instants and durations

Both are counted in nanoseconds, an instant from the start of the clock. -/
namespace Readiness

abbrev Instant := Nat

abbrev Duration := Nat

namespace Duration

def ofMillis (ms : Nat) : Duration := ms * 1000000

def ofSecs (secs : Nat) : Duration := secs * 1000000000

def toMillis (d : Duration) : Nat := d / 1000000

/-- No wait lasts longer than thirty years. -/
def longestWait : Duration := ofSecs (30 * 365 * 24 * 60 * 60)

def waited (d : Duration) : Duration := min d longestWait

/-- The digits of `part` after the point, `places` of them, without the zeros at the end. -/
def fraction (places part : Nat) : List Char :=
  let digits := Nat.toDigits 10 part
  let padded := List.replicate (places - digits.length) '0' ++ digits
  (padded.reverse.dropWhile (· == '0')).reverse

/-- `d` in a unit of `10 ^ places` nanoseconds. -/
def inUnit (places : Nat) (unit : String) (d : Duration) : String :=
  let whole := toString (d / Nat.pow 10 places)
  match fraction places (d % Nat.pow 10 places) with
  | [] => whole ++ unit
  | digits => whole ++ "." ++ String.ofList digits ++ unit

/-- A duration in the largest of the units s, ms, µs and ns of which it holds at least one. -/
def text (d : Duration) : String :=
  if 1000000000 ≤ d then inUnit 9 "s" d
  else if 1000000 ≤ d then inUnit 6 "ms" d
  else if 1000 ≤ d then inUnit 3 "µs" d
  else inUnit 0 "ns" d

end Duration

end Readiness
