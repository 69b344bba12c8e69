import Readiness.Text.Parts
import Readiness.Text.Quoted
import Readiness.Time

/-! # Plans of a poll

What is waited for, how often it is looked at and for how long. What is waited for is a condition: a
test of a state, with the words that describe it in a report. -/
namespace Readiness

structure Condition where
  description : String
  holds : String → Bool

namespace Condition

def equals (expected : String) : Condition := ⟨"== " ++ expected, (· == expected)⟩

def contains (part : String) : Condition := ⟨"contains " ++ part, (Text.contains · part)⟩

def excludes (part : String) : Condition :=
  ⟨"does not contain " ++ part, fun state => !Text.contains state part⟩

def nonEmpty : Condition := ⟨"is non-empty", fun state => !Text.isAllBlank state⟩

def present : Condition := ⟨"is present", fun _ => true⟩

def oneOf (accepted : List String) : Condition :=
  ⟨"one of " ++ Text.quotedList accepted, accepted.contains⟩

def both (a b : Condition) : Condition :=
  ⟨a.description ++ " and " ++ b.description, fun state => a.holds state && b.holds state⟩

def quotedText (c : Condition) : String := "StatePredicate(" ++ Text.quoted c.description ++ ")"

end Condition

namespace Poll

structure Plan where
  condition : Condition
  interval : Duration := Duration.ofSecs 5
  timeout : Duration := Duration.ofSecs 60

/-- The number of rounds after which a poll has ended for certain. A pause of no length leaves the
clock alone, and then only the 32 bits of the counter of attempts bound the rounds. -/
def Plan.roundLimit (plan : Plan) : Nat :=
  if plan.interval = 0 then UInt32.size - 1 else plan.timeout / Duration.waited plan.interval + 1

end Poll

end Readiness
