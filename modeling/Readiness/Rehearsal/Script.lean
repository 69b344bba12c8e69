import Readiness.Poll.Timeline

/-! # Scripted readings

A source that answers from scripts, one for each key. A script gives its answers by the time or by
the number of the fetch. -/
namespace Readiness.Rehearsal

structure Entry where
  result : Except FetchError String
  arrival : Poll.Arrival

inductive Script where
  /-- Each entry holds from its instant on; of those that hold, the last in the list is given. -/
  | timed (entries : List (Instant × Entry))
  /-- The last entry is repeated. -/
  | counted (entries : List Entry)

/-- The element of a list for the `n`-th turn, where the last one is repeated. -/
def turn {α : Type} (n : Nat) (xs : List α) : Option α := xs[min n (xs.length - 1)]?

def Script.entry? (script : Script) (now : Instant) (fetches : Nat) : Option Entry :=
  match script with
  | timed entries => ((entries.filter (·.1 ≤ now)).getLast?).map (·.2)
  | counted entries => turn fetches entries

abbrev Tally := Ledger Nat

def Tally.count (tally : Tally) (key : String) : Nat := (tally.get? key).getD 0

def Tally.mark (tally : Tally) (key : String) : Tally := tally.put key (tally.count key + 1)

/-- The scripted answer to a query; a key without an entry names nothing. -/
def scripted (scripts : List (String × Script)) (q : Query) (now : Instant) (tally : Tally) :
    Poll.Arrival × Except FetchError Reading × Tally :=
  let entry := (scripts.lookup q.key).bind fun script => script.entry? now (tally.count q.key)
  match entry with
  | none => (.ready, .error (.notFound q.text), tally.mark q.key)
  | some entry => (entry.arrival, entry.result.map (⟨q.name, ·⟩), tally.mark q.key)

end Readiness.Rehearsal
