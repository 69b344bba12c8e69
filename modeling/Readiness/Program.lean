/-! # Programs over requests

A program asks the world around it for one thing after another and decides what comes next from
the answers. What it may ask is a type of requests; what an answer holds depends on the request.
One program can be run in any world that answers, and what it asks can be spoken of for all
answers at once. -/
namespace Readiness

inductive Program (ρ : Type) (Answer : ρ → Type) (α : Type) where
  | done (value : α)
  | ask (request : ρ) (next : Answer request → Program ρ Answer α)

namespace Program

variable {ρ ρ' σ α β : Type} {Answer : ρ → Type} {Answer' : ρ' → Type}

def bind : Program ρ Answer α → (α → Program ρ Answer β) → Program ρ Answer β
  | done value, f => f value
  | ask request next, f => ask request fun answer => (next answer).bind f

instance : Monad (Program ρ Answer) where
  pure := done
  bind := bind

def perform (request : ρ) : Program ρ Answer (Answer request) := ask request done

def isDone : Program ρ Answer α → Bool
  | done _ => true
  | ask _ _ => false

/-- Each request is carried out by a program of its own over other requests. -/
def handle (carryOut : (request : ρ) → Program ρ' Answer' (Answer request)) :
    Program ρ Answer α → Program ρ' Answer' α
  | done value => done value
  | ask request next => (carryOut request).bind fun answer => (next answer).handle carryOut

/-- The run of a program in a world that answers each request in its present state, or never. -/
def run (world : (request : ρ) → σ → Option (Answer request × σ)) :
    Program ρ Answer α → σ → Option (α × σ)
  | done value, state => some (value, state)
  | ask request next, state =>
    match world request state with
    | none => none
    | some (answer, state') => (next answer).run world state'

/-- Every request the program can make, whatever it is answered, is `allowed`. -/
def Uses (allowed : ρ → Prop) : Program ρ Answer α → Prop
  | done _ => True
  | ask request next => allowed request ∧ ∀ answer, (next answer).Uses allowed

/-- Every value the program can end with, whatever it is answered, is `expected`. -/
def Ends (expected : α → Prop) : Program ρ Answer α → Prop
  | done value => expected value
  | ask _ next => ∀ answer, (next answer).Ends expected

end Program

end Readiness
