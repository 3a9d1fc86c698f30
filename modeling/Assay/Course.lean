/-!
# Courses

What is done step by step on a state that others change as well. A step reads
and changes the state at once; what is done between two steps of a course is up
to the others.
-/

namespace Assay

inductive Course (σ α : Type) : Type 1 where
  | done (result : α)
  | step {β : Type} (act : σ → β × σ) (next : β → Course σ α)

namespace Course

variable {σ α β : Type}

protected def bind : Course σ α → (α → Course σ β) → Course σ β
  | done result, next => next result
  | step act rest, next => step act fun value => (rest value).bind next

instance : Monad (Course σ) where
  pure := done
  bind := Course.bind

def act (act : σ → α × σ) : Course σ α :=
  step act done

def look (see : σ → α) : Course σ α :=
  act fun state => (see state, state)

def change (move : σ → σ) : Course σ Unit :=
  act fun state => ((), move state)

/-- Takes all steps, with nothing done between them. -/
def run : Course σ α → σ → α × σ
  | done result, state => (result, state)
  | step act next, state =>
    let (value, state) := act state
    (next value).run state

end Course

/-- Whose turn it is: a worker takes a step, or a report that was sent is taken in. -/
inductive Move where
  | work (worker : Nat)
  | receive (position : Nat)
  deriving DecidableEq, Repr

/-- All workers in turn, and after them a report, a number of times. -/
def Move.rounds (workers count : Nat) : List Move :=
  (List.replicate count ((List.range workers).map .work ++ [.receive 0])).flatten

end Assay
