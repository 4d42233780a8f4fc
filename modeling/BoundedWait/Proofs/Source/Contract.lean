import BoundedWait.Proofs.Calm
import BoundedWait.Proofs.Wait.Assertion
import BoundedWait.Predicate

namespace BoundedWait

variable {σ : Type}

namespace Source

variable {host : Host σ} {s : σ} {type : Option String} {result : Except Fault Value}

variable {d : Nat}

end Source

-- A world in which every operation hands out a source, and a match on such a source.

def Invocation.opening : Invocation :=
  .mk (.operation (.callable (.mk 0 "<open>" none none none))) [] [] []

namespace Source

def opened : Source :=
  .invoking (.direct (.text "box")) .opening

def found : Source :=
  .matching 0 opened (.predicate (.isNotNone 0)) none

end Source

-- An operation that hands out the very source that it is an operation of, and a type that cannot be
-- checked.

namespace Source

def declared : Source :=
  .accessor (.callable (.mk 0 "<open>" none none none)) (some "Readable") [] false none

end Source

end BoundedWait
