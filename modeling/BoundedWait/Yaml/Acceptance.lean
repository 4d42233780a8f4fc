import BoundedWait.Act
import BoundedWait.Value.Printer
import BoundedWait.Yaml.Printer

namespace BoundedWait

namespace Yaml

namespace Acceptance

def deepest : Nat := 323

def namedType : String := "mappingproxy"

def level (room : Nat) : Except Fault Unit :=
  if room = 0 then .error Misuse.nestedTooDeep.fault else .ok ()

def inOrder (parts : List (Value × Except Fault Unit)) : Except Fault Unit :=
  (Printer.sorted parts).forM (·.2)

mutual

-- `room` tells how many more values may lie in one another.
def value (room : Nat) : Value → Except Fault Unit
  | .number n        => do level room; let _ ← n.write
  | .bytearray _     => do level room; level (room - 1)
  | .list items      => do level room; values (room - 1) items
  | .tuple items     => do level room; values (room - 1) items
  | .dict entries    => do level room; inOrder (entryParts (room - 1) entries)
  | .set items       => do level room; inOrder (memberParts (room - 1) items)
  | .frozenset items => do level room; level (room - 1); values (room - 2) items
  | .source s        => do level room; source (room - 1) s
  | .outcome o       => do level room; outcome (room - 1) o
  | .fault f         => do level room; fault (room - 1) f
  | .predicate p     => do level room; predicate (room - 1) p
  | _                => level room

def values (room : Nat) : List Value → Except Fault Unit
  | []      => .ok ()
  | v :: vs => do value room v; values room vs

def entryParts (room : Nat) : List (Value × Value) → List (Value × Except Fault Unit)
  | []           => []
  | (k, v) :: es => (k, do value room k; value room v) :: entryParts room es

def memberParts (room : Nat) : List Value → List (Value × Except Fault Unit)
  | []      => []
  | v :: vs => (v, value room v) :: memberParts room vs

-- The parts of a descriptor come in the order of their names.

def source (room : Nat) : Source → Except Fault Unit
  | .direct v               => value room v
  | .accessor f _ _ _ _     => value room f
  | .invoking base i        => do level room; source (room - 1) base; invocation (room - 1) i
  | .reading base _ _       => do level room; source (room - 1) base
  | .matching _ base test _ => do level room; source (room - 1) base; value room test
  | _                       => level room

def invocation (room : Nat) : Invocation → Except Fault Unit
  | .mk _ args _ _ => do
    level room
    values (room - 1) args
    .error (Misuse.notPicklable namedType).fault

def outcome (room : Nat) : Outcome → Except Fault Unit
  | .success v     => value room v
  | .retryable c v => do level room; fault (room - 1) c; value room v
  | .terminal c v  => do level room; fault (room - 1) c; value room v

-- The arguments of a fault come first. What it was raised from is left out.
def fault (room : Nat) : Fault → Except Fault Unit
  | .mk _ _ d _ => do level room; detail (room - 1) d

def detail (room : Nat) : Detail → Except Fault Unit
  | .plain args                      => values room args
  | .unavailable message source      => do value room message; value room source
  | .mismatch v description source _ => do
    value room description
    value room source
    value room v
  | .failed cause attempts elapsed source message => do
    value room attempts
    value room elapsed
    value room cause
    value room message
    value room source
  | .expired cause attempts elapsed source maxWait _ => do
    value room attempts
    value room elapsed
    value room cause
    value room maxWait
    value room source
  | .unmet description cause attempts elapsed hasValue lastValue source _ => do
    value room attempts
    value room description
    value room elapsed
    value room hasValue
    value room cause
    value room lastValue
    value room source
  | .invalid _ _ => .ok ()

def predicate (room : Nat) : Predicate → Except Fault Unit
  | .mk _ c _ => check room c

-- A test that is made of others, or of a value to compare with, is written by its name alone.
def check (room : Nat) : Check → Except Fault Unit
  | .satisfies f => value room f
  | _            => level room

end

theorem invocation_error (room : Nat) (i : Invocation) : ∃ f, invocation room i = .error f := by
  rcases i with ⟨selector, args, keywords, retryOn⟩
  rw [invocation, level]
  split
  case isTrue  => exact ⟨_, rfl⟩
  case isFalse =>
    cases values (room - 1) args
    all_goals exact ⟨_, rfl⟩

theorem value_invoking (room : Nat) (base : Source) (i : Invocation) :
    ∃ f, value room (.source (.invoking base i)) = .error f := by
  have ⟨f, refused⟩ := invocation_error (room - 1 - 1) i
  rw [value, source, refused, level, level]
  split
  case isTrue  => exact ⟨_, rfl⟩
  case isFalse =>
    split
    case isTrue  => exact ⟨_, rfl⟩
    case isFalse =>
      cases source (room - 1 - 1) base
      all_goals exact ⟨_, rfl⟩

end Acceptance

def accept (v : Value) : Except Fault Unit :=
  Acceptance.value Acceptance.deepest v

end Yaml

end BoundedWait
