import BoundedWait.Fault.Class
import BoundedWait.Number.Basic

namespace BoundedWait

structure ObjectClass where
  name      : String
  ancestors : List String

instance : Coe String ObjectClass := ⟨fun name => ⟨name, []⟩⟩

structure Violation where
  kind     : String
  location : List String
  message  : String
deriving DecidableEq, Repr

mutual

inductive Value where
  | null
  | number (n : Number)
  | text (s : String)
  | bytes (octets : List UInt8)
  | bytearray (octets : List UInt8)
  | list (items : List Value)
  | tuple (items : List Value)
  | dict (entries : List (Value × Value))
  | set (items : List Value)
  | frozenset (items : List Value)
  | type (name : String)
  | object (o : Thing)
  | callable (c : Callable)
  -- `mark` tells the receiver from others that have the same content.
  | method (mark : Nat) (receiver : Value) (name : String)
  | source (s : Source)
  | outcome (o : Outcome)
  | fault (f : Fault)
  | predicate (p : Predicate)

-- An object of some class. Showing it gives its text, or fails, and so does asking for its truth.
inductive Thing where
  | mk (id : Nat) (cls : ObjectClass) (shown : Except Fault String) (sameness : Sameness)
      (truth : Except Fault Bool)

-- What an object is equal to: itself alone, or all objects with the same mark. What hashing it
-- leads to is its own matter then.
inductive Sameness where
  | identity
  | likeness (mark : Nat) (hash : Except Fault Nat)

inductive Callable where
  | mk (id : Nat) (shown : String) (name qualifiedName : Option String)
      (description : Option Value)

-- The result of a single attempt. A failure always carries a cause and a success never does.
inductive Outcome where
  | success (value : Value)
  | retryable (cause : Fault) (value : Value)
  | terminal (cause : Fault) (value : Value)

-- `cause` is the fault that this one was explicitly raised from. What is made outside of the
-- library has an `id` to tell it from others, and the faults of the library have `0`.
inductive Fault where
  | mk (id : Nat) (cls : FaultClass) (detail : Detail) (cause : Option Fault)

inductive Detail where
  -- A fault that has nothing but its arguments.
  | plain (args : List Value)
  -- A resource that is not available, temporarily or permanently.
  | unavailable (message source : Value)
  -- A value that a predicate rejected.
  | mismatch (value description source : Value) (message : String)
  -- A wait that ended with a failure which is not retried.
  | failed (lastCause attempts elapsed source message : Value)
  -- A wait that ended because its time was over.
  | expired (lastCause attempts elapsed source maxWait : Value) (message : String)
  -- An assertion that did not come true.
  | unmet (description lastCause attempts elapsed hasValue lastValue source : Value)
      (message : String)
  -- Settings that were not accepted.
  | invalid (title : String) (violations : List Violation)

inductive Source where
  | direct (value : Value)
  | absent (type : Option String)
  | accessor (operation : Value) (type : Option String) (retryOn : List FaultClass)
      (noneIsRetryable : Bool) (description : Option String)
  | invoking (base : Source) (invocation : Invocation)
  | reading (base : Source) (name : String) (type : Option String)
  -- `mark` tells the match that an assertion makes for itself from all others, which have `0`.
  | matching (mark : Nat) (base : Source) (test : Value) (description : Option String)
  | custom (id : Nat) (shown : Except Fault String)

inductive Invocation where
  | mk (selector : Selector) (args : List Value) (keywords : List (String × Value))
      (retryOn : List FaultClass)

inductive Selector where
  | member (name : String)
  | operation (f : Value)

inductive Predicate where
  | mk (id : Nat) (check : Check) (description : String)

inductive Check where
  | satisfies (f : Value)
  | equalTo (expected : Value)
  | isNotNone
  | greaterThan (bound : Value)
  | atLeast (bound : Value)
  | contains (item : Value)
  | both (first : Predicate) (second : Value)
  | either (first : Predicate) (second : Value)
  | negation (p : Predicate)

end

instance : Inhabited Value := ⟨.null⟩

namespace Thing

def plain (id : Nat) (cls : ObjectClass) (shown : Except Fault String) : Thing :=
  mk id cls shown .identity (.ok true)

def id : Thing → Nat
  | mk i _ _ _ _ => i

def cls : Thing → ObjectClass
  | mk _ c _ _ _ => c

def className (o : Thing) : String :=
  o.cls.name

def shown : Thing → Except Fault String
  | mk _ _ s _ _ => s

def sameness : Thing → Sameness
  | mk _ _ _ s _ => s

def truth : Thing → Except Fault Bool
  | mk _ _ _ _ t => t

-- Marks other than `0` are shared by what is equal.
def same (a b : Thing) : Bool :=
  match a.sameness, b.sameness with
  | .identity, .identity         => a.id == b.id
  | .likeness l _, .likeness m _ => l == m && l != 0
  | _, _                         => false

end Thing

namespace Callable

def id : Callable → Nat
  | mk i _ _ _ _ => i

def shown : Callable → String
  | mk _ s _ _ _ => s

def name : Callable → Option String
  | mk _ _ n _ _ => n

def qualifiedName : Callable → Option String
  | mk _ _ _ q _ => q

def description : Callable → Option Value
  | mk _ _ _ _ d => d

end Callable

namespace Fault

def id : Fault → Nat
  | mk i _ _ _ => i

def cls : Fault → FaultClass
  | mk _ c _ _ => c

def detail : Fault → Detail
  | mk _ _ d _ => d

def cause : Fault → Option Fault
  | mk _ _ _ c => c

def raisedFrom (f cause : Fault) : Fault :=
  mk f.id f.cls f.detail (some cause)

@[simp]
theorem cls_raisedFrom (f cause : Fault) : (f.raisedFrom cause).cls = f.cls := rfl

@[simp]
theorem detail_raisedFrom (f cause : Fault) : (f.raisedFrom cause).detail = f.detail := rfl

@[simp]
theorem cause_raisedFrom (f cause : Fault) : (f.raisedFrom cause).cause = some cause := rfl

theorem raisedFrom_ne (f cause : Fault) : f.raisedFrom cause ≠ cause := by
  intro h
  have := congrArg sizeOf h
  simp only [raisedFrom, mk.sizeOf_spec, Option.some.sizeOf_spec] at this
  omega

def isA (f : Fault) (c : FaultClass) : Bool :=
  f.cls.isA c

def isAny (f : Fault) (cs : List FaultClass) : Bool :=
  cs.any f.isA

def isException (f : Fault) : Bool :=
  f.cls.isException

def same (f g : Fault) : Bool :=
  f.id == g.id

end Fault

namespace Invocation

def selector : Invocation → Selector
  | mk s _ _ _ => s

def args : Invocation → List Value
  | mk _ a _ _ => a

def keywords : Invocation → List (String × Value)
  | mk _ _ k _ => k

def retryOn : Invocation → List FaultClass
  | mk _ _ _ r => r

end Invocation

namespace Predicate

def id : Predicate → Nat
  | mk i _ _ => i

def check : Predicate → Check
  | mk _ c _ => c

def description : Predicate → String
  | mk _ _ d => d

end Predicate

namespace Source

def className : Source → String
  | direct _           => "DirectValue"
  | absent _           => "NullSentinel"
  | accessor _ _ _ _ _ => "AccessorSource"
  | invoking _ _       => "DependentInvocation"
  | reading _ _ _      => "DeferredAttribute"
  | matching _ _ _ _   => "PredicateMatch"
  | custom _ _         => "CustomSource"

end Source

namespace Value

def bool (b : Bool) : Value := number (.bool b)

def int (i : Int) : Value := number (.int i)

def float (x : Float) : Value := number (.ofFloat x)

def isNull : Value → Bool
  | null => true
  | _    => false

def typeName : Value → String
  | null         => "NoneType"
  | number n     => n.typeName
  | text _       => "str"
  | bytes _      => "bytes"
  | bytearray _  => "bytearray"
  | list _       => "list"
  | tuple _      => "tuple"
  | dict _       => "dict"
  | set _        => "set"
  | frozenset _  => "frozenset"
  | type _       => "type"
  | object o     => o.className
  | callable _   => "Fn"
  | method _ _ _ => "builtin_function_or_method"
  | source s     => s.className
  | outcome _    => "ResolutionOutcome"
  | fault f      => f.cls.name
  | predicate _  => "Predicate"

-- The names of the other types that a value has because its own type is derived from them, apart
-- from the most general one.
def ancestry : Value → List String
  | number (.bool _) => ["int"]
  | object o         => o.cls.ancestors
  | source _         => ["DeferredSource"]
  | fault f          => f.cls.lineage
  | _                => []

-- Whether the class of a value is a named type or derived from it. Every value is an object.
def isOf (v : Value) (type : String) : Bool :=
  type == "object" || v.typeName == type || v.ancestry.contains type

def isCallable : Value → Bool
  | type _       => true
  | callable _   => true
  | method _ _ _ => true
  | predicate _  => true
  | _            => false

def ofOption : Option Value → Value
  | some v => v
  | none   => null

def number? : Value → Option Number
  | number n => some n
  | _        => none

def octets? : Value → Option (List UInt8)
  | bytes octets | bytearray octets => some octets
  | _                               => none

def members? : Value → Option (List Value)
  | set items | frozenset items => some items
  | _                           => none

-- What counts as true in a condition. An object may have a truth of its own.
def truth : Value → Except Fault Bool
  | null             => .ok false
  | number n         => .ok !n.isZero
  | text s           => .ok !s.isEmpty
  | bytes octets     => .ok !octets.isEmpty
  | bytearray octets => .ok !octets.isEmpty
  | list items       => .ok !items.isEmpty
  | tuple items      => .ok !items.isEmpty
  | dict entries     => .ok !entries.isEmpty
  | set items        => .ok !items.isEmpty
  | frozenset items  => .ok !items.isEmpty
  | object o         => o.truth
  | _                => .ok true

@[simp]
theorem truth_bool (b : Bool) : (bool b).truth = .ok b := by
  cases b <;> rfl

def truthy (v : Value) : Bool :=
  v.truth.toOption.getD true

end Value

end BoundedWait
