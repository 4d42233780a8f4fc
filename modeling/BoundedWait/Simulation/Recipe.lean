import BoundedWait.Policy.Basic

namespace BoundedWait

namespace Simulation

inductive Primitive where
  | length
  | integer
  | text
  | add
  | mul
  | equal
  | less
  | greater
  | div
  | item
deriving DecidableEq, Repr

mutual

inductive Recipe where
  | null
  | number (n : Number)
  | text (s : String)
  | bytes (octets : List UInt8)
  | list (items : List Recipe)
  | tuple (items : List Recipe)
  | dict (entries : List (Recipe × Recipe))
  | type (name : String)
  | object (className : String) (members : List (String × Recipe))
      (failures : List (String × FaultRecipe)) (shown : Shown)
  | operation (f : OperationRecipe)
  | source (s : SourceRecipe)
  | outcome (o : OutcomeRecipe)
  | fault (f : FaultRecipe)
  | nested (item : Recipe) (depth : Nat)
  | repeated (item : Recipe) (times : Nat)

inductive Shown where
  | byClass
  | text (s : String)
  | failure (f : FaultRecipe)

inductive FaultRecipe where
  | mk (cls : FaultClass) (args : List Recipe) (keywords : List (String × Recipe))
      (cause : Option FaultRecipe)

-- A raw outcome gets its parts as they are, others are made as a success or as a failure.
inductive OutcomeRecipe where
  | mk (kind : OutcomeKind) (raw : Bool) (value : Recipe) (cause : Option FaultRecipe)

-- Calls of an operation with a label are recorded under it.
inductive OperationRecipe where
  | mk (behaviour : Behaviour) (label : Option String) (name qualifiedName shown : Option String)
      (description : Option Recipe)

inductive Behaviour where
  | steps (steps : List Step)
  | counter (start step : Recipe)
  | byClock (before : Step) (after : List (Number × Step))
  | first
  | echo
  | primitive (p : Primitive)

-- Lets time pass, if a number is given, and then acts.
inductive Step where
  | mk (advance : Option Number) (action : Action)

inductive Action where
  | failure (f : FaultRecipe)
  | outcome (o : OutcomeRecipe)
  | source (s : SourceRecipe)
  | value (v : Recipe)

inductive SourceRecipe where
  | direct (v : Recipe)
  | absent (type : Option String)
  | accessor (f : OperationRecipe) (type : Option String) (retryOn : List FaultClass)
      (noneIsRetryable : Bool) (description : Option String)
  | invoking (base : SourceRecipe) (selector : Recipe) (args : List Recipe)
      (keywords : List (String × Recipe)) (retryOn : List FaultClass)
  | reading (base : SourceRecipe) (name : String) (type : Option String)
  | matching (base : SourceRecipe) (test : TestRecipe) (description : Option String)
  | custom (steps : List Step) (shown : Option String) (label : Option String)
  | bare (f : OperationRecipe)
  | plain (v : Recipe)
  | adapted (base : SourceRecipe)
  | named (name : String)

inductive TestRecipe where
  | equalTo (v : Recipe)
  | greaterThan (v : Recipe)
  | atLeast (v : Recipe)
  | contains (v : Recipe)
  | isNotNone
  | satisfies (f : OperationRecipe) (description : String)
  | both (p q : TestRecipe)
  | either (p q : TestRecipe)
  | negation (p : TestRecipe)
  | bare (f : OperationRecipe)

end

instance : Inhabited Recipe := ⟨.null⟩

namespace OperationRecipe

def behaviour : OperationRecipe → Behaviour
  | mk b _ _ _ _ _ => b

def label : OperationRecipe → Option String
  | mk _ l _ _ _ _ => l

end OperationRecipe

namespace SourceRecipe

def stack (base : SourceRecipe) (layers : List (SourceRecipe → SourceRecipe)) (times : Nat) :
    SourceRecipe :=
  (List.replicate times layers).flatten.foldl (fun s layer => layer s) base

theorem stack_zero (base : SourceRecipe) (layers : List (SourceRecipe → SourceRecipe)) :
    base.stack layers 0 = base := rfl

end SourceRecipe

inductive IntervalRecipe where
  | value (v : Recipe)
  | fixed (seconds : Recipe)
  | exponential (initial : Recipe) (multiplier cap : Option Recipe)

structure PolicyFieldsRecipe where
  maxWait : Option Recipe
  poll    : Option IntervalRecipe
  retryOn : Option (List OutcomeKind)

inductive PolicyBase where
  | named (name : String)
  | noRetry
  | within (seconds : Recipe) (poll : Option IntervalRecipe)
  | fields (fields : PolicyFieldsRecipe)

structure PolicyRecipe where
  base     : PolicyBase
  replaced : List PolicyFieldsRecipe

end Simulation

end BoundedWait
