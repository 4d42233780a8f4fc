import BoundedWait.Value.Printer

namespace BoundedWait

namespace Predicate

variable (id : Nat)

def satisfies (f : Value) (description : String) : Predicate :=
  mk id (.satisfies f) description

def equalTo (expected : Value) : Except Fault Predicate := do
  return mk id (.equalTo expected) ("a value equal to " ++ (← expected.inspect))

def isNotNone : Predicate :=
  mk id .isNotNone "a value that is not None"

def greaterThan (bound : Value) : Except Fault Predicate := do
  return mk id (.greaterThan bound) ("a value greater than " ++ (← bound.inspect))

def atLeast (bound : Value) : Except Fault Predicate := do
  return mk id (.atLeast bound) ("a value of at least " ++ (← bound.inspect))

def contains (item : Value) : Except Fault Predicate := do
  return mk id (.contains item) ("a value containing " ++ (← item.inspect))

def both (p : Predicate) (q : Value) : Except Fault Predicate := do
  return mk id (.both p q) ("(" ++ p.description ++ " and " ++ (← q.describeTest) ++ ")")

def either (p : Predicate) (q : Value) : Except Fault Predicate := do
  return mk id (.either p q) ("(" ++ p.description ++ " or " ++ (← q.describeTest) ++ ")")

def negation (p : Predicate) : Predicate :=
  mk id (.negation p) ("not " ++ p.description)

theorem description_negation (p : Predicate) :
    (p.negation id).description = "not " ++ p.description := rfl

end Predicate

end BoundedWait
