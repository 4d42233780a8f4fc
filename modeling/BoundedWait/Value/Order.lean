import BoundedWait.Value.Equality
import BoundedWait.Fault.Misuse

namespace BoundedWait

inductive Relation where
  | lt
  | le
  | gt
  | ge
deriving DecidableEq, Repr

namespace Relation

def symbol : Relation → String
  | lt => "<"
  | le => "<="
  | gt => ">"
  | ge => ">="

def numbers (r : Relation) (a b : Number) : Bool :=
  match r with
  | lt => a.lt b
  | le => a.le b
  | gt => b.lt a
  | ge => b.le a

def ofOrdering (r : Relation) (o : Ordering) : Bool :=
  match r with
  | lt => o.isLT
  | le => o.isLE
  | gt => o.isGT
  | ge => o.isGE

def lengths (r : Relation) (a b : Nat) : Bool :=
  r.ofOrdering (compare a b)

def octets (r : Relation) (a b : List UInt8) : Bool :=
  r.ofOrdering (compareOfLessAndEq a b)

def members (r : Relation) (a b : List Value) : Bool :=
  match r with
  | lt => Value.allAmong a b && a.length < b.length
  | le => Value.allAmong a b
  | gt => Value.allAmong b a && b.length < a.length
  | ge => Value.allAmong b a

def texts (r : Relation) (a b : String) : Bool :=
  r.ofOrdering (compareOfLessAndEq a b)

end Relation

mutual

def Value.relate (r : Relation) : Value → Value → Except Fault Bool
  | .number a, .number b => .ok (r.numbers a b)
  | .text a, .text b     => .ok (r.texts a b)
  | .list a, .list b     => Value.relateItems r a b
  | .tuple a, .tuple b   => Value.relateItems r a b
  | a, b                 =>
    match a.octets?, b.octets?, a.members?, b.members? with
    | some xs, some ys, _, _ => .ok (r.octets xs ys)
    | _, _, some xs, some ys => .ok (r.members xs ys)
    | _, _, _, _             => .error (Misuse.unordered r.symbol a.typeName b.typeName).fault

def Value.relateItems (r : Relation) : List Value → List Value → Except Fault Bool
  | a :: as, b :: bs => if a.agrees b then Value.relateItems r as bs else a.relate r b
  | as, bs           => .ok (r.lengths as.length bs.length)

end

theorem Value.relate_number (r : Relation) (a b : Number) :
    (Value.number a).relate r (.number b) = .ok (r.numbers a b) := by
  rw [Value.relate]

end BoundedWait
