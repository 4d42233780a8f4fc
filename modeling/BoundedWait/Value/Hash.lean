import BoundedWait.Value.Equality
import BoundedWait.Fault.Misuse

namespace BoundedWait

inductive Digest where
  | null
  | number (value : Extended) (mark : Nat)
  | text (s : String)
  | bytes (octets : List UInt8)
  | identity (of : String) (id : Nat)
  | node (label : String) (parts : List Digest)
deriving BEq

namespace Number

def digest (n : Number) : Digest :=
  match n with
  | float x m => if x.isNaN then .number .undefined m else .number n.value 0
  | _         => .number n.value 0

end Number

def Extended.code : Extended → Nat
  | finite q  => q.num.natAbs + 31 * q.den
  | undefined => 3
  | lowest    => 5
  | highest   => 7

namespace Digest

def option (s : Option String) : Digest :=
  match s with
  | some t => .text t
  | none   => .null

def classes (cs : List FaultClass) : Digest :=
  .node "tuple" (cs.map fun c => .text c.name)

mutual

def code : Digest → Nat
  | null             => 1
  | number value m   => value.code + m
  | text s           => s.toList.foldl (fun n c => 31 * n + c.toNat) 7
  | bytes octets     => octets.foldl (fun n o => 31 * n + o.toNat) 11
  | identity _ id    => 31 * id + 13
  | node label parts => label.length + codes parts

def codes : List Digest → Nat
  | []      => 17
  | d :: ds => d.code + 31 * codes ds

end

-- The members of a set have no order, so their numbers are added up.
def unordered (members : List Digest) : Digest :=
  .node "frozenset" [.identity "members" (members.foldl (fun total d => total + d.code) 0)]

-- How many descriptors may lie in one another if they are to be hashed.
def deepest : Nat := 450

def inside : Nat → Except Fault Nat
  | 0        => .error Misuse.nestedTooDeep.fault
  | room + 1 => .ok room

end Digest

mutual

-- `room` tells how many more descriptors may lie in one another.
def Value.digestTo (room : Nat) : Value → Except Fault Digest
  | .null            => .ok .null
  | .number n        => .ok n.digest
  | .text s          => .ok (.text s)
  | .bytes octets    => .ok (.bytes octets)
  | .bytearray _     => .error (Misuse.unhashable "bytearray").fault
  | .list _          => .error (Misuse.unhashable "list").fault
  | .tuple items     => do return .node "tuple" (← Value.digestsTo room items)
  | .dict _          => .error (Misuse.unhashable "dict").fault
  | .set _           => .error (Misuse.unhashable "set").fault
  | .frozenset items => do return .unordered (← Value.digestsTo room items)
  | .type name       => .ok (.node "type" [.text name])
  | .object o        =>
    match o.sameness with
    | .identity        => .ok (.identity "object" o.id)
    | .likeness _ hash => do return .identity "hash" (← hash)
  | .callable c      => .ok (.identity "callable" c.id)
  | .method r _ name => .ok (.node "method" [.identity "receiver" r, .text name])
  | .source s        => s.digestTo room
  | .outcome o       => o.digestTo room
  | .fault f         => .ok (.identity "fault" f.id)
  | .predicate p     => .ok (.identity "predicate" p.id)

def Value.digestsTo (room : Nat) : List Value → Except Fault (List Digest)
  | []      => .ok []
  | v :: vs => do
    let d ← v.digestTo room
    return d :: (← Value.digestsTo room vs)

def Outcome.digestTo (room : Nat) : Outcome → Except Fault Digest
  | .success v => do
    let room ← Digest.inside room
    return .node "success" [← v.digestTo room]
  | .retryable c v => do
    let room ← Digest.inside room
    return .node "retryable" [← v.digestTo room, .identity "fault" c.id]
  | .terminal c v => do
    let room ← Digest.inside room
    return .node "terminal" [← v.digestTo room, .identity "fault" c.id]

def Source.digestTo (room : Nat) : Source → Except Fault Digest
  | .direct v => do
    let room ← Digest.inside room
    return .node "direct" [← v.digestTo room]
  | .absent type => do
    let _ ← Digest.inside room
    return .node "absent" [.option type]
  | .accessor f type retryOn noneIsRetryable description => do
    let room      ← Digest.inside room
    let operation ← f.digestTo room
    return .node "accessor" [operation, .option type, .classes retryOn,
      .number (.finite (if noneIsRetryable then 1 else 0)) 0, .option description]
  | .invoking base invocation => do
    let room ← Digest.inside room
    let on   ← base.digestTo room
    return .node "invoking" [on, ← invocation.digestTo room]
  | .reading base name type => do
    let room ← Digest.inside room
    return .node "reading" [← base.digestTo room, .text name, .option type]
  | .matching _ base test description => do
    let room ← Digest.inside room
    let on   ← base.digestTo room
    return .node "matching" [on, ← test.digestTo room, .option description]
  | .custom id _ => .ok (.identity "source" id)

def Invocation.digestTo (room : Nat) : Invocation → Except Fault Digest
  | .mk selector args _ retryOn => do
    let room      ← Digest.inside room
    let operation ← selector.digestTo room
    return .node "invocation" (operation :: .classes retryOn :: (← Value.digestsTo room args))

def Selector.digestTo (room : Nat) : Selector → Except Fault Digest
  | .member name => .ok (.text name)
  | .operation f => f.digestTo room

end

def Value.digest (v : Value) : Except Fault Digest :=
  v.digestTo Digest.deepest

def Invocation.digest (i : Invocation) : Except Fault Digest :=
  i.digestTo Digest.deepest

end BoundedWait
