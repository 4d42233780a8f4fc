import BoundedWait.Act
import BoundedWait.Value.Operation

namespace BoundedWait

inductive LogLevel where
  | debug
  | info
  | warning
  | error
deriving DecidableEq, Repr

def LogLevel.name : LogLevel → String
  | debug   => "DEBUG"
  | info    => "INFO"
  | warning => "WARNING"
  | error   => "ERROR"

structure LogEntry where
  level   : LogLevel
  logger  : String
  message : String
  extras  : List (String × Value)

-- The world around the library. `depth` limits how deep sources may be handed out by operations of
-- sources that were handed out themselves. `checks` tells whether a value is one of a named type
-- that is not its own, for types with checks of their own too, and such a check may raise.
structure Host (σ : Type) where
  call    : Callable → List Value → List (String × Value) → Act σ Value
  read    : Thing → String → Act σ Value
  attempt : Nat → Act σ Value
  log     : LogEntry → Act σ Unit
  depth   : Nat
  checks  : Value → String → Except Fault Bool := fun v type => .ok (v.isOf type)

variable {σ : Type}

-- Whether a value is one of a named type. A value is always one of its own type.
def Host.isOf (host : Host σ) (v : Value) (type : String) : Except Fault Bool :=
  if v.typeName = type then .ok true else host.checks v type

theorem Host.isOf_typeName (host : Host σ) (v : Value) : host.isOf v v.typeName = .ok true :=
  if_pos rfl

namespace Value

def construct (type : String) : List Value → Except Fault Value
  | [] =>
    match type with
    | "int"    => .ok (.int 0)
    | "float"  => .ok (.float 0)
    | "bool"   => .ok (.bool false)
    | "str"    => .ok (.text "")
    | "bytes"  => .ok (.bytes [])
    | "list"   => .ok (.list [])
    | "tuple"  => .ok (.tuple [])
    | "dict"   => .ok (.dict [])
    | "object" => .ok (.object (.plain 0 "object" (.ok "<object object>")))
    | _        => .ok (.object (.plain 0 type (.ok ("<" ++ type ++ ">"))))
  | [v] =>
    match type with
    | "int"   => do return .int (← v.toInteger)
    | "float" => do return .float (← v.toFloat)
    | "bool"  => do return .bool (← v.truth)
    | "str"   => do return .text (← v.display)
    | "list"  => do return .list (← items v)
    | "tuple" => do return .tuple (← items v)
    | _       => .error (Misuse.argumentCount type 0 1).fault
  | args => .error (Misuse.argumentCount type 1 args.length).fault
where
  items : Value → Except Fault (List Value)
    | .list xs          => .ok xs
    | .tuple xs         => .ok xs
    | .text s           => .ok (s.toList.map fun c => .text (String.ofList [c]))
    | .bytes octets     => .ok (octets.map fun o => .int o.toNat)
    | .bytearray octets => .ok (octets.map fun o => .int o.toNat)
    | .dict entries     => .ok (entries.map (·.1))
    | .set xs           => .ok xs
    | .frozenset xs     => .ok xs
    | v                 => .error (Fault.saying .typeError
        ("'" ++ v.typeName ++ "' object is not iterable"))

end Value

def Host.member (host : Host σ) (v : Value) (name : String) : Act σ Value :=
  match v with
  | .object o => host.read o name
  | v         => .of (v.member name)

mutual

def Value.call (host : Host σ) (args : List Value) (keywords : List (String × Value)) :
    Value → Act σ Value
  | .callable c      => host.call c args keywords
  | .type t          =>
    if keywords.isEmpty then .of (Value.construct t args)
    else .raise (Fault.saying .typeError (t ++ "() takes no keyword arguments"))
  | .method _ r name => .of (r.callMethod name args keywords)
  | .predicate p     =>
    match args with
    | [v] => do return .bool (← p.holds host v)
    | _   => .raise (Misuse.argumentCount "Predicate" 1 args.length).fault
  | v => .raise (Misuse.notCallable v.typeName).fault

def Predicate.holds (host : Host σ) (v : Value) : Predicate → Act σ Bool
  | .mk _ check _ => check.holds host v

def Check.holds (host : Host σ) (v : Value) : Check → Act σ Bool
  | .satisfies f       => do .of (← f.call host [v] []).truth
  | .equalTo expected  => pure (v.equals expected)
  | .isNotNone         => pure !v.isNull
  | .greaterThan bound => if v.isNull then pure false else .of (v.relate .gt bound)
  | .atLeast bound     => if v.isNull then pure false else .of (v.relate .ge bound)
  | .contains item     => if v.isNull then pure false else .of (item.isIn v)
  | .both p q => do
    if ← p.holds host v then .of (← q.call host [v] []).truth else return false
  | .either p q => do
    if ← p.holds host v then return true else .of (← q.call host [v] []).truth
  | .negation p => do return !(← p.holds host v)

end

def Value.passes (host : Host σ) (test v : Value) : Act σ Bool := do
  .of (← test.call host [v] []).truth

end BoundedWait
