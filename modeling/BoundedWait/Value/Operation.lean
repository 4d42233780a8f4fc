import BoundedWait.Value.Member
import BoundedWait.Value.Order
import BoundedWait.Decimal.Reading
import BoundedWait.Decimal.Places

namespace BoundedWait

namespace Value

def length : Value → Except Fault Nat
  | .text s           => .ok s.length
  | .bytes octets     => .ok octets.length
  | .bytearray octets => .ok octets.length
  | .list items       => .ok items.length
  | .tuple items      => .ok items.length
  | .dict entries     => .ok entries.length
  | .set items        => .ok items.length
  | .frozenset items  => .ok items.length
  | v                 => .error (Misuse.noLength v.typeName).fault

def latin (octets : List UInt8) : String :=
  String.ofList (octets.map fun o => Char.ofNat o.toNat)

def toInteger (v : Value) : Except Fault Int :=
  let read (s : String) : Except Fault Int :=
    match Decimal.excess? Misuse.mostDigits s, Decimal.readInt? s with
    | some n, _    => .error (Misuse.tooManyDigits (some n)).fault
    | none, some i => .ok i
    | none, none   => do .error (Misuse.unreadableInteger 10 (← v.inspect)).fault
  match v with
  | .number (.float x _) =>
    if x < 0 then (Number.checked (Number.ceil x))
    else (Number.checked (Number.ceil (-x))).map (- ·)
  | .number n =>
    match n.integral? with
    | some i => .ok i
    | none   => .error (Misuse.notIntegral n.typeName).fault
  | .text s => read s
  | v       =>
    match v.octets? with
    | some octets => read (latin octets)
    | none        => .error (Misuse.notIntegral v.typeName).fault

def toFloat (v : Value) : Except Fault Float :=
  let read (s : String) : Except Fault Float :=
    match Decimal.readFloat? s with
    | some x => .ok x
    | none   => do .error (Misuse.unreadableFloat (← v.inspect)).fault
  match v with
  | .number n => Number.checked n.toFloat
  | .text s   => read s
  | v         =>
    match v.octets? with
    | some octets => read (latin octets)
    | none        => .error (Misuse.notReal v.typeName).fault

def toMilliseconds (v : Value) : Except Fault String :=
  match v with
  | .number n => do return Decimal.milliseconds (← Number.checked n.toFloat)
  | .text _   => .error (Misuse.unknownFormat "str").fault
  | v         => .error (Misuse.unsupportedFormat v.typeName).fault

def asOctets (owner : String) (v : Value) : Except Fault (List UInt8) :=
  match v.octets? with
  | some octets => .ok octets
  | none        => .error (Misuse.notOctets owner v.typeName).fault

def add (a b : Value) : Except Fault Value :=
  match a, b with
  | .number m, .number n => do return .number (← Number.checked (m.add n))
  | .text s, .text t     => .ok (.text (s ++ t))
  | .list xs, .list ys   => .ok (.list (xs ++ ys))
  | .tuple xs, .tuple ys => .ok (.tuple (xs ++ ys))
  | .text _, b           => .error (Misuse.notConcatenable "str" b.typeName).fault
  | .list _, b           => .error (Misuse.notConcatenable "list" b.typeName).fault
  | .tuple _, b          => .error (Misuse.notConcatenable "tuple" b.typeName).fault
  | .bytes xs, b         => do return .bytes (xs ++ (← b.asOctets "bytes"))
  | .bytearray xs, b     => do return .bytearray (xs ++ (← b.asOctets "bytearray"))
  | a, b                 => .error (Misuse.unsupported "+" a.typeName b.typeName).fault

-- Positions and counts have 64 bits, one of them for the sign.
def isSmall (i : Int) : Bool :=
  -(twoTo 63 : Int) ≤ i && i < twoTo 63

def repeated (xs : List α) (count : Int) : List α :=
  (List.replicate count.toNat xs).flatten

def isSequence : Value → Bool
  | .text _ | .list _ | .tuple _ | .bytes _ | .bytearray _ => true
  | _                                                      => false

def times (a : Value) (count : Int) : Value :=
  match a with
  | .text s       => .text (String.ofList (repeated s.toList count))
  | .list xs      => .list (repeated xs count)
  | .tuple xs     => .tuple (repeated xs count)
  | .bytes xs     => .bytes (repeated xs count)
  | .bytearray xs => .bytearray (repeated xs count)
  | v             => v

def integral? : Value → Option Int
  | .number n => n.integral?
  | _         => none

def mul (a b : Value) : Except Fault Value :=
  match a, b with
  | .number m, .number n => do return .number (← Number.checked (m.mul n))
  | a, b =>
    match if a.isSequence then some (a, b) else if b.isSequence then some (b, a) else none with
    | some (sequence, count) =>
      match count.integral? with
      | some n =>
        if isSmall n then .ok (sequence.times n) else .error Misuse.hugeCount.fault
      | none => .error (Misuse.notRepeatable count.typeName).fault
    | none => .error (Misuse.unsupported "*" a.typeName b.typeName).fault

def div (a b : Value) : Except Fault Value :=
  match a, b with
  | .number m, .number n => do return .float (← Number.checked (m.div n))
  | a, b                 => .error (Misuse.unsupported "/" a.typeName b.typeName).fault

def nth (container : String) (items : List Value) (position : Int) : Except Fault Value :=
  let index := if position < 0 then position + items.length else position
  let found := if index < 0 then none else items[index.toNat]?
  match found with
  | some v => .ok v
  | none   => .error (Misuse.outOfRange container).fault

def item (a b : Value) : Except Fault Value :=
  let within (container : String) (items : List Value) (misuse : Misuse) : Except Fault Value :=
    match b.integral? with
    | some i => if isSmall i then nth container items i else .error Misuse.hugeIndex.fault
    | none   => .error misuse.fault
  match a with
  | .list items   => within "list" items (.badIndex "list" b.typeName)
  | .tuple items  => within "tuple" items (.badIndex "tuple" b.typeName)
  | .text s       =>
    within "string" (s.toList.map fun c => .text (String.ofList [c])) (.badTextIndex b.typeName)
  | .bytes octets => within "" (octets.map fun o => .int o.toNat) (.badIndex "byte" b.typeName)
  | .bytearray octets =>
    within "bytearray" (octets.map fun o => .int o.toNat) (.badIndex "bytearray" b.typeName)
  | .dict entries => do
    let _ ← b.digest
    match lookup? entries b with
    | some v => .ok v
    | none   => .error (Fault.missingKey b)
  | a => .error (Misuse.notSubscriptable a.typeName).fault

end Value

end BoundedWait
