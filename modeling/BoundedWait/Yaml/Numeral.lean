import BoundedWait.Decimal.Reading
import BoundedWait.Text.Case
import BoundedWait.Text.Hexadecimal
import BoundedWait.Yaml.Error

namespace BoundedWait

namespace Yaml

namespace Numeral

def sixtieths {α : Type} (add : α → Nat → α → Except Error α) (zero : α) (parts : List α) :
    Except Error α := do
  let (sum, _) ← parts.reverse.foldlM (fun (sum, base) p => do
    return (← add sum base p, base * 60)) (zero, 1)
  return sum

def digitsOf? (base : Nat) (cs : List Char) : Option Nat :=
  if cs.isEmpty then none
  else
    cs.foldlM (fun (n : Nat) c =>
      (Text.hexValue? c).bind fun d => if d < base then some (base * n + d) else none) 0

theorem digitsOf?_nil (base : Nat) : digitsOf? base [] = none := rfl

def isBaseMark (base : Nat) (c : Char) : Bool :=
  match base with
  | 2  => c == 'b' || c == 'B'
  | 8  => c == 'o' || c == 'O'
  | 16 => c == 'x' || c == 'X'
  | _  => false

def withoutBaseMark (base : Nat) (cs : List Char) : List Char :=
  match cs with
  | '0' :: c :: rest => if isBaseMark base c then rest else cs
  | cs               => cs

def readBase (base : Nat) (cs : List Char) : Except Error Int :=
  let s := String.ofList cs
  let (negative, body) := Decimal.splitSign (Decimal.asciiDigits (Decimal.trimmed s))
  match (Decimal.excess? Misuse.mostDigits s).filter fun _ => base == 10 with
  | some digits => .error (.misread (.tooManyDigits (some digits)))
  | none =>
    match digitsOf? base (withoutBaseMark base body) with
    | some n => .ok (if negative then -n else n)
    | none   => .error (.misread (.unreadableInteger base (Text.quoted s)))

def signed (s : String) : Except Error (Bool × List Char) :=
  let cs := s.toList.filter (· != '_')
  if cs.isEmpty then .error (.misread (.outOfRange "string"))
  else .ok (Decimal.splitSign cs)

def parts (cs : List Char) : List (List Char) :=
  ((String.ofList cs).splitOn ":").map String.toList

def integer (s : String) : Except Error Int := do
  let (negative, cs) ← signed s
  let size ← match cs with
    | ['0'] => pure 0
    | '0' :: 'b' :: rest => readBase 2 rest
    | '0' :: 'x' :: rest => readBase 16 rest
    | '0' :: _ => readBase 8 cs
    | [] => throw (.misread (.outOfRange "string"))
    | cs =>
      if cs.contains ':' then do
        sixtieths (fun sum base p => .ok (sum + base * p)) 0 (← (parts cs).mapM (readBase 10))
      else readBase 10 cs
  return if negative then -size else size

def readDouble (cs : List Char) : Except Error Float :=
  let s := String.ofList cs
  match Decimal.readFloat? s with
  | some x => .ok x
  | none   => .error (.misread (.unreadableFloat (Text.quoted s)))

def addPlace (sum : Float) (base : Nat) (p : Float) : Except Error Float :=
  match (Number.int base).toFloat with
  | .ok b    => .ok (sum + p * b)
  | .error e => .error (.misread (.arithmetic e))

-- A double. The mark tells an undefined one from others; all that are written with a point are one.
def double (mark : Nat) (s : String) : Except Error Number := do
  let (negative, cs) ← signed (Text.lower s)
  if cs == ".nan".toList then return .float Binary64.undefined 1
  let size ←
    if cs == ".inf".toList then pure Binary64.infinity
    else if cs.contains ':' then do sixtieths addPlace 0 (← (parts cs).mapM readDouble)
    else readDouble cs
  let x := if negative then -size else size
  return .float x (if x.isNaN then mark else 0)

end Numeral

end Yaml

end BoundedWait
