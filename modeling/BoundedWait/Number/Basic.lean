import BoundedWait.Number.Binary64
import BoundedWait.Decimal.Shortest

namespace BoundedWait

inductive Extended where
  | lowest
  | finite (value : Rat)
  | highest
  | undefined
deriving DecidableEq, Repr

namespace Extended

def lt : Extended → Extended → Bool
  | undefined, _         => false
  | _, undefined         => false
  | lowest, lowest       => false
  | lowest, _            => true
  | finite a, finite b   => a < b
  | finite _, highest    => true
  | finite _, lowest     => false
  | highest, _           => false

def eq : Extended → Extended → Bool
  | undefined, _ => false
  | a, b         => a == b

theorem not_lt_self (a : Extended) : a.lt a = false := by
  cases a <;> simp [lt]

theorem eq_comm (a b : Extended) : a.eq b = b.eq a := by
  cases a <;> cases b <;> simp [eq, Bool.beq_comm]

end Extended

-- `mark` tells one undefined result from another; it is `0` for every other double.
inductive Number where
  | bool (b : Bool)
  | int (i : Int)
  | float (x : Float) (mark : Nat)

namespace Number

inductive Error where
  | tooLarge
  | quotientTooLarge
  | divisionByZero
  | floatDivisionByZero
  | infiniteCeiling
  | undefinedCeiling
deriving DecidableEq, Repr

def Error.message : Error → String
  | tooLarge            => "int too large to convert to float"
  | quotientTooLarge    => "integer division result too large for a float"
  | divisionByZero      => "division by zero"
  | floatDivisionByZero => "float division by zero"
  | infiniteCeiling     => "cannot convert float infinity to integer"
  | undefinedCeiling    => "cannot convert float NaN to integer"

def ofFloat (x : Float) : Number := float x 0

def zero : Number := int 0

-- Truth values count as zero and one.
def integral? : Number → Option Int
  | bool b    => some (if b then 1 else 0)
  | int i     => some i
  | float _ _ => none

def valueOfFloat (x : Float) : Extended :=
  match Binary64.unpack x with
  | some u => .finite (mkRat u.signed u.denominator)
  | none   => if x.isNaN then .undefined else if x < 0 then .lowest else .highest

def value : Number → Extended
  | bool b    => .finite (if b then 1 else 0)
  | int i     => .finite i
  | float x _ => valueOfFloat x

def lt (a b : Number) : Bool :=
  a.value.lt b.value

def eq (a b : Number) : Bool :=
  a.value.eq b.value

def le (a b : Number) : Bool :=
  a.lt b || a.eq b

theorem not_lt_self (a : Number) : a.lt a = false :=
  Extended.not_lt_self _

theorem eq_comm (a b : Number) : a.eq b = b.eq a :=
  Extended.eq_comm _ _

theorem le_int (a b : Int) : (int a).le (int b) = decide (a ≤ b) := by
  have lt : (int a).lt (int b) = decide (a < b) := decide_eq_decide.mpr Rat.intCast_lt_intCast
  have eq : (int a).eq (int b) = decide (a = b) := by
    simp [eq, value, Extended.eq, Bool.beq_eq_decide_eq]
  simp [le, lt, eq, Int.le_iff_lt_or_eq]

def min (a b : Number) : Number :=
  if b.lt a then b else a

def isZero (n : Number) : Bool :=
  n.eq zero

def isWhole (n : Number) : Bool :=
  match n.value with
  | .finite q => q.den = 1
  | _         => false

-- Two marked doubles with one mark are one undefined result, which is the same as itself.
def same (a b : Number) : Bool :=
  match a, b with
  | float x m, float y n => x.isNaN && y.isNaN && m == n && m != 0
  | _, _                 => false

def toFloat : Number → Except Error Float
  | bool b    => .ok (if b then 1 else 0)
  | int i     =>
    match Binary64.ofInt i with
    | some x => .ok x
    | none   => .error .tooLarge
  | float x _ => .ok x

-- Exact on integers, and rounded to a double when one of the two is a double.
def combine (exact : Int → Int → Int) (rounded : Float → Float → Float) (a b : Number) :
    Except Error Number :=
  match a.integral?, b.integral? with
  | some i, some j => .ok (int (exact i j))
  | _, _           => do return ofFloat (rounded (← a.toFloat) (← b.toFloat))

def add : Number → Number → Except Error Number :=
  combine (· + ·) (· + ·)

def sub : Number → Number → Except Error Number :=
  combine (· - ·) (· - ·)

def mul : Number → Number → Except Error Number :=
  combine (· * ·) (· * ·)

-- The quotient of two integers is rounded once, from its exact value.
def div (a b : Number) : Except Error Float :=
  match a.integral?, b.integral? with
  | some i, some j =>
    if j = 0 then .error .divisionByZero
    else
      match Binary64.ofQuotient (decide (i < 0) != decide (j < 0)) i.natAbs j.natAbs with
      | some x => .ok x
      | none   => .error .quotientTooLarge
  | _, _ => do
    let x ← a.toFloat
    let y ← b.toFloat
    if y == 0 then .error .floatDivisionByZero else return x / y

def ceil (x : Float) : Except Error Int :=
  match Binary64.unpack x with
  | some u => .ok (-(-u.signed / (u.denominator : Int)))
  | none   => .error (if x.isNaN then .undefinedCeiling else .infiniteCeiling)

def typeName : Number → String
  | bool _    => "bool"
  | int _     => "int"
  | float _ _ => "float"

def text : Number → String
  | bool b    => if b then "True" else "False"
  | int i     => toString i
  | float x _ => Decimal.ofFloat x

end Number

end BoundedWait
