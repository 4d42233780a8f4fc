import BoundedWait.Number.Scale

namespace BoundedWait

namespace Binary64

-- A finite double: its value is `± significand * 2 ^ exponent`.
structure Unpacked where
  negative    : Bool
  significand : Nat
  exponent    : Int

def unpack (x : Float) : Option Unpacked :=
  let bits     := x.toBits.toNat
  let negative := twoTo 63 ≤ bits
  let biased   : Nat := bits / twoTo 52 % twoTo 11
  let fraction := bits % twoTo 52
  if biased = twoTo 11 - 1 then none
  else if biased = 0 then some ⟨negative, fraction, -1074⟩
  else some ⟨negative, twoTo 52 + fraction, (biased : Int) - 1075⟩

namespace Unpacked

def numerator (u : Unpacked) : Nat :=
  u.significand * twoTo u.exponent.toNat

def denominator (u : Unpacked) : Nat :=
  twoTo (-u.exponent).toNat

theorem denominator_pos (u : Unpacked) : 0 < u.denominator :=
  twoTo_pos _

def signed (u : Unpacked) : Int :=
  if u.negative then -u.numerator else u.numerator

end Unpacked

-- The integer nearest to `num / den`; of two equally near ones, the even one.
def roundQuotient (num den : Nat) : Nat :=
  let q := num / den
  let r := num % den
  if 2 * r < den then q
  else if den < 2 * r then q + 1
  else q + q % 2

theorem roundQuotient_of_dvd {num den : Nat} (pos : 0 < den) (h : den ∣ num) :
    roundQuotient num den = num / den := by
  simp [roundQuotient, Nat.mod_eq_zero_of_dvd h, pos]

theorem roundQuotient_eq_or (num den : Nat) :
    roundQuotient num den = num / den ∨ roundQuotient num den = num / den + 1 := by
  simp only [roundQuotient]
  have := Nat.mod_two_eq_zero_or_one (num / den)
  split
  case isTrue => exact .inl rfl
  case isFalse =>
    split
    case isTrue => exact .inr rfl
    case isFalse => omega

def leadingBit (num den : Nat) : Int :=
  let estimate : Int := (num.log2 : Int) - den.log2
  let reached := if 0 ≤ estimate then den * twoTo estimate.toNat ≤ num
                 else den ≤ num * twoTo (-estimate).toNat
  if reached then estimate else estimate - 1

-- The double nearest to `± num / den`, and nothing when that lies beyond the largest one.
def ofQuotient (negative : Bool) (num den : Nat) : Option Float :=
  let sign := if negative then twoTo 63 else 0
  if num = 0 then some (Float.ofBits (UInt64.ofNat sign))
  else
    let unit := max (leadingBit num den - 52) (-1074)
    let steps := roundQuotient (num * twoTo (-unit).toNat) (den * twoTo unit.toNat)
    let bits := (unit + 1074).toNat * twoTo 52 + steps
    if 2047 * twoTo 52 ≤ bits then none
    else some (Float.ofBits (UInt64.ofNat (sign + bits)))

def ofInt (i : Int) : Option Float :=
  ofQuotient (decide (i < 0)) i.natAbs 1

def infinity : Float := Float.ofBits 0x7ff0000000000000

def undefined : Float := Float.ofBits 0x7ff8000000000000

end Binary64

end BoundedWait
