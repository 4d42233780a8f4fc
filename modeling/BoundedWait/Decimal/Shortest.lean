import BoundedWait.Number.Binary64

namespace BoundedWait

namespace Decimal

def leadingDigit (num den : Nat) : Int :=
  if den ≤ num then
    (toString (num / den)).length - 1
  else
    let size : Int := (toString (den / num)).length
    if num * tenTo (size - 1).toNat = den then 1 - size else -size

structure Scaled where
  digits   : Nat
  exponent : Int

namespace Scaled

def numerator (d : Scaled) : Nat :=
  d.digits * tenTo d.exponent.toNat

def denominator (d : Scaled) : Nat :=
  tenTo (-d.exponent).toNat

def readsBack (d : Scaled) (x : Float) : Bool :=
  match Binary64.ofQuotient false d.numerator d.denominator with
  | some y => x.toBits == y.toBits
  | none   => false

end Scaled

-- Of the decimals with the given last place, one that rounds to `x` and lies nearest to it.
def onGrid? (num den : Nat) (x : Float) (place : Int) : Option Scaled :=
  let num'  := num * tenTo (-place).toNat
  let den'  := den * tenTo place.toNat
  let low   := num' / den'
  let below := Scaled.mk low place
  let above := Scaled.mk (low + 1) place
  let near  := Scaled.mk (Binary64.roundQuotient num' den') place
  if near.readsBack x then some near
  else if below.readsBack x then some below
  else if above.readsBack x then some above
  else none

-- The first grid, from one significant digit to `more` further ones, with a decimal that rounds
-- to `x`.
def fewestDigits (num den : Nat) (x : Float) (place : Int) : Nat → Scaled
  | 0        =>
    ⟨Binary64.roundQuotient (num * tenTo (-place).toNat) (den * tenTo place.toNat), place⟩
  | more + 1 =>
    match onGrid? num den x place with
    | some d => d
    | none   => fewestDigits num den x (place - 1) more

def trimZeros (digits : String) : String :=
  let kept := (digits.toList.reverse.dropWhile (· == '0')).reverse
  String.ofList (if kept.isEmpty then ['0'] else kept)

structure Layout where
  lowestPositional  : Int
  highestPositional : Int
  exponentDigits    : Nat

-- Powers from `1e-4` up to, but without, `1e16` are positional; exponents have a sign and at least
-- two digits.
def layout : Layout := ⟨-4, 15, 2⟩

def zeros (n : Nat) : String :=
  String.ofList (List.replicate n '0')

def padLeft (width : Nat) (s : String) : String :=
  zeros (width - s.length) ++ s

-- Digits `d₀d₁…` standing for `d₀.d₁… * 10 ^ lead`.
def Layout.write (l : Layout) (digits : String) (lead : Int) : String :=
  let count := digits.length
  if lead < l.lowestPositional || l.highestPositional < lead then
    let head := String.ofList (digits.toList.take 1)
    let tail := String.ofList (digits.toList.drop 1)
    let sign := if lead < 0 then "-" else "+"
    (if tail.isEmpty then head else head ++ "." ++ tail) ++ "e" ++ sign ++
      padLeft l.exponentDigits (toString lead.natAbs)
  else if lead < 0 then
    "0." ++ zeros (lead.natAbs - 1) ++ digits
  else
    let whole := lead.toNat + 1
    let front := String.ofList (digits.toList.take whole) ++ zeros (whole - count)
    let back  := String.ofList (digits.toList.drop whole)
    front ++ "." ++ (if back.isEmpty then "0" else back)

def ofFloat (x : Float) : String :=
  match Binary64.unpack x with
  | none =>
    if x.isNaN then "nan" else if x < 0 then "-inf" else "inf"
  | some u =>
    let sign := if u.negative then "-" else ""
    if u.significand = 0 then sign ++ "0.0"
    else
      let num    := u.numerator
      let den    := u.denominator
      let place  := leadingDigit num den
      let short  := fewestDigits num den x.abs place 16
      let digits := toString short.digits
      sign ++ layout.write (trimZeros digits) (short.exponent + digits.length - 1)

end Decimal

end BoundedWait
