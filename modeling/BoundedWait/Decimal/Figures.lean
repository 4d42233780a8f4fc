import BoundedWait.Decimal.Shortest

namespace BoundedWait

namespace Decimal

namespace Figures

inductive Form where
  | positional
  | scientific
  | shorter
deriving DecidableEq, Repr

-- A point stands only in front of digits, unless it is to be kept.
def join (keepsPoint : Bool) (whole fraction : List Char) : List Char :=
  if fraction.isEmpty && !keepsPoint then whole else whole ++ '.' :: fraction

theorem join_nil (whole : List Char) : join false whole [] = whole := rfl

def zeros (n : Nat) : List Char :=
  List.replicate n '0'

def leading (count num den : Nat) : List Char × Int :=
  if num = 0 then (zeros count, 0)
  else
    let first := leadingDigit num den
    let last  := first - (count - 1 : Int)
    let n     := Binary64.roundQuotient (num * tenTo (-last).toNat) (den * tenTo last.toNat)
    if n < tenTo count then (Nat.toDigits 10 n, first) else (Nat.toDigits 10 (n / 10), first + 1)

theorem leading_zero (count den : Nat) : leading count 0 den = (zeros count, 0) := rfl

def exponent (i : Int) : List Char :=
  let digits := Nat.toDigits 10 i.natAbs
  ['e', if i < 0 then '-' else '+'] ++ zeros (2 - digits.length) ++ digits

def positional (places : Nat) (keepsPoint : Bool) (num den : Nat) : List Char :=
  let digits := Nat.toDigits 10 (Binary64.roundQuotient (num * tenTo places) den)
  let padded := zeros (places + 1 - digits.length) ++ digits
  let whole  := padded.length - places
  join keepsPoint (padded.take whole) (padded.drop whole)

def scientific (places : Nat) (keepsPoint : Bool) (num den : Nat) : List Char :=
  let (digits, first) := leading (places + 1) num den
  join keepsPoint (digits.take 1) (digits.drop 1) ++ exponent first

-- Digits with a point, or with an exponent if they stand for something very small or too large for
-- so many digits. Zeros at the end are left out where the point need not be kept.
def shorter (count : Nat) (keepsPoint : Bool) (num den : Nat) : List Char :=
  let count := max count 1
  let (digits, first) := leading count num den
  let trimmed (cs : List Char) :=
    if keepsPoint then cs else (cs.reverse.dropWhile (· == '0')).reverse
  if -4 ≤ first && first < 0 then
    join keepsPoint ['0'] (trimmed (zeros (first.natAbs - 1) ++ digits))
  else if 0 ≤ first && first < count then
    let whole := first.toNat + 1
    join keepsPoint (digits.take whole) (trimmed (digits.drop whole))
  else join keepsPoint (digits.take 1) (trimmed (digits.drop 1)) ++ exponent first

def write (form : Form) (count : Nat) (keepsPoint : Bool) (num den : Nat) : List Char :=
  match form with
  | .positional => positional count keepsPoint num den
  | .scientific => scientific count keepsPoint num den
  | .shorter    => shorter count keepsPoint num den

end Figures

end Decimal

end BoundedWait
