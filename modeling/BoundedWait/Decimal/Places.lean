import BoundedWait.Number.Binary64

namespace BoundedWait

namespace Decimal

def pointed (places scaled : Nat) : String :=
  let digits := toString scaled
  let padded := String.ofList (List.replicate (places + 1 - digits.length) '0') ++ digits
  let whole  := padded.length - places
  String.ofList (padded.toList.take whole) ++ "." ++ String.ofList (padded.toList.drop whole)

def fixed (places : Nat) (x : Float) : String :=
  match Binary64.unpack x with
  | none =>
    if x.isNaN then "nan" else if x < 0 then "-inf" else "inf"
  | some u =>
    let scaled := Binary64.roundQuotient (u.numerator * tenTo places) u.denominator
    (if u.negative then "-" else "") ++ pointed places scaled

def milliseconds (x : Float) : String :=
  fixed 3 x

end Decimal

end BoundedWait
