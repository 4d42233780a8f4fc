import BoundedWait.Number.Basic

namespace BoundedWait

-- Powers and natural logarithms of doubles, which no standard settles to the last digit.
class Elementary where
  power : Float → Float → Float
  log   : Float → Float

instance : Elementary := ⟨Float.pow, Float.log⟩

namespace Number

variable [Elementary]

def power? (base : Float) (exponent : Int) : Option Float :=
  match Binary64.ofInt exponent with
  | none   => none
  | some e =>
    if exponent = 0 then some 1
    else if base == 1 then some 1
    else if base.isNaN then some base
    else if (Binary64.unpack base).isNone then some base
    else
      let result := Elementary.power base e
      if (Binary64.unpack result).isNone then none else some result

def logFloat (x : Float) : Float :=
  if x == 1 then 0
  else if x.isNaN || x == Binary64.infinity then x
  else Elementary.log x

-- The natural logarithm of a positive number. An integer beyond the doubles is split into a double
-- and a power of two.
def log (n : Number) : Float :=
  match n.toFloat with
  | .ok x    => logFloat x
  | .error _ =>
    match n.integral? with
    | some i =>
      let bits := i.natAbs.log2 + 1
      let part := (Binary64.ofQuotient false i.natAbs (twoTo bits)).getD 0
      logFloat part + logFloat 2 * (Binary64.ofInt bits).getD 0
    | none => Binary64.undefined

end Number

end BoundedWait
