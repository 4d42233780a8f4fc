import BoundedWait.Policy.Backoff
import BoundedWait.Number.Power
import BoundedWait.Value.Order

namespace BoundedWait

namespace Number

variable [Elementary]

-- `initial * multiplier ^ exponent`, and infinity once a part of it is too large.
def grown (initial multiplier : Number) (exponent : Int) : Float :=
  match initial.toFloat, multiplier.toFloat with
  | .ok x, .ok y =>
    match power? y exponent with
    | some z => x * z
    | none   => Binary64.infinity
  | _, _ => Binary64.infinity

def steps (initial multiplier cap : Number) : Except Error Int := do
  let ratio ← cap.div initial
  let base := multiplier.log
  if base == 0 then throw .floatDivisionByZero
  ceil (logFloat ratio / base)

instance : Growth Number where
  exceedsOne n                  := (Number.float 1 0).lt n
  steps initial multiplier cap  := checked (steps initial multiplier cap)
  grown initial multiplier k    := .ofFloat (grown initial multiplier k)
  smaller                       := min

end Number

end BoundedWait
