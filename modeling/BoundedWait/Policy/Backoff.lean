import BoundedWait.Fault.Misuse

namespace BoundedWait

-- What a delay is computed with. `steps` is the logarithm of `cap / initial` to the base
-- `multiplier`, rounded up, and `grown` is `initial * multiplier ^ exponent`.
class Growth (τ : Type) where
  exceedsOne : τ → Bool
  steps      : (initial multiplier cap : τ) → Except Fault Int
  grown      : (initial multiplier : τ) → (exponent : Int) → τ
  smaller    : τ → τ → τ

structure Backoff (τ : Type) where
  initial    : τ
  multiplier : τ
  cap        : Option τ

namespace Backoff

variable {τ : Type} [Growth τ]

def exponent (b : Backoff τ) (attempt : Int) : Except Fault Int :=
  let growth := max 0 (attempt - 1)
  match b.cap with
  | some cap =>
    if Growth.exceedsOne b.multiplier then do
      return min growth (← Growth.steps b.initial b.multiplier cap)
    else .ok growth
  | none => .ok growth

def delay (b : Backoff τ) (attempt : Int) : Except Fault τ := do
  let d := Growth.grown b.initial b.multiplier (← b.exponent attempt)
  return match b.cap with
    | some cap => Growth.smaller d cap
    | none     => d

theorem delay_uncapped (b : Backoff τ) (attempt : Int) (h : b.cap = none) :
    b.delay attempt = .ok (Growth.grown b.initial b.multiplier (max 0 (attempt - 1))) := by
  simp [delay, exponent, h, bind, Except.bind, pure, Except.pure]

end Backoff

end BoundedWait
