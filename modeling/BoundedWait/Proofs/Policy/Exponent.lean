import BoundedWait.Act
import BoundedWait.Policy.Backoff

namespace BoundedWait

namespace Backoff

variable {τ : Type} [Growth τ] {b : Backoff τ} {n k : Int} {d : τ}

def cut (b : Backoff τ) (d : τ) : τ :=
  match b.cap with
  | some cap => Growth.smaller d cap
  | none     => d

theorem exponent_eq_ok_iff :
    b.exponent n = .ok k ↔
      (∃ cap j, b.cap = some cap ∧ Growth.exceedsOne b.multiplier ∧
        Growth.steps b.initial b.multiplier cap = .ok j ∧ min (max 0 (n - 1)) j = k) ∨
      (∀ cap, b.cap = some cap → ¬ Growth.exceedsOne b.multiplier) ∧ max 0 (n - 1) = k := by
  unfold exponent
  cases capped : b.cap
  case none => simp
  case some cap =>
    cases grows : Growth.exceedsOne b.multiplier
    case false => simp
    case true =>
      simp only [if_true, Except.bind_eq_ok_iff]
      simp [pure, Except.pure]

theorem delay_eq_ok_iff :
    b.delay n = .ok d ↔
      ∃ k, b.exponent n = .ok k ∧ b.cut (Growth.grown b.initial b.multiplier k) = d := by
  rw [delay, Except.bind_eq_ok_iff]
  refine exists_congr fun k => and_congr_right fun _ => ?_
  cases capped : b.cap <;> simp [cut, capped, pure, Except.pure]

end Backoff

end BoundedWait
