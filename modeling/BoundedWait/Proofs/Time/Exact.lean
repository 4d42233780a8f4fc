import Mathlib.Analysis.SpecialFunctions.Log.Base
import BoundedWait.Proofs.Policy.Exponent
import BoundedWait.Wait.Engine

namespace BoundedWait

instance : Span ℚ where
  sub a b     := .ok (a - b)
  spent r     := decide (r ≤ 0)
  shorter a b := min a b

namespace Span

variable {a b c : ℚ}

theorem sub_eq_ok_iff : Span.sub a b = .ok c ↔ c = a - b := by
  simp [Span.sub, eq_comm]

theorem spent_iff : Span.spent a = true ↔ a ≤ 0 := by
  simp [Span.spent]

theorem unspent_iff : Span.spent a = false ↔ 0 < a := by
  simp [Span.spent]

theorem shorter_eq_min : Span.shorter a b = min a b := rfl

end Span

noncomputable instance : Growth ℚ where
  exceedsOne m                 := decide (1 < m)
  steps initial multiplier cap := .ok ⌈Real.logb multiplier (cap / initial)⌉
  grown initial multiplier k   := initial * multiplier ^ k
  smaller                      := min

namespace Backoff

structure Valid (b : Backoff ℚ) : Prop where
  initial    : 0 < b.initial
  multiplier : 1 ≤ b.multiplier
  cap        : ∀ cap, b.cap = some cap → b.initial ≤ cap

variable {b : Backoff ℚ}

theorem exists_monotone_exponent (b : Backoff ℚ) :
    ∃ e : ℤ → ℤ, Monotone e ∧ ∀ n, b.exponent n = .ok (e n) := by
  have growth : Monotone fun n : ℤ => max 0 (n - 1) := by
    intro m n h
    exact max_le_max_left 0 (by omega)
  by_cases counts : ∃ cap, b.cap = some cap ∧ Growth.exceedsOne b.multiplier
  case pos =>
    have ⟨cap, capped, grows⟩ := counts
    obtain ⟨k, steps⟩ : ∃ k, Growth.steps b.initial b.multiplier cap = .ok k := ⟨_, rfl⟩
    exact ⟨_, growth.min (monotone_const (c := k)),
      fun n => exponent_eq_ok_iff.mpr (.inl ⟨cap, k, capped, grows, steps, rfl⟩)⟩
  case neg =>
    push Not at counts
    exact ⟨_, growth, fun n => exponent_eq_ok_iff.mpr (.inr ⟨counts, rfl⟩)⟩

theorem exists_monotone_delay (h : b.Valid) :
    ∃ d : ℤ → ℚ, Monotone d ∧ ∀ n, b.delay n = .ok (d n) := by
  have ⟨e, mono, exponent⟩ := b.exists_monotone_exponent
  have grown : Monotone fun n => b.initial * b.multiplier ^ e n := by
    intro m n le
    exact mul_le_mul_of_nonneg_left (zpow_le_zpow_right₀ h.multiplier (mono le)) h.initial.le
  have cut : Monotone b.cut := by
    intro d d' le
    unfold Backoff.cut
    split
    case h_1 => exact min_le_min_right _ le
    case h_2 => exact le
  exact ⟨_, cut.comp grown, fun n => delay_eq_ok_iff.mpr ⟨e n, exponent n, rfl⟩⟩

theorem exponent_nonneg (h : b.Valid) {n k : ℤ} (exponent : b.exponent n = .ok k) : 0 ≤ k := by
  have growth : 0 ≤ max 0 (n - 1) := le_max_left 0 (n - 1)
  obtain ⟨cap, j, capped, grows, steps, rfl⟩ | ⟨_, rfl⟩ := exponent_eq_ok_iff.mp exponent
  case inl =>
    have one_lt : (1 : ℝ) < b.multiplier := by exact_mod_cast of_decide_eq_true grows
    have reached : (1 : ℝ) ≤ cap / b.initial := by
      have := (one_le_div h.initial).mpr (h.cap cap capped)
      exact_mod_cast this
    cases steps
    exact le_min growth (Int.ceil_nonneg (Real.logb_nonneg one_lt reached))
  case inr => exact growth

theorem initial_le_delay (h : b.Valid) {n : ℤ} {d : ℚ} (delay : b.delay n = .ok d) :
    b.initial ≤ d := by
  have ⟨k, exponent, made⟩ := delay_eq_ok_iff.mp delay
  have grown : b.initial ≤ b.initial * b.multiplier ^ k :=
    le_mul_of_one_le_right h.initial.le
      (one_le_zpow₀ h.multiplier (exponent_nonneg h exponent))
  subst made
  unfold cut
  split
  case h_1 cap capped => exact le_min grown (h.cap cap capped)
  case h_2            => exact grown

end Backoff

end BoundedWait
