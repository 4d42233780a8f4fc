import Mathlib.Analysis.SpecialFunctions.Log.Base
import BoundedWait.Proofs.Policy.Exponent

namespace BoundedWait

noncomputable instance : Growth ℝ where
  exceedsOne m                 := decide (1 < m)
  steps initial multiplier cap := .ok ⌈Real.logb multiplier (cap / initial)⌉
  grown initial multiplier k   := initial * multiplier ^ k
  smaller                      := min

namespace Backoff

noncomputable def uncapped (b : Backoff ℝ) (n : ℤ) : ℝ :=
  b.initial * b.multiplier ^ (n - 1)

noncomputable def limited (b : Backoff ℝ) (d : ℝ) : ℝ :=
  match b.cap with
  | some cap => min d cap
  | none     => d

section

variable {b : Backoff ℝ} {m n : ℤ}

theorem cut_eq_limited (b : Backoff ℝ) (d : ℝ) : b.cut d = b.limited d := by
  unfold cut limited
  cases b.cap <;> rfl

theorem limited_mono (b : Backoff ℝ) : Monotone b.limited := by
  intro d e h
  unfold limited
  split
  case h_1 => exact min_le_min_right _ h
  case h_2 => exact h

theorem uncapped_mono (positive : 0 < b.initial) (grows : 1 ≤ b.multiplier) :
    Monotone b.uncapped := by
  intro m n h
  have : b.multiplier ^ (m - 1) ≤ b.multiplier ^ (n - 1) :=
    zpow_le_zpow_right₀ grows (Int.sub_le_sub_right h 1)
  exact mul_le_mul_of_nonneg_left this positive.le

theorem uncapped_one (b : Backoff ℝ) : b.uncapped 1 = b.initial := by
  simp [uncapped]

theorem initial_le_limited_uncapped (positive : 0 < b.initial) (grows : 1 ≤ b.multiplier)
    (room : ∀ cap, b.cap = some cap → b.initial ≤ cap) (h : 1 ≤ n) :
    b.initial ≤ b.limited (b.uncapped n) := by
  have grown : b.initial ≤ b.uncapped n := b.uncapped_one ▸ uncapped_mono positive grows h
  unfold limited
  split
  case h_1 cap capped => exact le_min grown (room cap capped)
  case h_2            => exact grown

theorem limited_of_cap_le {cap d : ℝ} (capped : b.cap = some cap) (h : cap ≤ d) :
    b.limited d = cap := by
  simp [limited, capped, h]

-- The logarithm, rounded up, is a number of steps after which the cap is reached.
theorem cap_le_grown {initial multiplier cap : ℝ} (positive : 0 < initial)
    (grows : 1 < multiplier) (room : initial ≤ cap) :
    cap ≤ initial * multiplier ^ ⌈Real.logb multiplier (cap / initial)⌉ := by
  have ratio : 0 < cap / initial := div_pos (positive.trans_le room) positive
  have reached : cap / initial ≤ multiplier ^ ⌈Real.logb multiplier (cap / initial)⌉ := by
    rw [← Real.rpow_intCast]
    exact (Real.logb_le_iff_le_rpow grows ratio).mp (Int.le_ceil _)
  rwa [div_le_iff₀' positive] at reached

-- Beyond those steps there is nothing to see: either way the delay is cut down to the cap.
theorem limited_cut {cap : ℝ} (capped : b.cap = some cap) (positive : 0 < b.initial)
    (grows : 1 < b.multiplier) (room : b.initial ≤ cap) (k : ℤ) :
    b.limited (b.initial * b.multiplier ^ min k ⌈Real.logb b.multiplier (cap / b.initial)⌉) =
      b.limited (b.initial * b.multiplier ^ k) := by
  have reached := cap_le_grown positive grows room
  cases le_total k ⌈Real.logb b.multiplier (cap / b.initial)⌉
  case inl short => rw [min_eq_left short]
  case inr long  =>
    have later : cap ≤ b.initial * b.multiplier ^ k := by
      have := zpow_le_zpow_right₀ grows.le long
      exact reached.trans (mul_le_mul_of_nonneg_left this positive.le)
    rw [min_eq_right long, limited_of_cap_le capped reached, limited_of_cap_le capped later]

theorem delay_eq_limited_uncapped (positive : 0 < b.initial)
    (room : ∀ cap, b.cap = some cap → b.initial ≤ cap) (h : 1 ≤ n) :
    b.delay n = .ok (b.limited (b.uncapped n)) := by
  have growth : max 0 (n - 1) = n - 1 := max_eq_right (by omega)
  -- Steps are counted only if there is a cap to reach and something grows.
  by_cases counts : ∃ cap, b.cap = some cap ∧ Growth.exceedsOne b.multiplier
  case pos =>
    have ⟨cap, capped, exceeds⟩ := counts
    have grows : 1 < b.multiplier := of_decide_eq_true exceeds
    have exponent : b.exponent n =
        .ok (min (n - 1) ⌈Real.logb b.multiplier (cap / b.initial)⌉) :=
      exponent_eq_ok_iff.mpr (.inl ⟨cap, _, capped, exceeds, rfl, by rw [growth]⟩)
    rw [uncapped, ← limited_cut capped positive grows (room cap capped)]
    exact delay_eq_ok_iff.mpr ⟨_, exponent, b.cut_eq_limited _⟩
  case neg =>
    push Not at counts
    have exponent : b.exponent n = .ok (n - 1) := exponent_eq_ok_iff.mpr (.inr ⟨counts, growth⟩)
    exact delay_eq_ok_iff.mpr ⟨_, exponent, b.cut_eq_limited _⟩

end

-- The delays of a backoff are those of the plain formula: they never decrease, are never shorter
-- than the first one, and are the cap itself from the first attempt on for which the formula
-- without a cap reaches it.
theorem delay_geometric (b : Backoff ℝ) (positive : 0 < b.initial) (grows : 1 ≤ b.multiplier)
    (room : ∀ cap, b.cap = some cap → b.initial ≤ cap) :
    (∀ n, 1 ≤ n → b.delay n = .ok (b.limited (b.uncapped n))) ∧
    (∀ m n d e, 1 ≤ m → m ≤ n → b.delay m = .ok d → b.delay n = .ok e → d ≤ e) ∧
    (∀ n d, 1 ≤ n → b.delay n = .ok d → b.initial ≤ d) ∧
    (∀ cap, b.cap = some cap →
      ∀ m n, 1 ≤ m → cap ≤ b.uncapped m → m ≤ n → b.delay n = .ok cap) := by
  have delay {n : ℤ} (h : 1 ≤ n) : b.delay n = .ok (b.limited (b.uncapped n)) :=
    delay_eq_limited_uncapped positive room h
  refine ⟨fun n => delay, ?monotone, ?bounded, ?reached⟩
  case monotone =>
    intro m n d e first le hd he
    rw [delay first] at hd
    rw [delay (first.trans le)] at he
    cases hd
    cases he
    exact b.limited_mono (uncapped_mono positive grows le)
  case bounded =>
    intro n d first hd
    rw [delay first] at hd
    cases hd
    exact initial_le_limited_uncapped positive grows room first
  case reached =>
    intro cap capped m n first reaches le
    rw [delay (first.trans le), limited_of_cap_le capped]
    exact reaches.trans (uncapped_mono positive grows le)

theorem delay_geometric_tripled :
    (0 : ℝ) < 1 ∧ (1 : ℝ) ≤ 3 ∧ (1 : ℝ) ≤ 5 ∧
    (⟨1, 3, some 5⟩ : Backoff ℝ).delay 2 = .ok 3 ∧
    (⟨1, 3, some 5⟩ : Backoff ℝ).delay 3 = .ok 5 ∧
    (⟨1, 3, some 5⟩ : Backoff ℝ).delay 4 = .ok 5 := by
  have ⟨formula, _, _, reached⟩ :=
    delay_geometric ⟨1, 3, some 5⟩ one_pos (by norm_num) (by rintro cap ⟨⟩; norm_num)
  have second := formula 2 (by norm_num)
  have later (n : ℤ) := reached 5 rfl 3 n (by norm_num) (by norm_num [uncapped])
  refine ⟨by norm_num, by norm_num, by norm_num, ?_, later 3 (by norm_num), later 4 (by norm_num)⟩
  rw [second]
  norm_num [limited, uncapped]

end Backoff

end BoundedWait
