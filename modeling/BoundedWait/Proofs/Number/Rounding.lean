import Mathlib
import BoundedWait.Proofs.Number.Double

namespace BoundedWait

namespace Binary64

def Representable (v : ℚ) : Prop :=
  ∃ (m : ℕ) (e : ℤ), m < 2 ^ 53 ∧ -1074 ≤ e ∧ e ≤ 971 ∧ v = m * 2 ^ e

inductive Double : Extended → Prop where
  | finite {v : ℚ} (h : Representable v) : Double (.finite v)
  | infinite : Double .highest

-- No double lies between a number and the value that it is rounded to.
structure Rounds (q r : Extended) : Prop where
  below : ∀ d, Double d → d.le q → d.le r
  above : ∀ d, Double d → q.le d → r.le d

-- A multiple of a unit that is less than one unit away. The unit is a power of two, and small
-- against the number unless it is the least one that doubles have.
structure Nearby (q : ℚ) (n : ℕ) (t : ℤ) : Prop where
  lower : q < (n + 1) * 2 ^ t
  upper : n * 2 ^ t < q + 2 ^ t
  fine  : t = -1074 ∨ 2 ^ 52 * 2 ^ t ≤ q

theorem Representable.lt {v : ℚ} (h : Representable v) : v < 2 ^ 1024 := by
  obtain ⟨m, e, small, -, room, rfl⟩ := h
  exact scaled_lt small room

namespace Nearby

variable {q v : ℚ} {n : ℕ} {t : ℤ}

theorem full_of_le (h : Nearby q n t) (fine : 2 ^ 52 * 2 ^ t ≤ q) : 2 ^ 52 ≤ n := by
  have : (2 : ℚ) ^ 52 < n + 1 := lt_of_mul_lt_mul_right (fine.trans_lt h.lower) (by positivity)
  exact Nat.le_of_lt_succ (by exact_mod_cast this)

theorem full (h : Nearby q n t) : t = -1074 ∨ 2 ^ 52 ≤ n :=
  h.fine.imp_right h.full_of_le

theorem le_of_limit (h : Nearby q n t) (limit : q ≤ 2 ^ 53 * 2 ^ t) : n ≤ 2 ^ 53 := by
  have : (n : ℚ) * 2 ^ t < (2 ^ 53 + 1) * 2 ^ t := by linarith [h.upper]
  have : (n : ℚ) < 2 ^ 53 + 1 := lt_of_mul_lt_mul_right this (by positivity)
  exact Nat.le_of_lt_succ (by exact_mod_cast this)

-- A double is a multiple of the unit, or else less than the number of units that are full.
theorem unit_dvd_or_lt (h : Nearby q n t) (double : Representable v) :
    (∃ k : ℕ, v = k * 2 ^ t) ∨ v < 2 ^ 52 * 2 ^ t ∧ 2 ^ 52 * 2 ^ t ≤ q := by
  obtain ⟨m, e, small, fine, -, rfl⟩ := double
  by_cases coarse : t ≤ e
  case pos =>
    refine .inl ⟨m * 2 ^ (e - t).toNat, ?_⟩
    have : (2 : ℚ) ^ e = 2 ^ (e - t).toNat * 2 ^ t := by
      rw [← zpow_natCast, ← zpow_add₀ two_ne_zero]
      congr 1
      omega
    rw [this]
    push_cast
    ring
  case neg =>
    have unit : (0 : ℚ) < 2 ^ e := by positivity
    have below : (m : ℚ) * 2 ^ e < 2 ^ 52 * 2 ^ t :=
      calc (m : ℚ) * 2 ^ e
        _ < 2 ^ 53 * 2 ^ e       := by gcongr; exact_mod_cast small
        _ ≤ 2 ^ 53 * 2 ^ (t - 1) := by gcongr; exacts [one_le_two, by omega]
        _ = 2 ^ 52 * 2 ^ t       := by rw [zpow_sub_one₀ two_ne_zero]; ring
    exact .inr ⟨below, h.fine.resolve_left (by omega)⟩

theorem le_of_le (h : Nearby q n t) (double : Representable v) (le : v ≤ q) : v ≤ n * 2 ^ t := by
  have unit : (0 : ℚ) < 2 ^ t := by positivity
  obtain ⟨k, rfl⟩ | ⟨lt, fine⟩ := h.unit_dvd_or_lt double
  case inl =>
    have : (k : ℚ) < n + 1 := lt_of_mul_lt_mul_right (le.trans_lt h.lower) unit.le
    have : k ≤ n := Nat.le_of_lt_succ (by exact_mod_cast this)
    gcongr
  case inr =>
    calc v
      _ ≤ 2 ^ 52 * 2 ^ t := lt.le
      _ ≤ n * 2 ^ t      := by gcongr; exact_mod_cast h.full_of_le fine

theorem ge_of_ge (h : Nearby q n t) (double : Representable v) (ge : q ≤ v) : n * 2 ^ t ≤ v := by
  have unit : (0 : ℚ) < 2 ^ t := by positivity
  obtain ⟨k, rfl⟩ | ⟨lt, fine⟩ := h.unit_dvd_or_lt double
  case inl =>
    have : (n : ℚ) * 2 ^ t < (k + 1) * 2 ^ t := by linarith [h.upper]
    have : (n : ℚ) < k + 1 := lt_of_mul_lt_mul_right this unit.le
    have : n ≤ k := Nat.le_of_lt_succ (by exact_mod_cast this)
    gcongr
  case inr => linarith

theorem rounds (h : Nearby q n t) : Rounds (.finite q) (saturated (n * 2 ^ t)) := by
  constructor
  case below =>
    rintro _ (double | _) le
    case finite =>
      rw [Extended.le_finite_iff] at le
      unfold saturated
      split
      case isTrue  => exact Extended.le_finite_iff.mpr (h.le_of_le double le)
      case isFalse => rfl
    case infinite => simp [Extended.le, Extended.lt, Extended.eq] at le
  case above =>
    rintro _ (double | _) ge
    case finite =>
      rw [Extended.le_finite_iff] at ge
      have le := h.ge_of_ge double ge
      rw [saturated, if_pos (le.trans_lt double.lt)]
      exact Extended.le_finite_iff.mpr le
    case infinite => exact Extended.le_highest_iff.mpr (saturated_ne_undefined _)

end Nearby

section

variable {num den : ℕ}

theorem roundQuotient_lt (num : ℕ) (pos : 0 < den) :
    num < (roundQuotient num den + 1) * den ∧ roundQuotient num den * den < num + den := by
  have split := Nat.div_add_mod' num den
  have rest := Nat.mod_lt num pos
  have := Nat.div_mul_le_self num den
  simp only [roundQuotient]
  split
  case isTrue => constructor <;> linarith
  case isFalse =>
    split
    case isTrue => constructor <;> linarith
    case isFalse =>
      obtain even | odd := Nat.mod_two_eq_zero_or_one (num / den)
      case inl => rw [even]; constructor <;> linarith
      case inr => rw [odd]; constructor <;> linarith

theorem reached_iff (hden : 0 < den) (k : ℤ) :
    (if 0 ≤ k then den * twoTo k.toNat ≤ num else den ≤ num * twoTo (-k).toNat) ↔
      (2 : ℚ) ^ k ≤ num / den := by
  have pos : (0 : ℚ) < den := by exact_mod_cast hden
  rw [le_div_iff₀ pos]
  by_cases nonneg : 0 ≤ k
  case pos =>
    obtain ⟨k, rfl⟩ := Int.eq_ofNat_of_zero_le nonneg
    simp only [nonneg, if_true, Int.toNat_natCast, zpow_natCast, twoTo, Nat.pow_eq]
    rw [mul_comm]
    norm_cast
  case neg =>
    obtain ⟨k, rfl⟩ := Int.exists_eq_neg_ofNat (by omega : k ≤ 0)
    have unit : (0 : ℚ) < 2 ^ k := by positivity
    simp only [nonneg, if_false, neg_neg, Int.toNat_natCast, zpow_neg, zpow_natCast, twoTo,
      Nat.pow_eq]
    rw [inv_mul_le_iff₀ unit, mul_comm]
    norm_cast

theorem leadingBit_spec (hnum : 0 < num) (hden : 0 < den) :
    (2 : ℚ) ^ leadingBit num den ≤ num / den ∧ (num / den : ℚ) < 2 ^ (leadingBit num den + 1) := by
  have pos : (0 : ℚ) < den := by exact_mod_cast hden
  have num_ge : (2 : ℚ) ^ num.log2 ≤ num := by exact_mod_cast Nat.log2_self_le hnum.ne'
  have num_lt : (num : ℚ) < 2 ^ (num.log2 + 1) := by exact_mod_cast Nat.lt_log2_self
  have den_ge : (2 : ℚ) ^ den.log2 ≤ den := by exact_mod_cast Nat.log2_self_le hden.ne'
  have den_lt : (den : ℚ) < 2 ^ (den.log2 + 1) := by exact_mod_cast Nat.lt_log2_self
  -- The bits of the two parts tell the leading bit of their quotient but for one.
  have above : (num / den : ℚ) < 2 ^ ((num.log2 : ℤ) - den.log2 + 1) := by
    rw [div_lt_iff₀ pos]
    calc (num : ℚ)
      _ < 2 ^ (num.log2 + 1)                                 := num_lt
      _ = 2 ^ ((num.log2 : ℤ) - den.log2 + 1) * 2 ^ den.log2 := by
        rw [← zpow_natCast, ← zpow_natCast, ← zpow_add₀ two_ne_zero]
        congr 1
        push_cast
        ring
      _ ≤ 2 ^ ((num.log2 : ℤ) - den.log2 + 1) * den          := by gcongr
  have below : (2 : ℚ) ^ ((num.log2 : ℤ) - den.log2 - 1) ≤ num / den := by
    rw [le_div_iff₀ pos]
    calc (2 : ℚ) ^ ((num.log2 : ℤ) - den.log2 - 1) * den
      _ ≤ 2 ^ ((num.log2 : ℤ) - den.log2 - 1) * 2 ^ (den.log2 + 1) := by gcongr
      _ = 2 ^ num.log2                                             := by
        rw [← zpow_natCast, ← zpow_natCast, ← zpow_add₀ two_ne_zero]
        congr 1
        push_cast
        ring
      _ ≤ num                                                      := num_ge
  simp only [leadingBit, reached_iff hden]
  split
  case isTrue reached => exact ⟨reached, above⟩
  case isFalse short  => exact ⟨below, by simpa using short⟩

theorem nearby_roundQuotient (hden : 0 < den) {t : ℤ}
    (fine : t = -1074 ∨ (2 : ℚ) ^ 52 * 2 ^ t ≤ num / den) :
    Nearby (num / den) (roundQuotient (num * twoTo (-t).toNat) (den * twoTo t.toNat)) t := by
  have ⟨lower, upper⟩ := roundQuotient_lt (num * twoTo (-t).toNat)
    (Nat.mul_pos hden (twoTo_pos t.toNat))
  generalize roundQuotient (num * twoTo (-t).toNat) (den * twoTo t.toNat) = n at *
  have pos : (0 : ℚ) < den := by exact_mod_cast hden
  have up : (0 : ℚ) < 2 ^ (-t).toNat := by positivity
  have lower : (num : ℚ) * 2 ^ (-t).toNat < (n + 1) * (den * 2 ^ t.toNat) := by
    exact_mod_cast lower
  have upper : (n : ℚ) * (den * 2 ^ t.toNat) < num * 2 ^ (-t).toNat + den * 2 ^ t.toNat := by
    exact_mod_cast upper
  constructor
  case lower =>
    rw [zpow_eq_div, div_lt_iff₀ pos, ← mul_div_assoc, div_mul_eq_mul_div, lt_div_iff₀ up]
    linarith
  case upper =>
    rw [zpow_eq_div]
    field_simp
    linarith
  case fine => exact fine

theorem exactly_ofQuotient (hnum : 0 < num) (hden : 0 < den) :
    ∃ n t, Nearby (num / den) n t ∧
      ((ofQuotient false num den).elim .highest Number.valueOfFloat) = saturated (n * 2 ^ t) := by
  have ⟨ge, lt⟩ := leadingBit_spec hnum hden
  obtain ⟨t, unit⟩ : ∃ t, t = max (leadingBit num den - 52) (-1074) := ⟨_, rfl⟩
  obtain ⟨n, steps⟩ :
      ∃ n, n = roundQuotient (num * twoTo (-t).toNat) (den * twoTo t.toNat) := ⟨_, rfl⟩
  have fine : t = -1074 ∨ (2 : ℚ) ^ 52 * 2 ^ t ≤ num / den := by
    by_cases lowest : t = -1074
    case pos => exact .inl lowest
    case neg =>
      have : leadingBit num den = 52 + t := by omega
      rw [this, zpow_add₀ two_ne_zero] at ge
      exact .inr ge
  have nearby : Nearby (num / den) n t := steps ▸ nearby_roundQuotient hden fine
  have limit : (num / den : ℚ) ≤ 2 ^ 53 * 2 ^ t :=
    calc (num / den : ℚ)
      _ ≤ 2 ^ (leadingBit num den + 1) := lt.le
      _ ≤ 2 ^ (53 + t)                 := zpow_le_zpow_right₀ one_le_two (by omega)
      _ = 2 ^ 53 * 2 ^ t               := zpow_add₀ two_ne_zero 53 t
  have full : (t + 1074).toNat = 0 ∨ 2 ^ 52 ≤ n := nearby.full.imp_left (by omega)
  have exponent : ((t + 1074).toNat : ℤ) - 1074 = t := by omega
  have room := room_iff (nearby.le_of_limit limit) full
  rw [exponent] at room
  have bits : ofQuotient false num den =
      if 2047 * 2 ^ 52 ≤ (t + 1074).toNat * 2 ^ 52 + n then none
      else some (Float.ofBits (UInt64.ofNat ((t + 1074).toNat * 2 ^ 52 + n))) := by
    rw [ofQuotient, if_neg hnum.ne', steps, unit]
    simp [twoTo]
  refine ⟨n, t, nearby, ?_⟩
  rw [bits, saturated]
  -- Above the largest exponent there are no bits left, and no double either.
  by_cases small : (t + 1074).toNat * 2 ^ 52 + n < 2047 * 2 ^ 52
  case pos =>
    have value := valueOfFloat_of_toBits (toBits_ofBits small) (nearby.le_of_limit limit) full small
    rw [if_neg small.not_ge, if_pos (room.mp small), Option.elim_some, value, exponent]
  case neg =>
    rw [if_pos (not_lt.mp small), if_neg (mt room.mpr small), Option.elim_none]

theorem rounds_ofQuotient (hnum : 0 < num) (hden : 0 < den) :
    Rounds (.finite (num / den))
      ((ofQuotient false num den).elim .highest Number.valueOfFloat) := by
  have ⟨_, _, nearby, value⟩ := exactly_ofQuotient hnum hden
  rw [value]
  exact nearby.rounds

end

end Binary64

end BoundedWait
