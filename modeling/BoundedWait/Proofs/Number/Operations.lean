import Mathlib
import BoundedWait.Proofs.Number.Rounding

namespace BoundedWait

namespace Binary64

open Float.Model Float.Model.UnpackedFloat

-- A significand with its residual bits stands for a number: at least the significand, more if one
-- of the bits is set, and less than the next one.
structure Covers (em : ExtendedMantissa) (t : ℤ) (q : ℚ) : Prop where
  le    : em.mantissa * 2 ^ t ≤ q
  lt    : q < (em.mantissa + 1) * 2 ^ t
  exact : (em.roundBit || em.stickyBit) = true → em.mantissa * 2 ^ t < q

namespace Covers

variable {em : ExtendedMantissa} {t : ℤ} {q : ℚ}

theorem shiftRightOne (h : Covers em t q) : Covers em.shiftRightOne (t + 1) q := by
  have unit : (0 : ℚ) < 2 ^ t := by positivity
  have double : (2 : ℚ) ^ (t + 1) = 2 * 2 ^ t := by rw [zpow_add_one₀ two_ne_zero, mul_comm]
  have ⟨le, lt, exact⟩ := h
  have halved : em.shiftRightOne.mantissa = em.mantissa / 2 := rfl
  -- The bit that is shifted out becomes the round bit, and the one before joins the sticky one.
  obtain even | odd := Nat.mod_two_eq_zero_or_one em.mantissa
  case inl =>
    have : (em.mantissa : ℚ) = em.shiftRightOne.mantissa * 2 := by
      exact_mod_cast (by omega : em.mantissa = em.shiftRightOne.mantissa * 2)
    rw [this] at le lt exact
    constructor <;> rw [double]
    case le    => linarith
    case lt    => linarith
    case exact =>
      intro residual
      have := exact (by simpa [ExtendedMantissa.shiftRightOne, even] using residual)
      linarith
  case inr =>
    have : (em.mantissa : ℚ) = em.shiftRightOne.mantissa * 2 + 1 := by
      exact_mod_cast (by omega : em.mantissa = em.shiftRightOne.mantissa * 2 + 1)
    rw [this] at le lt
    constructor <;> rw [double]
    case le    => linarith
    case lt    => linarith
    case exact =>
      intro _
      linarith

theorem shiftRight (h : Covers em t q) (k : ℕ) : Covers (em >>> k) (t + k) q := by
  induction k
  case zero => rwa [Nat.cast_zero, add_zero]
  case succ k hi =>
    have : Covers (em >>> k).shiftRightOne (t + k + 1) q := hi.shiftRightOne
    rw [Nat.cast_add_one, ← add_assoc]
    exact this

theorem roundedMantissa (h : Covers em t q) :
    q < (em.roundedMantissa + 1) * 2 ^ t ∧ em.roundedMantissa * 2 ^ t < q + 2 ^ t := by
  have unit : (0 : ℚ) < 2 ^ t := by positivity
  have ⟨le, lt, exact⟩ := h
  have kept_or_next : em.roundedMantissa = em.mantissa ∨
      em.roundedMantissa = em.mantissa + 1 ∧ (em.roundBit || em.stickyBit) = true := by
    obtain ⟨m, r, s⟩ := em
    cases r <;> cases s <;> simp [ExtendedMantissa.roundedMantissa, ExtendedMantissa.accuracy,
      Accuracy.roundToNearestEven]
    omega
  obtain kept | ⟨next, residual⟩ := kept_or_next
  case inl =>
    rw [kept]
    exact ⟨lt, by linarith⟩
  case inr =>
    rw [next]
    push_cast
    exact ⟨by linarith, by linarith [exact residual]⟩

end Covers

section

variable {m : ℕ} {e : ℤ} {acc : Accuracy} {q : ℚ}

def unitOf (m : ℕ) (e : ℤ) : ℤ :=
  max (m.log2 + e - 52) (-1074)

theorem lowest_le_unitOf (m : ℕ) (e : ℤ) : -1074 ≤ unitOf m e :=
  le_max_right _ _

theorem le_unitOf (long : 52 ≤ m.log2 ∨ e ≤ -1074) : e ≤ unitOf m e := by
  simp only [unitOf]
  omega

theorem shiftToTargetExponent_eq (m : ℕ) (e : ℤ) (acc : Accuracy) :
    shiftToTargetExponent .binary64 m e acc =
      (ExtendedMantissa.ofMantissaAndAccuracy m acc >>> (unitOf m e - e).toNat,
        e + (unitOf m e - e).toNat) := by
  have target : Format.targetExponent .binary64 (totalExponent m e) = unitOf m e := by
    have : Format.minExponent .binary64 = -1074 := rfl
    simp only [Format.targetExponent, totalExponent, mantissaBits_eq, this, unitOf]
    congr 1
    omega
  simp only [shiftToTargetExponent, shiftToExponent, target]

-- A significand of at most 53 bits stays as it is, and one that is a bit longer loses a zero.
theorem settle {n : ℕ} {t : ℤ} (le : n ≤ 2 ^ 53) (fine : -1074 ≤ t)
    (full : t = -1074 ∨ 2 ^ 52 ≤ n) :
    ∃ em u, shiftToTargetExponent .binary64 n t .exact = (em, u) ∧ Canonical em.mantissa u ∧
      (em.mantissa : ℚ) * 2 ^ u = n * 2 ^ t := by
  obtain small | rfl := Nat.lt_or_eq_of_le le
  case inl =>
    have kept : (unitOf n t - t).toNat = 0 := by
      have : n.log2 ≤ 52 := by
        by_cases zero : n = 0
        case pos => simp [zero]
        case neg =>
          have := (Nat.log2_lt zero).mpr small
          omega
      simp only [unitOf]
      omega
    refine ⟨⟨n, false, false⟩, t, ?_, ⟨small, fine, full⟩, rfl⟩
    rw [shiftToTargetExponent_eq, kept, Nat.cast_zero, add_zero]
    rfl
  case inr =>
    have carried : (unitOf (2 ^ 53) t - t).toNat = 1 := by
      simp only [unitOf, Nat.log2_two_pow]
      omega
    refine ⟨⟨2 ^ 52, false, false⟩, t + 1, ?_, ⟨by norm_num, by omega, .inr le_rfl⟩, ?_⟩
    case refine_1 =>
      rw [shiftToTargetExponent_eq, carried]
      rfl
    case refine_2 =>
      rw [zpow_add_one₀ two_ne_zero]
      push_cast
      ring

theorem mantissa_ofMantissaAndAccuracy (m : ℕ) (acc : Accuracy) :
    (ExtendedMantissa.ofMantissaAndAccuracy m acc).mantissa = m := by
  cases acc
  case exact     => rfl
  case inexact o => cases o <;> rfl

theorem unitOf_fine (covers : Covers (.ofMantissaAndAccuracy m acc) e q)
    (long : 52 ≤ m.log2 ∨ e ≤ -1074) : unitOf m e = -1074 ∨ 2 ^ 52 * 2 ^ unitOf m e ≤ q := by
  have unit : (0 : ℚ) < 2 ^ e := by positivity
  have le := covers.le
  rw [mantissa_ofMantissaAndAccuracy] at le
  by_cases lowest : unitOf m e = -1074
  case pos => exact .inl lowest
  case neg =>
    have leading : unitOf m e = m.log2 + e - 52 := by
      simp only [unitOf] at *
      omega
    have nonzero : m ≠ 0 := by
      rintro rfl
      simp only [unitOf, Nat.log2_zero] at *
      omega
    refine .inr (le.trans' ?_)
    calc (2 : ℚ) ^ 52 * 2 ^ unitOf m e
      _ = 2 ^ m.log2 * 2 ^ e := by
        rw [leading, ← zpow_natCast, ← zpow_natCast, ← zpow_add₀ two_ne_zero,
          ← zpow_add₀ two_ne_zero]
        congr 1
        push_cast
        ring
      _ ≤ m * 2 ^ e          := by gcongr; exact_mod_cast Nat.log2_self_le nonzero

theorem le_limit (covers : Covers (.ofMantissaAndAccuracy m acc) e q) :
    q ≤ 2 ^ 53 * 2 ^ unitOf m e := by
  have unit : (0 : ℚ) < 2 ^ e := by positivity
  have lt := covers.lt
  rw [mantissa_ofMantissaAndAccuracy] at lt
  have above : m + 1 ≤ 2 ^ (m.log2 + 1) := Nat.lt_log2_self
  calc q
    _ ≤ (m + 1) * 2 ^ e           := lt.le
    _ ≤ 2 ^ (m.log2 + 1) * 2 ^ e  := by gcongr; exact_mod_cast above
    _ = 2 ^ (m.log2 + 1 + e)      := by rw [zpow_add₀ two_ne_zero]; norm_cast
    _ ≤ 2 ^ (53 + unitOf m e)     := by
      refine zpow_le_zpow_right₀ one_le_two ?_
      simp only [unitOf]
      omega
    _ = 2 ^ 53 * 2 ^ unitOf m e   := by rw [zpow_add₀ two_ne_zero]; norm_cast

theorem exactly_round (long : 52 ≤ m.log2 ∨ e ≤ -1074)
    (covers : Covers (.ofMantissaAndAccuracy m acc) e q) :
    ∃ n t, Nearby q n t ∧
      Number.valueOfFloat ⟨.pack (roundWithAccuracy .binary64 .positive m e acc)⟩ =
        saturated (n * 2 ^ t) := by
  have fine := unitOf_fine covers long
  have limit := le_limit covers
  have shifted : e + (unitOf m e - e).toNat = unitOf m e := by
    have := le_unitOf long
    omega
  have covers := covers.shiftRight (unitOf m e - e).toNat
  have first := shiftToTargetExponent_eq m e acc
  rw [shifted] at covers first
  generalize ExtendedMantissa.ofMantissaAndAccuracy m acc >>> (unitOf m e - e).toNat = em at *
  have ⟨lower, upper⟩ := covers.roundedMantissa
  have nearby : Nearby q em.roundedMantissa (unitOf m e) := ⟨lower, upper, fine⟩
  have ⟨last, u, second, canonical, same⟩ :=
    -- Rounding up may have made the significand one bit longer.
    settle (nearby.le_of_limit limit) (lowest_le_unitOf m e) nearby.full
  refine ⟨_, _, nearby, ?_⟩
  rw [← same]
  simp only [roundWithAccuracy, first, second]
  split
  case isTrue zero  =>
    rw [valueOfFloat_pack_special (u := .zero .positive) (by simp)]
    simp [zero, saturated, exactly]
  case isFalse nonzero => exact exactly_pack _ canonical

theorem covers_exact (m : ℕ) (e : ℤ) :
    Covers (.ofMantissaAndAccuracy m .exact) e (m * 2 ^ e) := by
  have unit : (0 : ℚ) < 2 ^ e := by positivity
  refine ⟨le_rfl, ?_, nofun⟩
  simp only [mantissa_ofMantissaAndAccuracy]
  linarith

theorem covers_inexact (o : Ordering) (le : m * 2 ^ e < q) (lt : q < (m + 1) * 2 ^ e) :
    Covers (.ofMantissaAndAccuracy m (.inexact o)) e q := by
  refine ⟨?_, ?_, fun _ => ?_⟩ <;> rw [mantissa_ofMantissaAndAccuracy]
  exacts [le.le, lt, le]

end

section

variable {x y : Float} {p q : ℚ}

theorem rounds_mul (hx : Number.valueOfFloat x = .finite p) (hy : Number.valueOfFloat y = .finite q)
    (p_pos : 0 < p) (q_pos : 0 < q) : Rounds (.finite (p * q)) (Number.valueOfFloat (x * y)) := by
  obtain ⟨m, e, hm, ux, rfl⟩ := unpack_of_positive hx p_pos
  obtain ⟨n, f, hn, uy, rfl⟩ := unpack_of_positive hy q_pos
  have long : 52 ≤ (m * n).log2 ∨ e + f ≤ -1074 := by
    have ⟨⟨_, _, mfull⟩, _⟩ := canonical_of_unpack ux
    have ⟨⟨_, _, nfull⟩, _⟩ := canonical_of_unpack uy
    -- Only the product of two numbers below the normal ones can be short.
    by_cases subnormal : e = -1074 ∧ f = -1074
    case pos => exact .inr (by omega)
    case neg =>
      have : 2 ^ 52 ≤ m * n := by
        obtain h | h : 2 ^ 52 ≤ m ∨ 2 ^ 52 ≤ n := by omega
        case inl => exact h.trans (Nat.le_mul_of_pos_right m hn)
        case inr => exact h.trans (Nat.le_mul_of_pos_left n hm)
      exact .inl ((Nat.le_log2 (by positivity)).mpr this)
  have covers : Covers (.ofMantissaAndAccuracy (m * n) .exact) (e + f)
      (m * 2 ^ e * (n * 2 ^ f)) := by
    have := covers_exact (m * n) (e + f)
    rw [zpow_add₀ two_ne_zero] at this
    convert this using 1
    push_cast
    ring
  have ⟨_, _, nearby, value⟩ := exactly_round long covers
  have product : x * y =
      ⟨.pack (roundWithAccuracy .binary64 .positive (m * n) (e + f) .exact)⟩ := by
    change (⟨.pack (UnpackedFloat.mul .binary64 x.toModel.unpack y.toModel.unpack)⟩ : Float) = _
    rw [ux, uy]
    rfl
  rw [product, value]
  exact nearby.rounds

theorem covers_fraction {n : ℕ} (hn : 0 < n) (m : ℕ) (e : ℤ) :
    Covers (.ofMantissaAndAccuracy (m / n) (accuracyOfFraction (m % n) n)) e (m / n * 2 ^ e) := by
  have unit : (0 : ℚ) < 2 ^ e := by positivity
  have den : (0 : ℚ) < n := by exact_mod_cast hn
  have split : (m : ℚ) = n * (m / n : ℕ) + (m % n : ℕ) := by
    exact_mod_cast (Nat.div_add_mod m n).symm
  unfold accuracyOfFraction
  split
  case isTrue whole =>
    have : (m : ℚ) / n = (m / n : ℕ) := by
      rw [div_eq_iff den.ne', split, whole]
      simp [mul_comm]
    rw [this]
    exact covers_exact _ e
  case isFalse rest =>
    have rest : (0 : ℚ) < (m % n : ℕ) := by exact_mod_cast Nat.pos_of_ne_zero rest
    have less : ((m % n : ℕ) : ℚ) < n := by exact_mod_cast Nat.mod_lt m hn
    apply covers_inexact
    case le =>
      gcongr
      rw [lt_div_iff₀ den]
      linarith
    case lt =>
      gcongr
      rw [div_lt_iff₀ den]
      linarith

-- The quotient of two significands is taken to at least 53 bits, if its unit is not the least one.
theorem exists_divCore (m n : ℕ) (e f : ℤ) :
    ∃ (k : ℕ) (t : ℤ), e - f = k + t ∧ (t ≤ -1074 ∨ n.log2 + 53 ≤ m.log2 + k) ∧
      divCore .binary64 m e n f =
        (m * 2 ^ k / n, t, accuracyOfFraction (m * 2 ^ k % n) n) := by
  have lowest : Format.minExponent .binary64 = -1074 := rfl
  refine ⟨_, _, ?_, ?_, by simp only [divCore, Nat.shiftLeft_eq]; rfl⟩
  all_goals simp only [Format.targetExponent, totalExponent, mantissaBits_eq, lowest]; omega

theorem rounds_div (hx : Number.valueOfFloat x = .finite p) (hy : Number.valueOfFloat y = .finite q)
    (p_pos : 0 < p) (q_pos : 0 < q) : Rounds (.finite (p / q)) (Number.valueOfFloat (x / y)) := by
  obtain ⟨m, e, hm, ux, rfl⟩ := unpack_of_positive hx p_pos
  obtain ⟨n, f, hn, uy, rfl⟩ := unpack_of_positive hy q_pos
  have ⟨k, t, exponents, bits, core⟩ := exists_divCore m n e f
  have quotient : x / y = ⟨.pack (roundWithAccuracy .binary64 .positive (m * 2 ^ k / n) t
      (accuracyOfFraction (m * 2 ^ k % n) n))⟩ := by
    change (⟨.pack (UnpackedFloat.div .binary64 x.toModel.unpack y.toModel.unpack)⟩ : Float) = _
    simp only [ux, uy, UnpackedFloat.div, core]
    rfl
  have long : 52 ≤ (m * 2 ^ k / n).log2 ∨ t ≤ -1074 := by
    refine bits.symm.imp_left fun bits => ?_
    have : 2 ^ 52 * n ≤ m * 2 ^ k :=
      calc 2 ^ 52 * n
        _ ≤ 2 ^ 52 * 2 ^ (n.log2 + 1) := by gcongr; exact Nat.lt_log2_self.le
        _ = 2 ^ (n.log2 + 53)         := by ring
        _ ≤ 2 ^ (m.log2 + k)          := by gcongr; norm_num
        _ = 2 ^ m.log2 * 2 ^ k        := by ring
        _ ≤ m * 2 ^ k                 := by gcongr; exact Nat.log2_self_le hm.ne'
    have : 2 ^ 52 ≤ m * 2 ^ k / n := (Nat.le_div_iff_mul_le hn).mpr this
    exact (Nat.le_log2 (by omega)).mpr this
  have covers := covers_fraction hn (m * 2 ^ k) t
  have same : ((m * 2 ^ k : ℕ) : ℚ) / n * 2 ^ t = m * 2 ^ e / (n * 2 ^ f) := by
    have : (2 : ℚ) ^ e = 2 ^ k * 2 ^ t * 2 ^ f := by
      rw [← zpow_natCast, ← zpow_add₀ two_ne_zero, ← zpow_add₀ two_ne_zero]
      congr 1
      omega
    rw [this]
    push_cast
    field_simp
  rw [same] at covers
  have ⟨_, _, nearby, value⟩ := exactly_round long covers
  rw [quotient, value]
  exact nearby.rounds

end

end Binary64

end BoundedWait
