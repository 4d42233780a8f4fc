import Mathlib
import BoundedWait.Act
import BoundedWait.Number.Power
import BoundedWait.Proofs.Number.Operations

namespace BoundedWait

open Float.Model Float.Model.UnpackedFloat

namespace Binary64

theorem unpack_eq_none_iff (x : Float) :
    Binary64.unpack x = none ↔ ∀ v, Number.valueOfFloat x ≠ .finite v := by
  unfold Number.valueOfFloat
  split
  case h_1 u finite => simp [finite]
  case h_2 beyond =>
    simp only [beyond, true_iff]
    intro v
    split
    case isTrue => nofun
    case isFalse => split <;> nofun

theorem double_one : Double (.finite 1) :=
  .finite ⟨1, 0, by norm_num⟩

theorem valueOfFloat_infinity : Number.valueOfFloat infinity = .highest := by
  decide +kernel

theorem mul_def (x y : Float) :
    x * y = ⟨.pack (UnpackedFloat.mul .binary64 x.toModel.unpack y.toModel.unpack)⟩ := rfl

theorem div_def (x y : Float) :
    x / y = ⟨.pack (UnpackedFloat.div .binary64 x.toModel.unpack y.toModel.unpack)⟩ := rfl

section

variable {x y : Float}

theorem finite_or_highest (pos : (Extended.finite 0).lt (Number.valueOfFloat x)) :
    (∃ v, 0 < v ∧ Number.valueOfFloat x = .finite v) ∨ Number.valueOfFloat x = .highest := by
  cases value : Number.valueOfFloat x
  case lowest    => simp [value, Extended.lt] at pos
  case finite v  => exact .inl ⟨v, by simpa [value, Extended.lt] using pos, rfl⟩
  case highest   => exact .inr rfl
  case undefined => simp [value, Extended.lt] at pos

theorem finite_or_infinity (pos : (Extended.finite 0).lt (Number.valueOfFloat x)) :
    (∃ m e, ∃ hm : 0 < m, x.toModel.unpack = .finite .positive m e hm) ∨
      x.toModel.unpack = .infinity .positive := by
  obtain ⟨v, v_pos, value⟩ | value := finite_or_highest pos
  case inl =>
    have ⟨m, e, hm, u, _⟩ := unpack_of_positive value v_pos
    exact .inl ⟨m, e, hm, u⟩
  case inr => exact .inr (unpack_of_highest value)

theorem double_of_positive (pos : (Extended.finite 0).lt (Number.valueOfFloat x)) :
    Double (Number.valueOfFloat x) := by
  obtain ⟨v, v_pos, value⟩ | value := finite_or_highest pos <;> rw [value]
  case inl =>
    have ⟨m, e, _, u, eq⟩ := unpack_of_positive value v_pos
    have ⟨canonical, room⟩ := canonical_of_unpack u
    exact .finite ⟨m, e, canonical.small, canonical.fine, room, eq⟩
  case inr => exact .infinite

theorem mul_highest (pos : (Extended.finite 0).lt (Number.valueOfFloat x))
    (value : Number.valueOfFloat y = .highest) : Number.valueOfFloat (x * y) = .highest := by
  rw [mul_def, unpack_of_highest value]
  obtain ⟨_, _, _, u⟩ | u := finite_or_infinity pos <;> rw [u]
  all_goals exact valueOfFloat_pack_special (by simp [UnpackedFloat.mul])

theorem highest_mul (value : Number.valueOfFloat x = .highest)
    (pos : (Extended.finite 0).lt (Number.valueOfFloat y)) :
    Number.valueOfFloat (x * y) = .highest := by
  rw [mul_def, unpack_of_highest value]
  obtain ⟨_, _, _, u⟩ | u := finite_or_infinity pos <;> rw [u]
  all_goals exact valueOfFloat_pack_special (by simp [UnpackedFloat.mul])

theorem le_mul (pos : (Extended.finite 0).lt (Number.valueOfFloat x))
    (ge_one : (Extended.finite 1).le (Number.valueOfFloat y)) :
    (Number.valueOfFloat x).le (Number.valueOfFloat (x * y)) := by
  have y_pos : (Extended.finite 0).lt (Number.valueOfFloat y) :=
    Extended.lt_of_lt_of_le (Extended.lt_finite_iff.mpr one_pos) ge_one
  obtain ⟨p, p_pos, xv⟩ | xv := finite_or_highest pos
  case inl =>
    obtain ⟨q, q_pos, yv⟩ | yv := finite_or_highest y_pos
    case inl =>
      rw [yv, Extended.le_finite_iff] at ge_one
      refine (rounds_mul xv yv p_pos q_pos).below _ (double_of_positive pos) ?_
      rw [xv, Extended.le_finite_iff]
      exact le_mul_of_one_le_right p_pos.le ge_one
    case inr =>
      rw [mul_highest pos yv, xv]
      rfl
  case inr =>
    rw [highest_mul xv y_pos, xv]
    rfl

theorem not_finite_div (beyond : Binary64.unpack x = none) (y : Float) :
    Binary64.unpack (x / y) = none := by
  have special : ∀ u, u = .notANumber ∨ (∃ s, u = .infinity s) →
      Binary64.unpack ⟨.pack u⟩ = none := by
    rintro u (rfl | ⟨s, rfl⟩) <;> rw [unpack_eq_none_iff]
    case inl =>
      rw [valueOfFloat_pack_special (u := .notANumber) (by simp)]
      simp [exactly]
    case inr =>
      rw [valueOfFloat_pack_special (u := .infinity s) (by simp)]
      cases s <;> simp [exactly]
  rw [unpack_eq_none_iff, valueOfFloat_eq] at beyond
  rw [div_def]
  apply special
  cases ux : x.toModel.unpack
  case notANumber => simp [UnpackedFloat.div]
  case infinity s => cases y.toModel.unpack <;> simp [UnpackedFloat.div]
  case zero       => simp [ux, exactly] at beyond
  case finite     => simp [ux, exactly] at beyond

theorem beq_zero_of_positive (pos : (Extended.finite 0).lt (Number.valueOfFloat x)) :
    (x == 0) = false := by
  change x.toModel.unpack.beq (0 : Float).toModel.unpack = false
  rw [unpack_zero]
  obtain ⟨_, _, _, u⟩ | u := finite_or_infinity pos <;> rw [u] <;> rfl

theorem zero_div (value : Number.valueOfFloat x = .finite 0)
    (pos : (Extended.finite 0).lt (Number.valueOfFloat y)) :
    Number.valueOfFloat (x / y) = .finite 0 := by
  have ⟨_, parts⟩ := unpack_of_zero value
  rw [div_def, parts]
  obtain ⟨_, _, _, u⟩ | u := finite_or_infinity pos <;> rw [u]
  all_goals exact valueOfFloat_pack_special (by simp [UnpackedFloat.div])

theorem div_highest {p : ℚ} (hx : Number.valueOfFloat x = .finite p) (p_pos : 0 < p)
    (hy : Number.valueOfFloat y = .highest) : Number.valueOfFloat (x / y) = .finite 0 := by
  have ⟨_, _, _, u, _⟩ := unpack_of_positive hx p_pos
  rw [div_def, u, unpack_of_highest hy]
  exact valueOfFloat_pack_special (by simp [UnpackedFloat.div])

theorem finite_div {p : ℚ} (hx : Number.valueOfFloat x = .finite p) (p_nonneg : 0 ≤ p)
    (small : p ≤ 2 ^ 10) (large : (Extended.finite (2 ^ (-60 : ℤ))).le (Number.valueOfFloat y)) :
    ∃ q, 0 ≤ q ∧ Number.valueOfFloat (x / y) = .finite q := by
  have y_pos : (Extended.finite 0).lt (Number.valueOfFloat y) :=
    Extended.lt_of_lt_of_le (Extended.lt_finite_iff.mpr (by positivity)) large
  obtain rfl | p_pos := p_nonneg.eq_or_lt
  case inl => exact ⟨0, le_rfl, zero_div hx y_pos⟩
  case inr =>
    obtain ⟨q, q_pos, hy⟩ | hy := finite_or_highest y_pos
    case inl =>
      have rounds := rounds_div hx hy p_pos q_pos
      -- Between 0 and 2 ^ 70 there are doubles only that have a value.
      have bound : p / q ≤ 2 ^ 70 := by
        rw [hy, Extended.le_finite_iff] at large
        rw [div_le_iff₀ q_pos]
        calc p
          _ ≤ 2 ^ 10                 := small
          _ = 2 ^ 70 * 2 ^ (-60 : ℤ) := by norm_num
          _ ≤ 2 ^ 70 * q             := by gcongr
      exact Extended.finite_of_between
        (rounds.below _ (.finite ⟨0, 0, by norm_num⟩) (Extended.le_finite_iff.mpr (by positivity)))
        (rounds.above _ (.finite ⟨1, 70, by norm_num⟩) (Extended.le_finite_iff.mpr bound))
    case inr => exact ⟨0, le_rfl, div_highest hx p_pos hy⟩

-- The quotient of two doubles in order, which is undefined if both are infinite.
theorem one_le_div (pos : (Extended.finite 0).lt (Number.valueOfFloat y))
    (le : (Number.valueOfFloat y).le (Number.valueOfFloat x)) :
    Number.valueOfFloat (x / y) = .undefined ∨
      (Extended.finite 1).le (Number.valueOfFloat (x / y)) := by
  obtain ⟨p, p_pos, hx⟩ | hx := finite_or_highest (Extended.lt_of_lt_of_le pos le)
  case inl =>
    obtain ⟨q, q_pos, hy⟩ | hy := finite_or_highest pos
    case inl =>
      rw [hx, hy, Extended.le_finite_iff] at le
      refine .inr ((rounds_div hx hy p_pos q_pos).below _ double_one ?_)
      rwa [Extended.le_finite_iff, le_div_iff₀ q_pos, one_mul]
    case inr => simp [hx, hy, Extended.le, Extended.lt, Extended.eq] at le
  case inr =>
    rw [div_def, unpack_of_highest hx]
    obtain ⟨_, _, _, u⟩ | u := finite_or_infinity pos <;> rw [u]
    case inl =>
      refine .inr ?_
      change (Extended.finite 1).le (Number.valueOfFloat ⟨.pack (.infinity .positive)⟩)
      rw [valueOfFloat_pack_special (u := .infinity .positive) (by simp)]
      rfl
    case inr => exact .inl (valueOfFloat_pack_special (by simp [UnpackedFloat.div]))

theorem value_eq_of_beq (h : x == y) : Number.valueOfFloat x = Number.valueOfFloat y := by
  have h : x.toModel.unpack.beq y.toModel.unpack := h
  have ⟨_, _, same⟩ := (beq_iff_ne_notANumber_and_eq _ _).mp h
  rw [valueOfFloat_eq, valueOfFloat_eq]
  obtain same | ⟨ux, uy⟩ | ⟨ux, uy⟩ := same
  case inl      => rw [same]
  case inr.inl  => rw [ux, uy]; rfl
  case inr.inr  => rw [ux, uy]; rfl

theorem rounds_ofInt {i : ℤ} (pos : 0 < i) :
    Rounds (.finite i) ((ofInt i).elim .highest Number.valueOfFloat) := by
  have := rounds_ofQuotient (Int.natAbs_pos.mpr pos.ne') one_pos
  have cast : ((i.natAbs : ℕ) : ℚ) = i := by
    rw [← Int.cast_natCast, Int.natAbs_of_nonneg pos.le]
  rw [cast, Nat.cast_one, div_one] at this
  rwa [ofInt, decide_eq_false pos.not_gt]

end

end Binary64

namespace Number

open Binary64

variable {n c : Number} {x q : Float}

theorem valueOfFloat_one : valueOfFloat 1 = .finite 1 := by
  decide +kernel

theorem value_of_integral {i : ℤ} (h : n.integral? = some i) : n.value = .finite i := by
  cases n <;> simp only [integral?, Option.some.injEq, reduceCtorEq] at h <;> subst h
  case bool b => cases b <;> rfl
  case int    => rfl

theorem rounds_toFloat (pos : (Extended.finite 0).lt n.value) (h : n.toFloat = .ok x) :
    Rounds n.value (valueOfFloat x) := by
  cases n
  case bool b =>
    cases b
    case false => simp [value, Extended.lt] at pos
    case true  =>
      cases h
      simp only [if_true, valueOfFloat_one]
      exact ⟨fun _ _ le => le, fun _ _ ge => ge⟩
  case int i =>
    have pos : 0 < i := by simpa [value, Extended.lt] using pos
    have := rounds_ofInt pos
    simp only [toFloat] at h
    split at h <;> cases h
    simp_all [value]
  case float y mark =>
    cases h
    exact ⟨fun _ _ le => le, fun _ _ ge => ge⟩

theorem toFloat_pos (pos : (Extended.finite 0).lt n.value) (h : n.toFloat = .ok x) :
    (Extended.finite 0).lt (valueOfFloat x) := by
  cases integral : n.integral?
  case none =>
    cases n <;> simp only [integral?, reduceCtorEq] at integral
    cases h
    exact pos
  case some i =>
    have value := value_of_integral integral
    have pos : 0 < i := by simpa [value, Extended.lt] using pos
    have one_le : (Extended.finite 1).le n.value := by
      rw [value, Extended.le_finite_iff]
      exact_mod_cast pos
    have := (rounds_toFloat ‹_› h).below _ double_one one_le
    exact Extended.lt_of_lt_of_le (Extended.lt_finite_iff.mpr one_pos) this

theorem defined_of_toFloat (h : n.toFloat = .ok x) (defined : valueOfFloat x ≠ .undefined) :
    n.value ≠ .undefined := by
  cases integral : n.integral?
  case none =>
    cases n <;> simp only [integral?, reduceCtorEq] at integral
    cases h
    exact defined
  case some i =>
    rw [value_of_integral integral]
    nofun

-- Two numbers stay in order when they become doubles, if one of them is a double already.
theorem toFloat_le_toFloat {y : Float} (pos : (Extended.finite 0).lt n.value) (le : n.le c)
    (mixed : n.integral? = none ∨ c.integral? = none) (hx : c.toFloat = .ok x)
    (hy : n.toFloat = .ok y) : (valueOfFloat y).le (valueOfFloat x) := by
  have le : n.value.le c.value := le
  have c_pos := Extended.lt_of_lt_of_le pos le
  obtain h | h := mixed
  case inl =>
    cases n <;> simp only [integral?, reduceCtorEq] at h
    cases hy
    exact (rounds_toFloat c_pos hx).below _ (double_of_positive pos) le
  case inr =>
    cases c <;> simp only [integral?, reduceCtorEq] at h
    cases hx
    exact (rounds_toFloat pos hy).above _ (double_of_positive c_pos) le

theorem one_le_div (pos : (Extended.finite 0).lt n.value) (le : n.le c) (h : c.div n = .ok q) :
    valueOfFloat q = .undefined ∨ (Extended.finite 1).le (valueOfFloat q) := by
  unfold div at h
  split at h
  case h_1 i j hi hj =>
    have j_pos : 0 < j := by simpa [value_of_integral hj, Extended.lt] using pos
    have ordered : j ≤ i := by
      have : n.value.le c.value := le
      rw [value_of_integral hj, value_of_integral hi, Extended.le_finite_iff] at this
      exact_mod_cast this
    have i_pos := j_pos.trans_le ordered
    have rounds := rounds_ofQuotient (Int.natAbs_pos.mpr i_pos.ne') (Int.natAbs_pos.mpr j_pos.ne')
    rw [if_neg j_pos.ne', decide_eq_false i_pos.not_gt, decide_eq_false j_pos.not_gt,
      bne_self_eq_false] at h
    split at h <;> cases h
    case h_1 quotient =>
      rw [quotient, Option.elim_some] at rounds
      refine .inr (rounds.below _ double_one ?_)
      have den : (0 : ℚ) < j.natAbs := by exact_mod_cast Int.natAbs_pos.mpr j_pos.ne'
      rw [Extended.le_finite_iff, le_div_iff₀ den, one_mul]
      exact_mod_cast (by omega : j.natAbs ≤ i.natAbs)
  case h_2 mixed =>
    have mixed : n.integral? = none ∨ c.integral? = none := by
      cases hn : n.integral?
      case none => exact .inl rfl
      case some =>
        cases hc : c.integral?
        case none => exact .inr rfl
        case some => exact absurd hn (mixed _ _ hc)
    obtain ⟨x, hx, h⟩ := Except.bind_eq_ok_iff.mp h
    obtain ⟨y, hy, h⟩ := Except.bind_eq_ok_iff.mp h
    rw [beq_zero_of_positive (toFloat_pos pos hy)] at h
    cases h
    exact Binary64.one_le_div (toFloat_pos pos hy) (toFloat_le_toFloat pos le mixed hx hy)

theorem logFloat_of_not_finite [Elementary]
    (h : valueOfFloat x = .undefined ∨ valueOfFloat x = .highest) :
    logFloat x = x := by
  have regular : ¬ x == 1 := by
    intro one
    have := (value_eq_of_beq one).trans valueOfFloat_one
    obtain h | h := h <;> rw [h] at this <;> cases this
  have special : x.isNaN || x == Binary64.infinity := by
    rw [Bool.or_eq_true]
    obtain undefined | highest := h
    case inl =>
      refine .inl ?_
      change x.toModel.unpack.isNaN
      rw [unpack_of_undefined undefined]
      rfl
    case inr =>
      refine .inr ?_
      change x.toModel.unpack.beq Binary64.infinity.toModel.unpack
      rw [unpack_of_highest highest, unpack_of_highest valueOfFloat_infinity]
      rfl
  rw [logFloat, if_neg regular, if_pos special]

theorem exists_ceil {v : ℚ} (h : valueOfFloat x = .finite v) (nonneg : 0 ≤ v) :
    ∃ k, ceil x = .ok k ∧ 0 ≤ k := by
  unfold valueOfFloat at h
  split at h
  case h_2 =>
    split at h
    case isTrue  => cases h
    case isFalse => split at h <;> cases h
  case h_1 u finite =>
    cases h
    have den : (0 : ℤ) < u.denominator := by exact_mod_cast u.denominator_pos
    rw [Rat.mkRat_eq_divInt, Rat.divInt_nonneg_iff_of_pos_right den] at nonneg
    have : -u.signed / (u.denominator : ℤ) ≤ 0 :=
      Int.ediv_nonpos_of_nonpos_of_neg (by omega) den
    exact ⟨_, by rw [ceil, finite], by omega⟩

theorem ceil_ne_ok (beyond : Binary64.unpack x = none) (k : ℤ) : ceil x ≠ .ok k := by
  simp [ceil, beyond]

end Number

end BoundedWait
