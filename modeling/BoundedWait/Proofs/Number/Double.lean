import Mathlib
import BoundedWait.Proofs.Number.Order

namespace BoundedWait

namespace Binary64

open Float.Model Float.Model.UnpackedFloat

theorem lead_toNat (v : BitVec 52) : (1#1 ++ v).toNat = 2 ^ 52 + v.toNat := by
  rw [BitVec.toNat_append, ← Nat.shiftLeft_add_eq_or_of_lt v.isLt]
  rfl

theorem exponentBias_eq : Format.exponentBias .binary64 = 1023 := rfl

theorem mantissaBits_eq : Format.mantissaBits .binary64 = 53 := rfl

section

variable (x : Float)

def negative : Bool :=
  2 ^ 63 ≤ x.toBits.toNat

def biased : Nat :=
  x.toBits.toNat / 2 ^ 52 % 2 ^ 11

def fraction : Nat :=
  x.toBits.toNat % 2 ^ 52

theorem fraction_lt : fraction x < 2 ^ 52 :=
  Nat.mod_lt _ (by norm_num)

theorem biased_lt : biased x < 2 ^ 11 :=
  Nat.mod_lt _ (by norm_num)

theorem unpackExponent_toNat :
    (@unpackExponent .binary64 x.toModel.toBits.toBitVec).toNat = biased x := by
  simp [unpackExponent_def, Nat.shiftRight_eq_div_pow, biased, Float.toBits]

theorem unpackMantissa_toNat :
    (@unpackMantissa .binary64 x.toModel.toBits.toBitVec).toNat = fraction x := by
  simp [unpackMantissa_def, fraction, Float.toBits]

def sign : Sign :=
  if negative x then .negative else .positive

theorem unpackSign_eq :
    Sign.ofBitVec (@unpackSign .binary64 x.toModel.toBits.toBitVec) = sign x := by
  have top : (@unpackSign .binary64 x.toModel.toBits.toBitVec).toNat =
      x.toBits.toNat / 2 ^ 63 := by
    have := x.toBits.toNat_lt
    simp [unpackSign_def, Nat.shiftRight_eq_div_pow, Float.toBits] at *
    omega
  have : x.toBits.toNat / 2 ^ 63 = 0 ↔ negative x = false := by
    simp only [negative, decide_eq_false_iff_not]
    omega
  cases h : negative x <;> simp_all [Sign.ofBitVec, sign, ← BitVec.toNat_inj]

theorem unpack_def :
    unpack x =
      if biased x = 2047 then none
      else if biased x = 0 then some ⟨negative x, fraction x, -1074⟩
      else some ⟨negative x, 2 ^ 52 + fraction x, biased x - 1075⟩ := rfl

theorem toModel_unpack_def :
    x.toModel.unpack =
      if biased x = 2047 then
        if fraction x = 0 then .infinity (sign x) else .notANumber
      else if biased x = 0 then
        if h : fraction x = 0 then .zero (sign x)
        else .finite (sign x) (fraction x) (-1074) (Nat.pos_of_ne_zero h)
      else .finite (sign x) (2 ^ 52 + fraction x) (biased x - 1075) (by omega) := by
  have top : @unpackExponent .binary64 x.toModel.toBits.toBitVec = -1#11 ↔
      biased x = 2047 := by
    rw [← BitVec.toNat_inj, unpackExponent_toNat]; rfl
  have low : @unpackExponent .binary64 x.toModel.toBits.toBitVec = 0#11 ↔
      biased x = 0 := by
    rw [← BitVec.toNat_inj, unpackExponent_toNat]; rfl
  have whole : @unpackMantissa .binary64 x.toModel.toBits.toBitVec = 0#52 ↔
      fraction x = 0 := by
    rw [← BitVec.toNat_inj, unpackMantissa_toNat]; rfl
  unfold Float.Model.unpack UnpackedFloat.unpack
  simp only [top, low, whole, lead_toNat, unpackExponent_toNat, unpackMantissa_toNat,
    unpackSign_eq, exponentBias_eq]
  congr! 2
  case _ _ subnormal => simp [subnormal]

end

def exactly : UnpackedFloat → Extended
  | .notANumber         => .undefined
  | .infinity .positive => .highest
  | .infinity .negative => .lowest
  | .zero _             => .finite 0
  | .finite s m e _     => .finite (s.apply m * 2 ^ e)

theorem zpow_eq_div (e : ℤ) : (2 : ℚ) ^ e = 2 ^ e.toNat / 2 ^ (-e).toNat := by
  rw [← zpow_natCast, ← zpow_natCast, ← zpow_sub₀ two_ne_zero]
  congr 1
  omega

theorem Unpacked.mkRat_signed (u : Unpacked) :
    mkRat u.signed u.denominator =
      (if u.negative then -(u.significand : ℚ) else u.significand) * 2 ^ u.exponent := by
  simp only [Rat.mkRat_eq_div, signed, numerator, denominator, twoTo, zpow_eq_div]
  split <;> simp [mul_div_assoc]
  ring

theorem unpack_zero : (0 : Float).toModel.unpack = .zero .positive := by
  have bits : (0 : Float).toModel.toBits = 0 := by decide +kernel
  simp [Float.Model.unpack, bits, UnpackedFloat.unpack]
  rfl

theorem lt_zero_iff (x : Float) : x < 0 ↔ x.toModel.unpack.lt (.zero .positive) = true := by
  rw [← unpack_zero]
  exact decide_eq_true_iff

theorem valueOfFloat_eq (x : Float) : Number.valueOfFloat x = exactly x.toModel.unpack := by
  have isNaN : x.isNaN = x.toModel.unpack.isNaN := rfl
  simp only [Number.valueOfFloat, isNaN, lt_zero_iff]
  rw [unpack_def, toModel_unpack_def]
  by_cases top : biased x = 2047
  case pos =>
    by_cases whole : fraction x = 0
    case pos => cases sign x <;> simp [top, whole, UnpackedFloat.isNaN, exactly] <;> rfl
    case neg => simp [top, whole, UnpackedFloat.isNaN, exactly]
  case neg =>
    by_cases low : biased x = 0
    case pos =>
      by_cases whole : fraction x = 0
      case pos => simp [low, whole, Unpacked.mkRat_signed, exactly]
      case neg =>
        simp only [low, whole, Unpacked.mkRat_signed, exactly, sign]
        cases negative x <;> simp [Sign.apply]
    case neg =>
      simp only [top, low, if_false, Unpacked.mkRat_signed, exactly, sign]
      cases negative x <;> simp [Sign.apply]

section

variable {x : Float}

theorem unpack_of_positive {v : ℚ} (h : Number.valueOfFloat x = .finite v) (pos : 0 < v) :
    ∃ m e, ∃ hm : 0 < m, x.toModel.unpack = .finite .positive m e hm ∧ v = m * 2 ^ e := by
  rw [valueOfFloat_eq] at h
  cases u : x.toModel.unpack
  case notANumber => simp [u, exactly] at h
  case infinity s => cases s <;> simp [u, exactly] at h
  case zero =>
    simp [u, exactly] at h
    exact absurd h pos.ne
  case finite s m e hm =>
    simp only [u, exactly, Extended.finite.injEq] at h
    subst h
    cases s
    case positive => exact ⟨m, e, hm, rfl, by simp [Sign.apply]⟩
    case negative =>
      have : (0 : ℚ) ≤ m * 2 ^ e := by positivity
      simp [Sign.apply] at pos
      linarith

theorem unpack_of_zero (h : Number.valueOfFloat x = .finite 0) :
    ∃ s, x.toModel.unpack = .zero s := by
  rw [valueOfFloat_eq] at h
  cases u : x.toModel.unpack
  case notANumber => simp [u, exactly] at h
  case infinity s => cases s <;> simp [u, exactly] at h
  case zero s => exact ⟨s, rfl⟩
  case finite s m e hm =>
    have : (2 : ℚ) ^ e ≠ 0 := by positivity
    cases s <;> simp [u, exactly, Sign.apply, hm.ne', this] at h

theorem unpack_of_highest (h : Number.valueOfFloat x = .highest) :
    x.toModel.unpack = .infinity .positive := by
  rw [valueOfFloat_eq] at h
  cases u : x.toModel.unpack <;> simp [u, exactly] at h
  case infinity s => cases s <;> simp_all

theorem unpack_of_undefined (h : Number.valueOfFloat x = .undefined) :
    x.toModel.unpack = .notANumber := by
  rw [valueOfFloat_eq] at h
  cases u : x.toModel.unpack <;> simp [u, exactly] at h
  case infinity s => cases s <;> simp_all
  case notANumber => rfl

end

-- The parts of a number that is packed as it is: the significand has at most 53 bits, and as many
-- unless the exponent is the least one.
structure Canonical (m : Nat) (e : Int) : Prop where
  small : m < 2 ^ 53
  fine  : -1074 ≤ e
  full  : e = -1074 ∨ 2 ^ 52 ≤ m

section

variable {s : Sign} {m : Nat} {e : Int}

theorem canonical_of_unpack {x : Float} {pos : 0 < m} (h : x.toModel.unpack = .finite s m e pos) :
    Canonical m e ∧ e ≤ 971 := by
  have fraction := fraction_lt x
  have biased := biased_lt x
  rw [toModel_unpack_def] at h
  split at h
  case isTrue => split at h <;> cases h
  case isFalse =>
    split at h
    case isTrue =>
      split at h <;> cases h
      exact ⟨⟨by omega, by omega, .inl rfl⟩, by omega⟩
    case isFalse =>
      cases h
      exact ⟨⟨by omega, by omega, .inr (by omega)⟩, by omega⟩

theorem unpack_pack (pos : 0 < m) (c : Canonical m e) (room : e ≤ 971) :
    (Float.Model.pack (.finite s m e pos)).unpack = .finite s m e pos := by
  have ⟨small, fine, full⟩ := c
  have biased : (e + (1023 : Nat) + (52 : Nat)).toNat = (e + 1075).toNat := by omega
  have room : ¬ 2 ^ 11 ≤ (e + 1075).toNat + 1 := by omega
  simp only [Float.Model.unpack, Float.Model.pack, UnpackedFloat.pack, exponentBias_eq, biased,
    room, if_false]
  -- The leading bit of a full significand is not written, but told by the exponent.
  by_cases normal : 2 ^ 52 ≤ m
  case pos =>
    have bits : m.log2 + 1 = Format.mantissaBits .binary64 := by
      rw [(Nat.log2_eq_iff pos.ne').mpr ⟨normal, small⟩, mantissaBits_eq]
    have low : BitVec.ofNat 11 (e + 1075).toNat ≠ 0#11 := by
      simp [← BitVec.toNat_inj]
      omega
    have top : BitVec.ofNat 11 (e + 1075).toNat ≠ -1#11 := by
      simp [← BitVec.toNat_inj]
      omega
    have led : 2 ^ 52 + (BitVec.ofNat 52 m).toNat = m := by
      rw [BitVec.toNat_ofNat]
      omega
    have exponent : ((BitVec.ofNat 11 (e + 1075).toNat).toNat : Int) -
        ((1023 : Nat) + (52 : Nat)) = e := by
      rw [BitVec.toNat_ofNat]
      omega
    simp only [bits, if_true, UnpackedFloat.unpack, unpackExponent_packComponents,
      unpackMantissa_packComponents, unpackSign_packComponents, Sign.ofBitVec_toBitVec, top, low,
      if_false, lead_toNat, exponentBias_eq, led, exponent]
  case neg =>
    have subnormal : m < 2 ^ 52 := by omega
    have bits : m.log2 + 1 ≠ Format.mantissaBits .binary64 := by
      have := (Nat.log2_lt pos.ne').mpr subnormal
      rw [mantissaBits_eq]
      omega
    have whole : BitVec.ofNat 52 m ≠ 0#52 := by
      simp [← BitVec.toNat_inj]
      omega
    simp [bits, UnpackedFloat.unpack, whole, exponentBias_eq]
    omega

theorem unpack_pack_beyond (pos : 0 < m) (beyond : 971 < e) :
    (Float.Model.pack (.finite s m e pos)).unpack = .infinity s := by
  have beyond : 2 ^ 11 ≤ (e + (1023 : Nat) + (52 : Nat)).toNat + 1 := by omega
  simp only [Float.Model.unpack, Float.Model.pack, UnpackedFloat.pack, exponentBias_eq, beyond,
    if_true, packedInfinity]
  simp [UnpackedFloat.unpack]

theorem scaled_lt (small : m < 2 ^ 53) (room : e ≤ 971) : (m : ℚ) * 2 ^ e < 2 ^ 1024 := by
  have unit : (0 : ℚ) < 2 ^ e := by positivity
  calc (m : ℚ) * 2 ^ e
    _ < 2 ^ 53 * 2 ^ e         := by gcongr; exact_mod_cast small
    _ ≤ 2 ^ 53 * 2 ^ (971 : ℤ) := by gcongr; exact one_le_two
    _ = 2 ^ 1024               := by rw [zpow_ofNat, ← pow_add]

theorem valueOfFloat_pack_special {u : UnpackedFloat} (special : ∀ s m e h, u ≠ .finite s m e h) :
    Number.valueOfFloat ⟨.pack u⟩ = exactly u := by
  rw [valueOfFloat_eq]
  cases u
  case notANumber => simp [Float.Model.unpack, Float.Model.pack, UnpackedFloat.pack]
  case zero       => simp [Float.Model.unpack, Float.Model.pack, UnpackedFloat.pack, exactly]
  case finite     => exact (special _ _ _ _ rfl).elim
  case infinity s =>
    cases s <;> simp [Float.Model.unpack, Float.Model.pack, UnpackedFloat.pack, packedInfinity,
      UnpackedFloat.unpack]

def saturated (v : ℚ) : Extended :=
  if v < 2 ^ 1024 then .finite v else .highest

theorem saturated_ne_undefined (v : ℚ) : saturated v ≠ .undefined := by
  unfold saturated
  split <;> simp

theorem exactly_pack (pos : 0 < m) (c : Canonical m e) :
    Number.valueOfFloat ⟨.pack (.finite .positive m e pos)⟩ = saturated (m * 2 ^ e) := by
  have unit : (0 : ℚ) < 2 ^ e := by positivity
  rw [valueOfFloat_eq]
  by_cases room : e ≤ 971
  case pos =>
    simp [unpack_pack pos c room, exactly, saturated, scaled_lt c.small room, Sign.apply]
  case neg =>
    have full : (2 : ℚ) ^ 52 ≤ m := by
      have := c.full
      exact_mod_cast (by omega : 2 ^ 52 ≤ m)
    have large : ¬ (m : ℚ) * 2 ^ e < 2 ^ 1024 := by
      rw [not_lt]
      calc (2 : ℚ) ^ 1024
        _ = 2 ^ 52 * 2 ^ (972 : ℤ)  := by rw [zpow_ofNat, ← pow_add]
        _ ≤ m * 2 ^ e               := by gcongr; exacts [one_le_two, Int.not_le.mp room]
    have infinite := unpack_pack_beyond (s := .positive) pos (Int.not_le.mp room)
    simp [infinite, exactly, saturated, large]

end

theorem toBits_ofBits {n : ℕ} (h : n < 2047 * 2 ^ 52) :
    (Float.ofBits (UInt64.ofNat n)).toBits.toNat = n := by
  have small : n < 2 ^ 64 := by omega
  have exponent : (@unpackExponent .binary64 (UInt64.ofNat n).toBitVec).toNat = n / 2 ^ 52 := by
    simp [unpackExponent_def, Nat.shiftRight_eq_div_pow]
    omega
  -- Only what is no number would be written with other bits.
  have regular : @isNaNBits .binary64 (UInt64.ofNat n).toBitVec = false := by
    have : @unpackExponent .binary64 (UInt64.ofNat n).toBitVec ≠ 2047#11 := by
      intro eq
      rw [eq] at exponent
      simp at exponent
      omega
    simp [isNaNBits, this]
  have kept := @pack_unpack .binary64 (UInt64.ofNat n).toBitVec (by decide)
  rw [regular] at kept
  have : (Float.ofBits (UInt64.ofNat n)).toBits.toBitVec = (UInt64.ofNat n).toBitVec := kept
  rw [UInt64.toBitVec_inj] at this
  rw [this]
  exact UInt64.toNat_ofNat_of_lt small

-- The bits of consecutive doubles are consecutive numbers, also where the exponent changes.
theorem valueOfFloat_of_toBits {x : Float} {n t : ℕ} (bits : x.toBits.toNat = t * 2 ^ 52 + n)
    (le : n ≤ 2 ^ 53) (full : t = 0 ∨ 2 ^ 52 ≤ n) (room : t * 2 ^ 52 + n < 2047 * 2 ^ 52) :
    Number.valueOfFloat x = .finite (n * 2 ^ (t - 1074 : ℤ)) := by
  have positive : negative x = false := by
    simp only [negative, bits, decide_eq_false_iff_not]
    omega
  have lead : biased x = t + n / 2 ^ 52 := by
    simp only [biased, bits]
    omega
  have rest : fraction x = n % 2 ^ 52 := by
    simp only [fraction, bits]
    omega
  have room : biased x ≠ 2047 := by omega
  simp only [Number.valueOfFloat, unpack_def, room, positive, if_false]
  by_cases low : biased x = 0
  case pos =>
    have whole : fraction x = n := by omega
    have lowest : (t : ℤ) - 1074 = -1074 := by omega
    simp only [low, if_true, Unpacked.mkRat_signed, whole, lowest, Bool.false_eq_true, if_false]
  case neg =>
    simp only [low, if_false, Unpacked.mkRat_signed]
    obtain small | rfl := Nat.lt_or_eq_of_le le
    case inl =>
      have whole : 2 ^ 52 + fraction x = n := by omega
      have : (biased x : ℤ) - 1075 = t - 1074 := by omega
      simp only [whole, this, Bool.false_eq_true, if_false]
    -- A significand that is too large by one carries into the exponent.
    case inr =>
      have whole : 2 ^ 52 + fraction x = 2 ^ 52 := by omega
      have carried : (biased x : ℤ) - 1075 = t - 1074 + 1 := by omega
      have : (2 : ℚ) ^ (t - 1074 + 1 : ℤ) = 2 ^ (t - 1074 : ℤ) * 2 := zpow_add_one₀ two_ne_zero _
      simp only [whole, carried, this, Bool.false_eq_true, if_false]
      push_cast
      ring_nf

theorem room_iff {n t : ℕ} (le : n ≤ 2 ^ 53) (full : t = 0 ∨ 2 ^ 52 ≤ n) :
    t * 2 ^ 52 + n < 2047 * 2 ^ 52 ↔ (n : ℚ) * 2 ^ (t - 1074 : ℤ) < 2 ^ 1024 := by
  have scaled : (2 : ℚ) ^ (t - 1074 : ℤ) = 2 ^ t / 2 ^ 1074 := by
    rw [zpow_sub₀ two_ne_zero, zpow_natCast, zpow_ofNat]
  have unit : (0 : ℚ) < 2 ^ 1074 := by positivity
  have top : (2 : ℚ) ^ 1024 * 2 ^ 1074 = 2 ^ 53 * 2 ^ 2045 := by rw [← pow_add, ← pow_add]
  have small : (n : ℚ) * 2 ^ (t - 1074 : ℤ) < 2 ^ 1024 ↔ n * 2 ^ t < 2 ^ 53 * 2 ^ 2045 := by
    have cast : ((n * 2 ^ t : ℕ) : ℚ) < (2 ^ 53 * 2 ^ 2045 : ℕ) ↔ n * 2 ^ t < 2 ^ 53 * 2 ^ 2045 :=
      Nat.cast_lt
    rw [scaled, ← mul_div_assoc, div_lt_iff₀ unit, top, ← cast]
    simp only [Nat.cast_mul, Nat.cast_pow, Nat.cast_ofNat]
  rw [small]
  -- The least exponent that is too large is 2046, which leaves 2045 to be looked at.
  obtain low | rfl | high := Nat.lt_trichotomy t 2045
  case inl =>
    have : n * 2 ^ t < 2 ^ 53 * 2 ^ 2045 :=
      calc n * 2 ^ t
        _ ≤ 2 ^ 53 * 2 ^ t    := by gcongr
        _ < 2 ^ 53 * 2 ^ 2045 := by gcongr; exact one_lt_two
    simp only [this, iff_true]
    omega
  case inr.inl =>
    rw [Nat.mul_lt_mul_right (by positivity)]
    omega
  case inr.inr =>
    have : 2 ^ 53 * 2 ^ 2045 ≤ n * 2 ^ t :=
      calc 2 ^ 53 * 2 ^ 2045
        _ = 2 ^ 52 * 2 ^ 2046 := by rw [← pow_add, ← pow_add]
        _ ≤ n * 2 ^ t         := by gcongr; exacts [by omega, one_le_two, high]
    simp only [this.not_gt, iff_false]
    omega

end Binary64

end BoundedWait
