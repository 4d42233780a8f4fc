import Mathlib
import BoundedWait.Proofs.Number.Arithmetic
import BoundedWait.Proofs.Policy.Checks
import BoundedWait.Proofs.Policy.Exponent

namespace BoundedWait

-- The double that a number is turned into, or the number itself if it is too large for that.
def Number.rounded (n : Number) : Number :=
  match n.toFloat with
  | .ok x    => .ofFloat x
  | .error _ => n

open Binary64
open Number (grown logFloat power? rounded steps valueOfFloat)

namespace Backoff

variable {b : Backoff Number}

structure Defined (b : Backoff Number) : Prop where
  initial    : b.initial.value ≠ .undefined
  multiplier : b.multiplier.value ≠ .undefined
  cap        : ∀ cap, b.cap = some cap → cap.value ≠ .undefined

structure Ordered (b : Backoff Number) : Prop where
  initial    : (Extended.finite 0).lt b.initial.value
  multiplier : (Extended.finite 1).le b.multiplier.value
  cap        : ∀ cap, b.cap = some cap → b.initial.le cap

theorem value_one : Interval.one.value = .finite 1 :=
  Number.valueOfFloat_one

theorem ordered_of_ofExponential {initial multiplier cap : Value}
    (made : Interval.ofExponential initial multiplier cap = .ok (.exponential b))
    (defined : b.Defined) : b.Ordered := by
  have ⟨_, eq, positive, grows, room⟩ := Interval.checks_of_ofExponential made
  cases eq
  constructor
  case initial =>
    exact Extended.lt_of_not_le defined.initial nofun
      (Bool.eq_false_iff.mpr positive)
  case multiplier =>
    rw [← value_one]
    exact Extended.le_of_not_lt defined.multiplier (by rw [value_one]; nofun)
      (Bool.eq_false_iff.mpr grows)
  case cap =>
    intro limit capped
    exact Extended.le_of_not_lt (defined.cap limit capped) defined.initial
      (Bool.eq_false_iff.mpr (room limit capped))

theorem one_le_multiplier (ordered : b.Ordered) {y : Float} (h : b.multiplier.toFloat = .ok y) :
    (Extended.finite 1).le (valueOfFloat y) := by
  have pos := Extended.lt_of_lt_of_le (Extended.lt_finite_iff.mpr one_pos) ordered.multiplier
  exact (Number.rounds_toFloat pos h).below _ double_one ordered.multiplier

theorem initial_defined (ordered : b.Ordered) : b.initial.rounded.value ≠ .undefined := by
  have positive := ordered.initial
  unfold rounded
  split
  case h_1 x double =>
    exact (Extended.defined_of_le (Extended.le_of_lt (Number.toFloat_pos positive double))).2
  case h_2 =>
    exact (Extended.defined_of_le (Extended.le_of_lt positive)).2

section

variable [Elementary]

-- What the powers and logarithms of the machine are relied on for: powers of a multiplier are not
-- below one, its logarithm is not too close to zero, and neither is the logarithm of a finite
-- double from one on below zero nor beyond that of the largest double.
structure Approximated (b : Backoff Number) : Prop where
  power : ∀ y k z, b.multiplier.toFloat = .ok y → (Extended.finite 1).le (valueOfFloat y) →
    0 ≤ k → power? y k = some z → (Extended.finite 1).le (valueOfFloat z)
  base  : Growth.exceedsOne b.multiplier →
    (Extended.finite (2 ^ (-60 : ℤ))).le (valueOfFloat b.multiplier.log)
  ratio : ∀ cap q v, b.cap = some cap → cap.div b.initial = .ok q → valueOfFloat q = .finite v →
    1 ≤ v → ∃ l, 0 ≤ l ∧ l ≤ 2 ^ 10 ∧ valueOfFloat (logFloat q) = .finite l

-- The steps to the cap can be told: there are none to count, or the quotient of the cap and the
-- first delay is a finite double.
def Proportionate (b : Backoff Number) : Prop :=
  ∀ cap, b.cap = some cap → Growth.exceedsOne b.multiplier →
    ∃ q v, cap.div b.initial = .ok q ∧ valueOfFloat q = .finite v

theorem initial_le_grown (ordered : b.Ordered) (approximated : b.Approximated) {k : ℤ}
    (h : 0 ≤ k) : b.initial.rounded.le (.ofFloat (grown b.initial b.multiplier k)) := by
  have infinite : b.initial.rounded.le (.ofFloat Binary64.infinity) := by
    change b.initial.rounded.value.le (valueOfFloat Binary64.infinity)
    rw [valueOfFloat_infinity, Extended.le_highest_iff]
    exact initial_defined ordered
  unfold grown
  split
  case h_2 => exact infinite
  case h_1 x y hx hy =>
    split
    case h_2 => exact infinite
    case h_1 z hz =>
      have ge_one := approximated.power y k z hy (one_le_multiplier ordered hy) h hz
      simp only [rounded, hx]
      exact le_mul (Number.toFloat_pos ordered.initial hx) ge_one

theorem steps_of_finite (ordered : b.Ordered) (approximated : b.Approximated) {cap : Number}
    (capped : b.cap = some cap) (grows : Growth.exceedsOne b.multiplier) {q : Float} {v : ℚ}
    (quotient : cap.div b.initial = .ok q) (value : valueOfFloat q = .finite v) :
    ∃ k, 0 ≤ k ∧ steps b.initial b.multiplier cap = .ok k := by
  have ge_one : 1 ≤ v := by
    have := Number.one_le_div ordered.initial (ordered.cap cap capped) quotient
    simpa [value, Extended.le_finite_iff] using this
  have ⟨l, nonneg, small, logarithm⟩ := approximated.ratio cap q v capped quotient value ge_one
  have large := approximated.base grows
  have tiny : (Extended.finite 0).lt (.finite (2 ^ (-60 : ℤ))) :=
    Extended.lt_finite_iff.mpr (by positivity)
  have regular : (b.multiplier.log == 0) = false :=
    beq_zero_of_positive (Extended.lt_of_lt_of_le tiny large)
  -- The logarithms are far enough from what would make their quotient too large.
  have ⟨r, r_nonneg, ratio⟩ := finite_div logarithm nonneg small large
  have ⟨k, ceiling, k_nonneg⟩ := Number.exists_ceil ratio r_nonneg
  refine ⟨k, k_nonneg, ?_⟩
  simp [steps, quotient, regular, ceiling, bind, Except.bind]

theorem finite_of_steps (ordered : b.Ordered) {cap : Number} (capped : b.cap = some cap) {k : ℤ}
    (h : steps b.initial b.multiplier cap = .ok k) :
    ∃ q v, cap.div b.initial = .ok q ∧ valueOfFloat q = .finite v := by
  have ⟨q, quotient, h⟩ := Except.bind_eq_ok_iff.mp h
  have ⟨_, h⟩ := Except.of_guard h
  -- What is no finite double has itself as its logarithm, and no ceiling.
  have beyond : valueOfFloat q = .undefined ∨ valueOfFloat q = .highest →
      Number.ceil (logFloat q / b.multiplier.log) ≠ .ok k := by
    intro beyond
    rw [Number.logFloat_of_not_finite beyond]
    refine Number.ceil_ne_ok (not_finite_div ?_ _) k
    rw [unpack_eq_none_iff]
    obtain h | h := beyond <;> simp [h]
  cases value : valueOfFloat q
  case lowest =>
    have := Number.one_le_div ordered.initial (ordered.cap cap capped) quotient
    simp [value, Extended.le, Extended.lt, Extended.eq] at this
  case finite v  => exact ⟨q, v, quotient, value⟩
  case highest   => exact absurd h (beyond (.inr value))
  case undefined => exact absurd h (beyond (.inl value))

theorem proportionate_of_exponent (ordered : b.Ordered) {n k : ℤ} (h : b.exponent n = .ok k) :
    b.Proportionate := by
  intro cap capped grows
  obtain ⟨cap', j, capped', _, steps, _⟩ | ⟨h, _⟩ := exponent_eq_ok_iff.mp h
  case inl =>
    cases capped.symm.trans capped'
    exact finite_of_steps ordered capped (Number.checked_eq_ok_iff.mp steps)
  case inr => exact absurd grows (h cap capped)

theorem exists_exponent (ordered : b.Ordered) (approximated : b.Approximated)
    (proportionate : b.Proportionate) (n : ℤ) : ∃ k, b.exponent n = .ok k := by
  by_cases counts : ∃ cap, b.cap = some cap ∧ Growth.exceedsOne b.multiplier
  case pos =>
    have ⟨cap, capped, grows⟩ := counts
    have ⟨q, v, quotient, value⟩ := proportionate cap capped grows
    have ⟨j, _, h⟩ := steps_of_finite ordered approximated capped grows quotient value
    have steps := Number.checked_eq_ok_iff.mpr h
    exact ⟨_, exponent_eq_ok_iff.mpr (.inl ⟨cap, j, capped, grows, steps, rfl⟩)⟩
  case neg =>
    push Not at counts
    exact ⟨_, exponent_eq_ok_iff.mpr (.inr ⟨counts, rfl⟩)⟩

theorem nonneg_of_exponent (ordered : b.Ordered) (approximated : b.Approximated) {n k : ℤ}
    (h : b.exponent n = .ok k) : 0 ≤ k := by
  have growth : 0 ≤ max 0 (n - 1) := le_max_left _ _
  obtain ⟨cap, j, capped, grows, steps, rfl⟩ | ⟨_, rfl⟩ := exponent_eq_ok_iff.mp h
  case inl =>
    have steps := Number.checked_eq_ok_iff.mp steps
    have ⟨q, v, quotient, value⟩ := finite_of_steps ordered capped steps
    have ⟨j', nonneg, steps'⟩ := steps_of_finite ordered approximated capped grows quotient value
    cases steps.symm.trans steps'
    exact le_min growth nonneg
  case inr => exact growth

theorem exists_delay_iff (ordered : b.Ordered) (approximated : b.Approximated) (n : ℤ) :
    (∃ d, b.delay n = .ok d) ↔ b.Proportionate := by
  constructor
  case mp =>
    intro ⟨d, h⟩
    have ⟨k, exponent, _⟩ := delay_eq_ok_iff.mp h
    exact proportionate_of_exponent ordered exponent
  case mpr =>
    intro proportionate
    have ⟨k, exponent⟩ := exists_exponent ordered approximated proportionate n
    exact ⟨_, delay_eq_ok_iff.mpr ⟨k, exponent, rfl⟩⟩

theorem cut_le {d cap : Number} (capped : b.cap = some cap) (hd : d.value ≠ .undefined)
    (hc : cap.value ≠ .undefined) : (b.cut d).le cap := by
  simp only [cut, capped]
  exact Number.min_le_right hd hc

theorem le_cut {m d : Number} (hd : m.le d) (hc : ∀ cap, b.cap = some cap → m.le cap) :
    m.le (b.cut d) := by
  unfold cut
  split
  case h_1 cap capped => exact Number.le_min hd (hc cap capped)
  case h_2            => exact hd

theorem not_proportionate_of_infinite (infinite : b.cap = some (.float infinity 0))
    (grows : Growth.exceedsOne b.multiplier) : ¬ b.Proportionate := by
  intro proportionate
  have ⟨q, v, quotient, value⟩ := proportionate _ infinite grows
  have ⟨x, hx, quotient⟩ := Except.bind_eq_ok_iff.mp quotient
  have ⟨y, _, quotient⟩ := Except.bind_eq_ok_iff.mp quotient
  cases hx
  split at quotient <;> cases quotient
  have beyond : unpack (infinity / y) = none := by
    refine not_finite_div ?_ y
    rw [unpack_eq_none_iff, valueOfFloat_infinity]
    nofun
  exact (unpack_eq_none_iff _).mp beyond v value

-- An accepted backoff whose numbers are all defined has a delay after every attempt exactly if the
-- quotient of its cap and its first delay is finite, unless there is no cap or no growth. Each of
-- the delays lies between the first one, or the double that it rounds to, and the cap.
theorem delay_bounded {initial multiplier cap : Value} (n : ℤ)
    (made : Interval.ofExponential initial multiplier cap = .ok (.exponential b))
    (defined : b.Defined) (approximated : b.Approximated) :
    ((∃ d, b.delay n = .ok d) ↔ b.Proportionate) ∧
    ∀ d, b.delay n = .ok d →
      (b.initial.min b.initial.rounded).le d ∧ ∀ cap, b.cap = some cap → d.le cap := by
  have ordered := ordered_of_ofExponential made defined
  refine ⟨exists_delay_iff ordered approximated n, fun d h => ?_⟩
  have ⟨k, exponent, eq⟩ := delay_eq_ok_iff.mp h
  have rounded := initial_defined ordered
  have grown : b.initial.rounded.le (.ofFloat (grown b.initial b.multiplier k)) :=
    initial_le_grown ordered approximated (nonneg_of_exponent ordered approximated exponent)
  subst eq
  constructor
  case left =>
    -- The first delay is not above the cap, but the double that it rounds to may be.
    refine le_cut (Extended.le_trans (Number.min_le_right defined.initial rounded) grown) ?_
    intro cap capped
    exact Extended.le_trans (Number.min_le_left defined.initial) (ordered.cap cap capped)
  case right =>
    intro cap capped
    exact cut_le capped (Extended.defined_of_le grown).2 (defined.cap cap capped)

end

end Backoff

namespace Elementary

def product (x : Float) : ℕ → Float
  | 0     => 1
  | n + 1 => product x n * x

def raised (x y : Float) : Float :=
  match Number.ceil y with
  | .ok n    => product x n.toNat
  | .error _ => y

-- A machine of which two logarithms are known.
@[reducible]
def tabulated : Elementary where
  power := raised
  log x := if x == 2 then 0.6931471805599453 else if x == 10 then 2.302585092994046 else x.log

variable {y z : Float}

theorem one_le_product (h : (Extended.finite 1).le (valueOfFloat y)) (n : ℕ) :
    (Extended.finite 1).le (valueOfFloat (product y n)) := by
  induction n
  case zero =>
    rw [product, Number.valueOfFloat_one]
    rfl
  case succ n ih =>
    have positive := Extended.lt_of_lt_of_le (Extended.lt_finite_iff.mpr one_pos) ih
    exact Extended.le_trans ih (le_mul positive h)

theorem one_le_raised (h : (Extended.finite 1).le (valueOfFloat y)) {e : Float}
    (finite : unpack (raised y e) ≠ none) : (Extended.finite 1).le (valueOfFloat (raised y e)) := by
  unfold raised at finite ⊢
  cases ceiling : Number.ceil e
  all_goals simp only [ceiling] at finite ⊢
  case ok n  => exact one_le_product h _
  case error =>
    rw [Number.ceil] at ceiling
    split at ceiling
    case h_1 => cases ceiling
    -- What has no ceiling is infinite or undefined, and it is its own power.
    case h_2 infinite => exact absurd infinite finite

theorem one_le_of_power?_eq_some (h : (Extended.finite 1).le (valueOfFloat y)) {k : ℤ}
    (power : @power? tabulated y k = some z) : (Extended.finite 1).le (valueOfFloat z) := by
  simp only [power?] at power
  split at power
  case h_1 => cases power
  case h_2 =>
    split_ifs at power with _ _ _ _ infinite <;> cases power
    iterate 2 decide +kernel
    iterate 2 exact h
    exact one_le_raised h fun eq => infinite (Option.isNone_iff_eq_none.mpr eq)

end Elementary

namespace Backoff

variable {b : Backoff Number}

theorem approximated_tabulated (two : b.multiplier = .float 2 0)
    (ten : ∀ cap, b.cap = some cap → cap.div b.initial = .ok 10) :
    @Approximated Elementary.tabulated b :=
  letI := Elementary.tabulated
  { power := by
      intro y k z _ ge_one _
      exact Elementary.one_le_of_power?_eq_some ge_one
    base := by
      intro _
      rw [two]
      decide +kernel
    ratio := by
      intro cap q v capped quotient _ _
      cases quotient.symm.trans (ten cap capped)
      have logarithm : valueOfFloat (logFloat 10) = .finite (2592480341699211 / 2 ^ 50) := by
        decide +kernel
      exact ⟨_, by norm_num, by norm_num, logarithm⟩ }

-- Pauses of one second, of two, of four and so on, up to ten.
def doubling : Backoff Number :=
  ⟨.int 1, .float 2 0, some (.int 10)⟩

theorem defined_doubling : doubling.Defined where
  initial    := nofun
  multiplier := by decide +kernel
  cap        := by
    rintro _ ⟨⟩
    nofun

theorem delay_doubling :
    letI := Elementary.tabulated
    doubling.delay 3 = .ok (.ofFloat 4) := by
  rfl

theorem delay_bounded_doubling :
    letI := Elementary.tabulated
    Interval.ofExponential (.number (.int 1)) (.number (.float 2 0)) (.number (.int 10)) =
        .ok (.exponential doubling) ∧
      doubling.Defined ∧ doubling.Approximated ∧ doubling.Proportionate ∧
      doubling.delay 3 = .ok (.ofFloat 4) ∧
      (doubling.initial.min doubling.initial.rounded).le (.ofFloat 4) ∧
      (Number.ofFloat 4).le (.int 10) := by
  let _ := Elementary.tabulated
  have made : Interval.ofExponential (.number (.int 1)) (.number (.float 2 0))
      (.number (.int 10)) = .ok (.exponential doubling) := rfl
  have approximated : doubling.Approximated :=
    approximated_tabulated rfl (by rintro _ ⟨⟩; decide +kernel)
  have ⟨answers, bounds⟩ := delay_bounded 3 made defined_doubling approximated
  have ⟨ge, le⟩ := bounds _ delay_doubling
  exact ⟨made, defined_doubling, approximated, answers.mp ⟨_, delay_doubling⟩, delay_doubling,
    ge, le _ rfl⟩

def endless : Backoff Number :=
  ⟨.int 1, .float 2 0, some (.float infinity 0)⟩

theorem delay_raises :
    Interval.ofExponential (.number (.int 1)) (.number (.float 2 0))
        (.number (.float infinity 0)) = .ok (.exponential endless) ∧
      endless.Defined ∧ ∀ d, endless.delay 1 ≠ .ok d := by
  have made : Interval.ofExponential (.number (.int 1)) (.number (.float 2 0))
      (.number (.float infinity 0)) = .ok (.exponential endless) := rfl
  have grows : Growth.exceedsOne endless.multiplier := by decide +kernel
  have defined : endless.Defined := by
    constructor
    case initial    => nofun
    case multiplier => decide +kernel
    case cap        =>
      rintro _ ⟨⟩
      change valueOfFloat infinity ≠ .undefined
      rw [valueOfFloat_infinity]
      nofun
  refine ⟨made, defined, fun d h => ?_⟩
  have ⟨k, exponent, _⟩ := delay_eq_ok_iff.mp h
  exact not_proportionate_of_infinite rfl grows
    (proportionate_of_exponent (ordered_of_ofExponential made defined) exponent)

end Backoff

end BoundedWait
