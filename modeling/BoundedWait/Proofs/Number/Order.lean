import Mathlib.Algebra.Order.Field.Rat
import BoundedWait.Number.Basic

namespace BoundedWait

namespace Extended

variable {a b c : Extended} {p q : ℚ}

def le (a b : Extended) : Bool :=
  a.lt b || a.eq b

theorem le_finite_iff : (finite p).le (finite q) ↔ p ≤ q := by
  simp [le, lt, eq, le_iff_lt_or_eq]

theorem lt_finite_iff : (finite p).lt (finite q) ↔ p < q := by
  simp [lt]

theorem le_self_iff : a.le a ↔ a ≠ undefined := by
  cases a <;> simp [le, lt, eq]

theorem le_highest_iff : a.le highest ↔ a ≠ undefined := by
  cases a <;> simp [le, lt, eq]

theorem defined_of_le (h : a.le b) : a ≠ undefined ∧ b ≠ undefined := by
  cases a <;> cases b <;> simp_all [le, lt, eq]

theorem le_of_lt (h : a.lt b) : a.le b := by
  simp [le, h]

theorem le_of_not_lt (ha : a ≠ undefined) (hb : b ≠ undefined) (h : a.lt b = false) : b.le a := by
  cases a <;> cases b <;> simp_all [le, lt, eq, le_iff_lt_or_eq]

theorem lt_of_not_le (ha : a ≠ undefined) (hb : b ≠ undefined) (h : a.le b = false) : b.lt a := by
  cases a <;> cases b <;> simp_all [le, lt, eq]
  case finite.finite => exact lt_of_le_of_ne h.1 (Ne.symm h.2)

theorem not_le_of_lt (h : a.lt b) : b.le a = false := by
  cases a <;> cases b <;> simp_all [le, lt, eq]
  case finite.finite => exact ⟨h.le, h.ne'⟩

theorem not_lt_of_le (h : a.le b) : b.lt a = false := by
  cases a <;> cases b <;> simp_all [le, lt, eq, ← le_iff_lt_or_eq]

theorem le_trans (hab : a.le b) (hbc : b.le c) : a.le c := by
  cases a <;> cases b <;> cases c <;> simp_all [le, lt, eq]
  case finite.finite.finite =>
    rw [← le_iff_lt_or_eq] at *
    exact hab.trans hbc

theorem lt_of_lt_of_le (hab : a.lt b) (hbc : b.le c) : a.lt c := by
  cases a <;> cases b <;> cases c <;> simp_all [le, lt, eq]
  case finite.finite.finite =>
    rw [← le_iff_lt_or_eq] at hbc
    exact hab.trans_le hbc

theorem finite_of_between (ha : (finite p).le a) (hb : a.le (finite q)) :
    ∃ v, p ≤ v ∧ a = finite v := by
  cases a <;> simp_all [le, lt, eq, le_iff_lt_or_eq]

end Extended

namespace Number

variable {a b c : Number}

theorem min_le_left (ha : a.value ≠ .undefined) : (a.min b).le a := by
  unfold min
  split
  case isTrue lt => exact Extended.le_of_lt lt
  case isFalse   => exact Extended.le_self_iff.mpr ha

theorem min_le_right (ha : a.value ≠ .undefined) (hb : b.value ≠ .undefined) :
    (a.min b).le b := by
  unfold min
  split
  case isTrue         => exact Extended.le_self_iff.mpr hb
  case isFalse not_lt => exact Extended.le_of_not_lt hb ha (Bool.eq_false_iff.mpr not_lt)

theorem le_min (ha : c.le a) (hb : c.le b) : c.le (a.min b) := by
  unfold min
  split <;> assumption

end Number

end BoundedWait
