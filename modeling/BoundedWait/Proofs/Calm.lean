import BoundedWait.Act

namespace BoundedWait.Act

variable {σ α β : Type} {a : Act σ α} {P : α → Prop} {Q : β → Prop} {s : σ}

def Yields (P : α → Prop) (a : Act σ α) : Prop :=
  ∀ s, ∃ x s', a s = (.ok x, s') ∧ P x

abbrev Returns (a : Act σ α) : Prop :=
  a.Yields fun _ => True

namespace Yields

theorem pure {x : α} (h : P x) : (Pure.pure x : Act σ α).Yields P :=
  fun s => ⟨x, s, rfl, h⟩

theorem of {r : Except Fault α} {x : α} (h : r = .ok x) : (Act.of r : Act σ α).Yields (· = x) :=
  fun s => ⟨x, s, by rw [h]; rfl, rfl⟩

theorem bind {k : α → Act σ β} (h : a.Yields P) (hk : ∀ x, P x → (k x).Yields Q) :
    (a >>= k).Yields Q := by
  intro s
  have ⟨x, s₁, made, held⟩ := h s
  have ⟨y, s₂, rest, holds⟩ := hk x held s₁
  exact ⟨y, s₂, Act.bind_eq_ok_iff.mpr ⟨x, s₁, made, rest⟩, holds⟩

theorem ite {c : Prop} [Decidable c] {a' : Act σ α} (h : a.Yields P) (h' : a'.Yields P) :
    (if c then a else a').Yields P := by
  split
  case isTrue  => exact h
  case isFalse => exact h'

end Yields

-- A computation that has a result with some property in a state, or else ends with what is no
-- exception.
def Calm (P : α → Prop) (a : Act σ α) (s : σ) : Prop :=
  match a s with
  | (.ok x, _)    => P x
  | (.error f, _) => f.isException = false

namespace Calm

theorem pure {x : α} (h : P x) : (Pure.pure x : Act σ α).Calm P s :=
  h

theorem of {r : Except Fault α} {x : α} (h : r = .ok x) : (Act.of r : Act σ α).Calm (· = x) s := by
  rw [h]
  exact rfl

theorem bind {k : α → Act σ β} (h : a.Calm P s)
    (hk : ∀ x s', a s = (.ok x, s') → P x → (k x).Calm Q s') : (a >>= k).Calm Q s := by
  unfold Calm at h ⊢
  rw [bind_apply]
  rcases made : a s with ⟨f | x, s'⟩
  all_goals rw [made] at h
  case error => exact h
  case ok    => exact hk x s' made h

theorem ite {c : Prop} [Decidable c] {a' : Act σ α} (h : c → a.Calm P s)
    (h' : ¬ c → a'.Calm P s) : (if c then a else a').Calm P s := by
  split
  case isTrue holds => exact h holds
  case isFalse holds => exact h' holds

end Calm

theorem Yields.calm (h : a.Yields P) (s : σ) : a.Calm P s := by
  have ⟨x, s', made, held⟩ := h s
  rw [Calm, made]
  exact held

end BoundedWait.Act
