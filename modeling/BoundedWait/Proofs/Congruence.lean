import BoundedWait.Act

namespace BoundedWait.Act

variable {ρ σ : Type}

-- A computation over the one kind of state can be related to one over the other if both have
-- results of the same type.
structure Congruence (R : (α : Type) → Act ρ α → Act σ α → Prop) : Prop where
  of {α : Type} (r : Except Fault α) : R α (.of r) (.of r)
  bind {α β : Type} {b : Act ρ α} {a : Act σ α} {l : α → Act ρ β} {k : α → Act σ β}
    (h : R α b a) (hk : ∀ x, R β (l x) (k x)) : R β (b >>= l) (a >>= k)
  caught {α : Type} {b : Act ρ α} {a : Act σ α} (h : R α b a) :
    R (Except Fault α) b.caught a.caught

namespace Congruence

variable {R : (α : Type) → Act ρ α → Act σ α → Prop} {α : Type}

theorem pure (c : Congruence R) (x : α) : R α (Pure.pure x) (Pure.pure x) :=
  c.of (.ok x)

theorem raise (c : Congruence R) (f : Fault) : R α (.raise f) (.raise f) :=
  c.of (.error f)

theorem ite (_ : Congruence R) {p : Prop} [Decidable p] {b b' : Act ρ α} {a a' : Act σ α}
    (h : R α b a) (h' : R α b' a') : R α (if p then b else b') (if p then a else a') := by
  split
  case isTrue  => exact h
  case isFalse => exact h'

end Congruence

end BoundedWait.Act
