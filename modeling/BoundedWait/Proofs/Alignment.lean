import Mathlib.Data.List.Forall2
import BoundedWait.Proofs.Journal

namespace BoundedWait.Act

variable {ρ σ ε δ α β γ κ : Type}

inductive Alike (Q : α → β → Prop) : Except Fault α → Except Fault β → Prop
  | ok {x : α} {y : β} (h : Q x y) : Alike Q (.ok x) (.ok y)
  | error (f : Fault) : Alike Q (.error f) (.error f)

namespace Alike

theorem refl (r : Except Fault α) : Alike Eq r r := by
  cases r
  case error f => exact .error f
  case ok x    => exact .ok rfl

theorem eq {r q : Except Fault α} (h : Alike Eq r q) : r = q := by
  cases h
  case ok same => rw [same]
  case error   => rfl

theorem mono {Q Q' : α → β → Prop} {r : Except Fault α} {q : Except Fault β} (h : Alike Q r q)
    (le : ∀ x y, Q x y → Q' x y) : Alike Q' r q := by
  cases h
  case ok h    => exact .ok (le _ _ h)
  case error f => exact .error f

theorem bind {Q : α → β → Prop} {P : γ → κ → Prop} {r : Except Fault α} {q : Except Fault β}
    {l : α → Except Fault γ} {k : β → Except Fault κ} (h : Alike Q r q)
    (hk : ∀ x y, Q x y → Alike P (l x) (k y)) : Alike P (r >>= l) (q >>= k) := by
  cases h
  case ok h    => exact hk _ _ h
  case error f => exact .error f

end Alike

def Aligned (E : ρ → σ → Prop) (Q : α → β → Prop) (b : Act ρ α) (a : Act σ β) : Prop :=
  ∀ s t, E s t → Alike Q (b s).1 (a t).1 ∧ E (b s).2 (a t).2

namespace Aligned

variable {E : ρ → σ → Prop} {Q : α → β → Prop} {P : γ → κ → Prop} {b : Act ρ α} {a : Act σ β}

theorem ends (h : Aligned E Q b a) {s : ρ} {t : σ} (e : E s t) :
    (∃ x y s' t', b s = (.ok x, s') ∧ a t = (.ok y, t') ∧ Q x y ∧ E s' t') ∨
      ∃ f s' t', b s = (.error f, s') ∧ a t = (.error f, t') ∧ E s' t' := by
  have ⟨ended, left⟩ := h s t e
  rcases ran : b s with ⟨r, s'⟩
  rcases ran' : a t with ⟨q, t'⟩
  rw [ran, ran'] at ended left
  cases ended
  case ok both => exact .inl ⟨_, _, s', t', rfl, rfl, both, left⟩
  case error f => exact .inr ⟨f, s', t', rfl, rfl, left⟩

theorem of {r : Except Fault α} {q : Except Fault β} (h : Alike Q r q) :
    Aligned E Q (.of r) (.of q) :=
  fun _ _ e => ⟨h, e⟩

theorem refl (a : Act σ α) : Aligned Eq Eq a a :=
  fun _ _ same => same ▸ ⟨.refl _, rfl⟩

theorem pure {x : α} {y : β} (h : Q x y) :
    Aligned E Q (Pure.pure x : Act ρ α) (Pure.pure y : Act σ β) :=
  of (.ok h)

theorem bind {l : α → Act ρ γ} {k : β → Act σ κ} (h : Aligned E Q b a)
    (hk : ∀ x y, Q x y → Aligned E P (l x) (k y)) : Aligned E P (b >>= l) (a >>= k) := by
  intro s t e
  rw [bind_apply, bind_apply]
  rcases h.ends e with ⟨x, y, s', t', ran, ran', both, left⟩ | ⟨f, s', t', ran, ran', left⟩
  case inl =>
    rw [ran, ran']
    exact hk x y both s' t' left
  case inr =>
    rw [ran, ran']
    exact ⟨.error f, left⟩

theorem ite {c : Prop} [Decidable c] {b' : Act ρ α} {a' : Act σ β} (h : Aligned E Q b a)
    (h' : Aligned E Q b' a') : Aligned E Q (if c then b else b') (if c then a else a') := by
  split
  case isTrue  => exact h
  case isFalse => exact h'

theorem mono {Q' : α → β → Prop} (h : Aligned E Q b a) (le : ∀ x y, Q x y → Q' x y) :
    Aligned E Q' b a :=
  fun s t e => ⟨(h s t e).1.mono le, (h s t e).2⟩

theorem caught (h : Aligned E Q b a) : Aligned E (Alike Q) b.caught a.caught := by
  intro s t e
  rcases h.ends e with ⟨x, y, s', t', ran, ran', both, left⟩ | ⟨f, s', t', ran, ran', left⟩
  case inl =>
    rw [caught_ok ran, caught_ok ran']
    exact ⟨.ok (.ok both), left⟩
  case inr =>
    cases exception : f.isException
    case true =>
      rw [caught_exception ran exception, caught_exception ran' exception]
      exact ⟨.ok (.error f), left⟩
    case false =>
      rw [caught_of_not_isException ran exception, caught_of_not_isException ran' exception]
      exact ⟨.error f, left⟩

-- What is known of the results of the second computation may be used for what follows.
theorem knowing {K : β → Prop} (h : Aligned E Q b a)
    (known : ∀ s t, E s t → ∀ y t', a t = (.ok y, t') → K y) :
    Aligned E (fun x y => Q x y ∧ K y) b a := by
  intro s t e
  rcases h.ends e with ⟨x, y, s', t', ran, ran', both, left⟩ | ⟨f, s', t', ran, ran', left⟩
  case inl =>
    have fits := known s t e y t' ran'
    rw [ran, ran']
    exact ⟨.ok ⟨both, fits⟩, left⟩
  case inr =>
    rw [ran, ran']
    exact ⟨.error f, left⟩

theorem congruence : Congruence fun α => Aligned E (@Eq α) where
  of r := .of (.refl r)
  bind h hk := h.bind fun x _ same => same ▸ hk x
  caught h := h.caught.mono fun _ _ => Alike.eq

def Journaled (E : ρ → σ → Prop) (W : ε → δ → Prop) (s : ρ × List ε) (t : σ × List δ) : Prop :=
  E s.1 t.1 ∧ List.Forall₂ W s.2 t.2

variable {W : ε → δ → Prop}

theorem beside (h : Aligned E Q b a) :
    Aligned (Journaled E W) Q (b.beside : Act (ρ × List ε) α) (a.beside : Act (σ × List δ) β) :=
  fun s t e => ⟨(h s.1 t.1 e.1).1, (h s.1 t.1 e.1).2, e.2⟩

theorem noted {entry : Except Fault α → ε} {entry' : Except Fault β → δ} (h : Aligned E Q b a)
    (both : ∀ r q, Alike Q r q → W (entry r) (entry' q)) :
    Aligned (Journaled E W) Q (b.noted entry) (a.noted entry') := by
  intro s t e
  have ⟨ended, left⟩ := h s.1 t.1 e.1
  exact ⟨ended, left, List.rel_append e.2 (.cons (both _ _ ended) .nil)⟩

end Aligned

end BoundedWait.Act
