import BoundedWait.Proofs.Congruence

namespace BoundedWait.Act

variable {σ ε α β : Type}

def beside (a : Act σ α) : Act (σ × List ε) α :=
  fun s => ((a s.1).1, ((a s.1).2, s.2))

-- The same computation, which appends an entry on how it went.
def noted (entry : Except Fault α → ε) (a : Act σ α) : Act (σ × List ε) α :=
  fun s => ((a s.1).1, ((a s.1).2, s.2 ++ [entry (a s.1).1]))

-- The same computation, which first appends an entry on the state that it begins in.
def notedAt (entry : σ → ε) (a : Act σ α) : Act (σ × List ε) α :=
  fun s => ((a s.1).1, ((a s.1).2, s.2 ++ [entry s.1]))

theorem beside_eq_iff {a : Act σ α} {s s' : σ × List ε} {r : Except Fault α} :
    a.beside s = (r, s') ↔ a s.1 = (r, s'.1) ∧ s'.2 = s.2 := by
  cases h : a s.1
  cases s'
  case mk.mk es => simp [beside, h, eq_comm (a := es), and_assoc]

theorem noted_eq_iff {entry : Except Fault α → ε} {a : Act σ α} {s s' : σ × List ε}
    {r : Except Fault α} :
    a.noted entry s = (r, s') ↔ a s.1 = (r, s'.1) ∧ s'.2 = s.2 ++ [entry r] := by
  cases h : a s.1
  cases s'
  simp only [noted, h, ending_eq_iff, Prod.mk.injEq]
  constructor
  case mk.mk.mp =>
    rintro ⟨rfl, rfl, rfl⟩
    exact ⟨⟨rfl, rfl⟩, rfl⟩
  case mk.mk.mpr =>
    rintro ⟨⟨rfl, rfl⟩, rfl⟩
    exact ⟨rfl, rfl, rfl⟩

theorem notedAt_eq_iff {entry : σ → ε} {a : Act σ α} {s s' : σ × List ε} {r : Except Fault α} :
    a.notedAt entry s = (r, s') ↔ a s.1 = (r, s'.1) ∧ s'.2 = s.2 ++ [entry s.1] := by
  cases h : a s.1
  cases s'
  case mk.mk es => simp [notedAt, h, eq_comm (a := es), and_assoc]

theorem beside_bind (a : Act σ α) (k : α → Act σ β) :
    ((a >>= k).beside : Act (σ × List ε) β) = a.beside >>= fun x => (k x).beside := by
  funext s
  rw [bind_apply]
  cases h : a s.1
  case mk r t => cases r <;> simp [beside, h]

theorem beside_pure (x : α) : ((pure x : Act σ α).beside : Act (σ × List ε) α) = pure x := rfl

theorem beside_of (r : Except Fault α) :
    ((of r : Act σ α).beside : Act (σ × List ε) α) = of r := rfl

theorem journal_caught (a : Act (σ × List ε) α) (s : σ × List ε) :
    (a.caught s).2.2 = (a s).2.2 := by
  cases h : a s
  case mk r t =>
    cases r
    case ok => simp [caught, h]
    case error =>
      simp only [caught, h]
      split <;> rfl

theorem journal_bind_of_beside (a : Act (σ × List ε) α) {k : α → Act σ β}
    {l : α → Act (σ × List ε) β} (h : ∀ x, l x = (k x).beside) (s : σ × List ε) :
    ((a >>= l) s).2.2 = (a s).2.2 := by
  cases ran : a s
  case mk r t => cases r <;> simp [beside, h, ran]

-- A computation that leaves what can be seen of its state as it is.
def Keeps {γ : Type} (view : σ → γ) (a : Act σ α) : Prop :=
  ∀ s, view (a s).2 = view s

namespace Keeps

variable {γ : Type} {view : σ → γ} {a : Act σ α}

theorem of_of (r : Except Fault α) : (Act.of r).Keeps view :=
  fun _ => rfl

theorem of_pure (x : α) : (pure x : Act σ α).Keeps view :=
  fun _ => rfl

theorem bind_eq (a : Act σ α) {k : α → Act σ β} (hk : ∀ x, (k x).Keeps view) (s : σ) :
    view ((a >>= k) s).2 = view (a s).2 := by
  cases h : a s
  case mk r t =>
    cases r
    case error => simp [h]
    case ok x  => simp [h, hk x t]

theorem bind {k : α → Act σ β} (h : a.Keeps view) (hk : ∀ x, (k x).Keeps view) :
    (a >>= k).Keeps view :=
  fun s => (bind_eq a hk s).trans (h s)

theorem ite {c : Prop} [Decidable c] {a' : Act σ α} (h : a.Keeps view) (h' : a'.Keeps view) :
    (if c then a else a').Keeps view := by
  split
  case isTrue  => exact h
  case isFalse => exact h'

variable {seen : List ε → γ} {a : Act σ α}

theorem of_beside : (a.beside : Act (σ × List ε) α).Keeps (seen ·.2) :=
  fun _ => rfl

theorem of_noted {entry : Except Fault α → ε}
    (hidden : ∀ old r, seen (old ++ [entry r]) = seen old) :
    (a.noted entry).Keeps (seen ·.2) :=
  fun s => hidden s.2 (a s.1).1

theorem of_notedAt {entry : σ → ε} (hidden : ∀ old t, seen (old ++ [entry t]) = seen old) :
    (a.notedAt entry).Keeps (seen ·.2) :=
  fun s => hidden s.2 s.1

end Keeps

-- The first computation does what the second one does, and appends to the journal what depends on
-- the state alone.
def Mirrors (b : Act (σ × List ε) α) (a : Act σ α) : Prop :=
  ∀ s, ∃ new, ∀ old, b (s, old) = ((a s).1, ((a s).2, old ++ new))

namespace Mirrors

variable {a : Act σ α} {b : Act (σ × List ε) α}

theorem of_beside (a : Act σ α) : Mirrors (a.beside : Act (σ × List ε) α) a :=
  fun _ => ⟨[], fun _ => by simp [beside]⟩

theorem of_noted (entry : Except Fault α → ε) (a : Act σ α) : Mirrors (a.noted entry) a :=
  fun s => ⟨[entry (a s).1], fun _ => rfl⟩

theorem of_notedAt (entry : σ → ε) (a : Act σ α) : Mirrors (a.notedAt entry) a :=
  fun s => ⟨[entry s], fun _ => rfl⟩

theorem of_of (r : Except Fault α) : Mirrors (.of r : Act (σ × List ε) α) (.of r) :=
  of_beside (.of r)

theorem of_pure (x : α) : Mirrors (pure x : Act (σ × List ε) α) (pure x) :=
  of_beside (pure x)

theorem bind {k : α → Act σ β} {l : α → Act (σ × List ε) β} (h : Mirrors b a)
    (hk : ∀ x, Mirrors (l x) (k x)) : Mirrors (b >>= l) (a >>= k) := by
  intro s
  have ⟨new, hb⟩ := h s
  cases ha : a s
  case mk r t =>
    cases r
    case error => exact ⟨new, fun old => by simp [hb, ha]⟩
    case ok x =>
      have ⟨later, hl⟩ := hk x t
      exact ⟨new ++ later, fun old => by simp [hb, ha, hl, List.append_assoc]⟩

theorem caught (h : Mirrors b a) : Mirrors b.caught a.caught := by
  intro s
  have ⟨new, hb⟩ := h s
  refine ⟨new, fun old => ?_⟩
  cases ha : a s
  case mk r t =>
    cases r
    case ok => simp [Act.caught, hb, ha]
    case error =>
      simp only [Act.caught, hb, ha]
      split <;> rfl

theorem ite {c : Prop} [Decidable c] {a' : Act σ α} {b' : Act (σ × List ε) α}
    (h : Mirrors b a) (h' : Mirrors b' a') :
    Mirrors (if c then b else b') (if c then a else a') := by
  split
  case isTrue  => exact h
  case isFalse => exact h'

theorem congruence : Congruence fun α => @Mirrors σ ε α where
  of     := of_of
  bind   := bind
  caught := caught

theorem journal_bind (a : Act (σ × List ε) α) {k : α → Act σ β} {l : α → Act (σ × List ε) β}
    (hk : ∀ x, Mirrors (l x) (k x)) (s : σ) :
    ∃ later, ((a >>= l) (s, [])).2.2 = (a (s, [])).2.2 ++ later ∧
      (later = [] ∨ ∃ x t, a (s, []) = (.ok x, t) ∧ later = (l x (t.1, [])).2.2) := by
  cases h : a (s, [])
  case mk r t =>
    cases r
    case error => exact ⟨[], by simp [h], .inl rfl⟩
    case ok x =>
      have ⟨new, hl⟩ := hk x t.1
      exact ⟨new, by simp [h, hl t.2], .inr ⟨x, t, rfl, by simp [hl]⟩⟩

theorem result_eq (h : Mirrors b a) (s : σ) (old : List ε) :
    b (s, old) = ((a s).1, ((a s).2, (b (s, old)).2.2)) := by
  have ⟨_, hb⟩ := h s
  rw [hb]

theorem forget {s s' : σ} {old new : List ε} {r : Except Fault α} (h : Mirrors b a)
    (hb : b (s, old) = (r, (s', new))) : a s = (r, s') := by
  rw [h.result_eq s old] at hb
  cases hb
  rfl

theorem append (h : Mirrors b a) (s : σ) (old : List ε) :
    b (s, old) = ((a s).1, ((a s).2, old ++ (b (s, [])).2.2)) := by
  have ⟨_, hb⟩ := h s
  simp [hb]

theorem grows {s s' : σ × List ε} {r : Except Fault α} (h : Mirrors b a) (hb : b s = (r, s')) :
    ∃ new, s'.2 = s.2 ++ new := by
  have := h.append s.1 s.2
  rw [hb] at this
  exact ⟨_, congrArg (·.2.2) this⟩

end Mirrors

end BoundedWait.Act
