import BoundedWait.Value.Basic

theorem Except.bind_eq_ok_iff {ε α β : Type} {a : Except ε α} {k : α → Except ε β} {y : β} :
    a >>= k = .ok y ↔ ∃ x, a = .ok x ∧ k x = .ok y := by
  cases a <;> simp [bind, Except.bind]

theorem Except.bind_eq_error_iff {ε α β : Type} {a : Except ε α} {k : α → Except ε β} {e : ε} :
    a >>= k = .error e ↔ a = .error e ∨ ∃ x, a = .ok x ∧ k x = .error e := by
  cases a <;> simp [bind, Except.bind]

namespace BoundedWait

abbrev Act (σ α : Type) := ExceptT Fault (StateM σ) α

namespace Act

variable {σ α β : Type}

def of (r : Except Fault α) : Act σ α :=
  fun s => (r, s)

def raise (f : Fault) : Act σ α :=
  fun s => (.error f, s)

def update (f : σ → σ) : Act σ Unit :=
  fun s => (.ok (), f s)

def get : Act σ σ :=
  fun s => (.ok s, s)

-- The result of a computation, or the exception it ended with.
def caught (a : Act σ α) : Act σ (Except Fault α) :=
  fun s =>
    match a s with
    | (.ok x, s')    => (.ok (.ok x), s')
    | (.error f, s') => if f.isException then (.ok (.error f), s') else (.error f, s')

-- The result of a computation, or any fault it ended with.
def guarded (a : Act σ α) : Act σ (Except Fault α) :=
  fun s =>
    match a s with
    | (r, s') => (.ok r, s')

def leaving (f : Fault → Fault) (a : Act σ α) : Act σ α :=
  fun s =>
    match a s with
    | (.ok x, s')    => (.ok x, s')
    | (.error e, s') => (.error (f e), s')

theorem caught_ok {a : Act σ α} {s s' : σ} {x : α} (h : a s = (.ok x, s')) :
    a.caught s = (.ok (.ok x), s') := by
  simp [caught, h]

theorem of_caught_ok {a : Act σ α} {s s' : σ} {x : α} (h : a.caught s = (.ok (.ok x), s')) :
    a s = (.ok x, s') := by
  unfold caught at h
  split at h
  case h_1 => cases h; assumption
  case h_2 => split at h <;> cases h

theorem of_caught_error {a : Act σ α} {s s' : σ} {f : Fault}
    (h : a.caught s = (.ok (.error f), s')) : a s = (.error f, s') := by
  unfold caught at h
  split at h
  case h_1 => cases h
  case h_2 =>
    split at h <;> cases h
    assumption

theorem caught_exception {a : Act σ α} {s s' : σ} {f : Fault} (h : a s = (.error f, s'))
    (e : f.isException = true) : a.caught s = (.ok (.error f), s') := by
  simp [caught, h, e]

theorem caught_of_not_isException {a : Act σ α} {s s' : σ} {f : Fault}
    (h : a s = (.error f, s')) (e : f.isException = false) : a.caught s = (.error f, s') := by
  simp [caught, h, e]

theorem caught_eq_error_iff {a : Act σ α} {s s' : σ} {f : Fault} :
    a.caught s = (.error f, s') ↔ a s = (.error f, s') ∧ f.isException = false := by
  constructor
  case mp =>
    intro h
    unfold caught at h
    split at h
    case h_1 => cases h
    case h_2 made =>
      split at h <;> cases h
      case isFalse fatal => exact ⟨made, by simpa using fatal⟩
  case mpr => exact fun ⟨made, fatal⟩ => caught_of_not_isException made fatal

@[simp]
theorem bind_apply (a : Act σ α) (k : α → Act σ β) (s : σ) :
    (a >>= k) s =
      match a s with
      | (.ok x, s')    => k x s'
      | (.error f, s') => (.error f, s') := by
  show (ExceptT.bind a k) s = _
  simp only [ExceptT.bind, ExceptT.mk, ExceptT.bindCont, bind, StateT.bind]
  split
  rename_i r s' h
  cases r with
  | ok x    => simp [h]
  | error f =>
    simp [h]
    rfl

@[simp]
theorem pure_apply (x : α) (s : σ) : (pure x : Act σ α) s = (.ok x, s) := rfl

@[simp]
theorem map_apply (f : α → β) (a : Act σ α) (s : σ) :
    (f <$> a) s =
      match a s with
      | (.ok x, s')    => (.ok (f x), s')
      | (.error e, s') => (.error e, s') := by
  rw [← bind_pure_comp, bind_apply]
  split <;> simp_all

@[simp]
theorem of_apply (r : Except Fault α) (s : σ) : (of r : Act σ α) s = (r, s) := rfl

@[simp]
theorem of_ok (x : α) : (of (.ok x) : Act σ α) = pure x := rfl

@[simp]
theorem ending_eq_iff {r q : Except Fault α} {s t : σ} :
    @Eq (Id (Except Fault α × σ)) (r, s) (q, t) ↔ r = q ∧ s = t :=
  Prod.mk.injEq .. ▸ Iff.rfl

theorem caught_bind (a : Act σ α) (k : α → Act σ β) :
    (a >>= k).caught = (do
      match ← a.caught with
      | .ok x    => (k x).caught
      | .error f => return .error f) := by
  funext s
  rw [bind_apply]
  rcases made : a s with ⟨f | x, s'⟩
  case ok => simp [caught, made]
  case error => cases exception : f.isException <;> simp [caught, made, exception]

theorem bind_eq_ok_iff {a : Act σ α} {k : α → Act σ β} {s s' : σ} {y : β} :
    (a >>= k) s = (.ok y, s') ↔ ∃ x s₁, a s = (.ok x, s₁) ∧ k x s₁ = (.ok y, s') := by
  rw [bind_apply]
  rcases a s with ⟨_ | x, s₁⟩ <;> simp [and_assoc]

theorem bind_eq_error_iff {a : Act σ α} {k : α → Act σ β} {s s' : σ} {f : Fault} :
    (a >>= k) s = (.error f, s') ↔
      a s = (.error f, s') ∨ ∃ x s₁, a s = (.ok x, s₁) ∧ k x s₁ = (.error f, s') := by
  rw [bind_apply]
  rcases a s with ⟨_ | x, s₁⟩ <;> simp [and_assoc]

end Act

end BoundedWait
