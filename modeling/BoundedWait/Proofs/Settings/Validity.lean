import BoundedWait.Settings.Basic

namespace BoundedWait

namespace WaitSettings

variable {given : List (String × Value)} {name : String} {s : WaitSettings}

structure Valid (s : WaitSettings) : Prop where
  wait       : (Bound.atLeast 0).allows s.maxWait
  pause      : (Bound.above 0).allows s.pollInterval
  multiplier : (Bound.atLeast 1).allows s.multiplier
  limit      : ∀ limit, s.maxPollInterval = some limit → (Bound.above 0).allows limit
  fit        : s.fits

theorem holds_of_field {α : Type} (P : α → Prop) {read : Value → Except Complaint α}
    {absent x : α} (h : field given name absent read = .ok x) (standard : P absent)
    (readable : ∀ v x, read v = .ok x → P x) : P x := by
  unfold field at h
  split at h
  case h_1 v _ =>
    cases reading : read v <;> rw [reading] at h <;> cases h
    exact readable v x reading
  case h_2 =>
    cases h
    exact standard

theorem allows_of_field {bound : Bound} {absent x : Float}
    (h : field given name absent (readNumber bound) = .ok x) (standard : bound.allows absent) :
    bound.allows x :=
  holds_of_field (bound.allows ·) h standard fun _ _ => Bound.allows_readNumber

theorem allows_of_field? {bound : Bound} {x : Option Float}
    (h : field given name none (readNumber? bound) = .ok x) :
    ∀ limit, x = some limit → bound.allows limit := by
  refine holds_of_field (∀ limit, · = some limit → bound.allows limit) h nofun ?_
  intro v x read limit some
  subst some
  unfold readNumber? at read
  split at read
  case isTrue => cases read
  case isFalse =>
    cases reading : readNumber bound v <;> rw [reading] at read <;> cases read
    exact Bound.allows_readNumber reading

theorem valid_of_ofFields (h : ofFields given = .ok s) : s.Valid := by
  unfold ofFields at h
  simp only at h
  split at h
  case h_2 => cases h
  case h_1 w p b m c t maxWait pollInterval _ multiplier maxPollInterval _ =>
    cases checked : checkFit ⟨w, p, b, m, c, t⟩ <;> rw [checked] at h <;> cases h
    have ⟨same, fit⟩ := checkFit_eq_ok_iff.mp checked
    subst same
    exact {
      wait       := allows_of_field maxWait (by decide +kernel)
      pause      := allows_of_field pollInterval (by decide +kernel)
      multiplier := allows_of_field multiplier (by decide +kernel)
      limit      := allows_of_field? maxPollInterval
      fit }

end WaitSettings

end BoundedWait
