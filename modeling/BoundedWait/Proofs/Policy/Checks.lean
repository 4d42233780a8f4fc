import BoundedWait.Act
import BoundedWait.Policy.Basic

namespace BoundedWait

theorem Except.of_guard {ε β : Type} {c : Prop} [Decidable c] {e : ε} {k : Unit → Except ε β}
    {y : β} (h : (if c then throw e >>= k else k ()) = .ok y) : ¬ c ∧ k () = .ok y := by
  by_cases failed : c
  case pos => simp [failed, throw, throwThe, MonadExceptOf.throw, bind, Except.bind] at h
  case neg => exact ⟨failed, by simpa [failed] using h⟩

theorem Number.checked_eq_ok_iff {α : Type} {r : Except Number.Error α} {x : α} :
    Number.checked r = .ok x ↔ r = .ok x := by
  cases r
  case error e => exact ⟨nofun, nofun⟩
  case ok y    => exact ⟨fun h => by cases h; rfl, fun h => by cases h; rfl⟩

namespace Interval

theorem checks_of_ofExponential {initial multiplier cap : Value} {i : Interval}
    (h : ofExponential initial multiplier cap = .ok i) :
    ∃ b, i = exponential b ∧ ¬ b.initial.le .zero ∧ ¬ b.multiplier.lt one ∧
      ∀ limit, b.cap = some limit → ¬ limit.lt b.initial := by
  have ⟨first, _, h⟩ := Except.bind_eq_ok_iff.mp h
  have ⟨positive, h⟩ := Except.of_guard h
  have ⟨factor, _, h⟩ := Except.bind_eq_ok_iff.mp h
  have ⟨grows, h⟩ := Except.of_guard h
  split at h
  case isTrue =>
    cases h
    exact ⟨_, rfl, positive, grows, nofun⟩
  case isFalse =>
    have ⟨limit, _, h⟩ := Except.bind_eq_ok_iff.mp h
    have ⟨room, h⟩ := Except.of_guard h
    cases h
    exact ⟨_, rfl, positive, grows, by rintro _ ⟨⟩; exact room⟩

theorem ofExponential_eq_ok {first factor : Number} {cap : Option Number}
    (positive : first.le .zero = false) (grows : factor.lt one = false)
    (room : ∀ limit, cap = some limit → limit.lt first = false) :
    ofExponential (.number first) (.number factor) (.ofOption (cap.map .number)) =
      .ok (exponential ⟨first, factor, cap⟩) := by
  cases cap
  case none =>
    simp [ofExponential, Value.comparable, positive, grows, bind, Except.bind, pure, Except.pure,
      Value.ofOption, Value.isNull]
  case some limit =>
    simp [ofExponential, Value.comparable, positive, grows, room, bind, Except.bind, pure,
      Except.pure, Value.ofOption, Value.isNull]

end Interval

namespace Policy

theorem checks_of_make {maxWait : Value} {poll : Value ⊕ Interval} {kinds : List OutcomeKind}
    {p : Policy} (h : make maxWait poll kinds = .ok p) :
    maxWait.comparable .lt .zero = .ok p.maxWait ∧ poll.elim Interval.ofValue .ok = .ok p.poll ∧
      ¬ p.maxWait.lt .zero ∧ p.poll.check p.maxWait = .ok () ∧
      RetryKinds.ofList kinds = .ok p.retryOn := by
  have ⟨limit, number, h⟩ := Except.bind_eq_ok_iff.mp h
  have ⟨nonneg, h⟩ := Except.of_guard h
  -- Whichever way the pause was given, it is the same from here on.
  have ⟨pause, given, h⟩ : ∃ pause : Interval, poll.elim Interval.ofValue .ok = .ok pause ∧
      (do pause.check limit; return ⟨limit, pause, ← RetryKinds.ofList kinds⟩) = Except.ok p := by
    match poll, h with
    | .inl v, h => exact Except.bind_eq_ok_iff.mp h
    | .inr i, h => exact ⟨i, rfl, h⟩
  have ⟨_, fits, h⟩ := Except.bind_eq_ok_iff.mp h
  have ⟨retryOn, retries, h⟩ := Except.bind_eq_ok_iff.mp h
  cases h
  exact ⟨number, given, nonneg, fits, retries⟩

theorem make_eq_ok (poll : Value ⊕ Interval) {limit : Number} {pause : Interval}
    {kinds : List OutcomeKind} {retryOn : RetryKinds} (nonneg : limit.lt .zero = false)
    (given : poll.elim Interval.ofValue .ok = .ok pause) (fits : pause.check limit = .ok ())
    (retries : RetryKinds.ofList kinds = .ok retryOn) :
    make (.number limit) poll kinds = .ok ⟨limit, pause, retryOn⟩ := by
  cases poll
  all_goals
    simp only [Sum.elim_inl, Sum.elim_inr] at given
    simp [make, Value.comparable, nonneg, given, fits, retries, bind, Except.bind, pure,
      Except.pure]

end Policy

end BoundedWait
