import BoundedWait.Proofs.Number.Arithmetic
import BoundedWait.Proofs.Policy.Checks
import BoundedWait.Proofs.Settings.Validity

namespace BoundedWait

variable {σ : Type}

namespace Interval

def isBackoff : Interval → Bool
  | seconds _ => false
  | _         => true

end Interval

namespace Number

theorem positive_of_not_le {n : Number} (h : ¬ n.le .zero) (defined : n.value ≠ .undefined) :
    zero.lt n :=
  Extended.lt_of_not_le defined nofun (Bool.eq_false_iff.mpr h)

end Number

namespace Policy

inductive Obtainable : Policy → Prop where
  | given {fields : PolicyFields} {p : Policy} (h : ofFields fields = .ok p) : Obtainable p
  | within {seconds : Value} {poll : Option (Value ⊕ Interval)} {p : Policy}
      (h : within seconds poll = .ok p) : Obtainable p
  | noRetry {p : Policy} (h : noRetry = .ok p) : Obtainable p
  | settings {s : WaitSettings} {p : Policy} (h : s.policy = .ok p) : Obtainable p
  | replaced {p q : Policy} {fields : PolicyFields} (earlier : Obtainable p)
      (h : p.replace fields = .ok q) : Obtainable q

structure Checked (p : Policy) : Prop where
  wait  : ¬ p.maxWait.lt .zero
  pause : p.poll.check p.maxWait = .ok ()

theorem checked_of_make {maxWait : Value} {poll : Value ⊕ Interval} {kinds : List OutcomeKind}
    {p : Policy} (h : make maxWait poll kinds = .ok p) : p.Checked :=
  have ⟨_, _, wait, pause, _⟩ := checks_of_make h
  ⟨wait, pause⟩

theorem checked_of_replace {p q : Policy} {fields : PolicyFields} (h : p.replace fields = .ok q) :
    q.Checked :=
  checked_of_make h

theorem Obtainable.checked {p : Policy} (h : p.Obtainable) : p.Checked := by
  -- However a policy was obtained, its last step was to pass the checks.
  cases h
  case given h      => exact checked_of_replace h
  case within h     => exact checked_of_replace h
  case noRetry h    => exact checked_of_replace h
  case replaced h   => exact checked_of_replace h
  case settings s h =>
    have ⟨_, _, h⟩ := Except.bind_eq_ok_iff.mp h
    exact checked_of_make h

namespace Checked

variable {p : Policy}

theorem nonneg (h : p.Checked) (defined : p.maxWait.value ≠ .undefined) :
    Number.zero.le p.maxWait :=
  Extended.le_of_not_lt defined nofun (Bool.eq_false_iff.mpr h.wait)

theorem not_le_zero_of_seconds (h : p.Checked) {n : Number} (poll : p.poll = .seconds n)
    (waits : Number.zero.lt p.maxWait) : ¬ n.le .zero := by
  have pause := h.pause
  rw [poll] at pause
  intro le
  simp [Interval.check, waits, le] at pause

end Checked

theorem not_le_zero_of_positive {n : ℤ} {x : Float} {d : Number} (h : positive n x = .ok d) :
    ¬ d.le .zero := by
  simp only [positive] at h
  split at h <;> cases h
  assumption

theorem not_le_zero_of_backoff [Elementary] {host : Host σ} {p : Policy}
    (backoff : p.poll.isBackoff) {n : ℤ} {s s' : σ} {d : Number}
    (h : p.intervalFor host n s = (.ok d, s')) : ¬ d.le .zero := by
  rw [intervalFor] at h
  cases poll : p.poll <;> rw [poll] at h backoff
  case seconds => cases backoff
  case fixed =>
    have ⟨x, _, h⟩ := Except.bind_eq_ok_iff.mp (congrArg Prod.fst h)
    exact not_le_zero_of_positive h
  case exponential =>
    have ⟨_, _, h⟩ := Except.bind_eq_ok_iff.mp (congrArg Prod.fst h)
    have ⟨x, _, h⟩ := Except.bind_eq_ok_iff.mp h
    exact not_le_zero_of_positive h
  case custom =>
    have ⟨v, s₁, _, h⟩ := Act.bind_eq_ok_iff.mp h
    have ⟨x, _, h⟩ := Except.bind_eq_ok_iff.mp (congrArg Prod.fst h)
    exact not_le_zero_of_positive h

-- A number of seconds has been compared with zero if there is something to wait for, and what is
-- positive is still so when it has become a double.
theorem Checked.positive_of_seconds {p : Policy} (h : p.Checked) {m : Number} {x : Float}
    (poll : p.poll = .seconds m) (waits : Number.zero.lt p.maxWait) (double : m.toFloat = .ok x)
    (defined : (Number.ofFloat x).value ≠ .undefined) : Number.zero.lt (.ofFloat x) := by
  have positive : Number.zero.lt m :=
    Number.positive_of_not_le (h.not_le_zero_of_seconds poll waits)
      (Number.defined_of_toFloat double defined)
  exact Number.toFloat_pos positive double

theorem Checked.positive_of_intervalFor [Elementary] {host : Host σ} {p : Policy}
    (h : p.Checked) (active : Number.zero.lt p.maxWait ∨ p.poll.isBackoff) {n : ℤ} {s s' : σ}
    {d : Number} (pause : p.intervalFor host n s = (.ok d, s')) (defined : d.value ≠ .undefined) :
    Number.zero.lt d := by
  by_cases backoff : p.poll.isBackoff
  case pos => exact Number.positive_of_not_le (not_le_zero_of_backoff backoff pause) defined
  case neg =>
    have waits := active.resolve_right backoff
    cases poll : p.poll
    case seconds m =>
      rw [intervalFor, poll] at pause
      have ⟨x, double, pause⟩ := Except.bind_eq_ok_iff.mp (congrArg Prod.fst pause)
      cases pause
      exact h.positive_of_seconds poll waits (Number.checked_eq_ok_iff.mp double) defined
    all_goals simp [poll, Interval.isBackoff] at backoff

end Policy

def Host.bare : Host Unit where
  call _ _ _ := pure .null
  read _ _   := pure .null
  attempt _  := pure .null
  log _      := pure ()
  depth      := 0

namespace Policy

theorem proper_of_settings {given : List (String × Value)} {s : WaitSettings} {p : Policy}
    (valid : WaitSettings.ofFields given = .ok s) (h : s.policy = .ok p) :
    Number.zero.le p.maxWait ∧ ∀ n, p.poll = .seconds n → Number.zero.lt n := by
  have accepted := WaitSettings.valid_of_ofFields valid
  have ⟨poll, chosen, h⟩ := Except.bind_eq_ok_iff.mp h
  have ⟨number, given, _⟩ := checks_of_make h
  injection number with number
  rw [← number]
  refine ⟨accepted.wait, fun n seconds => ?_⟩
  rw [seconds] at given
  unfold WaitSettings.poll at chosen
  split at chosen
  case h_1 =>
    cases chosen
    cases given
    exact accepted.pause
  case h_2 =>
    have ⟨i, made, chosen⟩ := Except.bind_eq_ok_iff.mp chosen
    have ⟨_, exponential, _⟩ := Interval.checks_of_ofExponential made
    cases chosen
    cases exponential
    cases given

theorem make_ne_ok_of_success {maxWait : Value} {poll : Value ⊕ Interval}
    {kinds : List OutcomeKind} (h : .success ∈ kinds) (p : Policy) :
    make maxWait poll kinds ≠ .ok p := by
  intro made
  have ⟨_, _, _, _, retries⟩ := checks_of_make made
  simp [RetryKinds.ofList, h] at retries

namespace Obtainable

-- However a policy was obtained, its wait is not below zero, it retries no successes, no more than
-- a policy does that replaces it, and the pauses it answers with are above zero if it waits at all
-- or asks a backoff; all that as far as the numbers can be compared with zero. Policies of settings
-- have no other ones.
theorem bounds [Elementary] (host : Host σ) {p : Policy} (h : p.Obtainable) :
    (p.maxWait.value ≠ .undefined → Number.zero.le p.maxWait) ∧
    p.shouldRetry .success = false ∧
    (∀ fields kinds q, fields.retryOn = some kinds → .success ∈ kinds →
      p.replace fields ≠ .ok q) ∧
    (Number.zero.lt p.maxWait ∨ p.poll.isBackoff →
      ∀ n s d s', p.intervalFor host n s = (.ok d, s') → d.value ≠ .undefined →
        Number.zero.lt d) ∧
    (∀ given s, WaitSettings.ofFields given = .ok s → s.policy = .ok p →
      Number.zero.le p.maxWait ∧ ∀ n, p.poll = .seconds n → Number.zero.lt n) := by
  refine ⟨h.checked.nonneg, p.not_shouldRetry_success, ?success, ?pauses, ?settings⟩
  case success =>
    intro fields kinds q retryOn success
    refine make_ne_ok_of_success ?_ q
    rw [retryOn]
    exact success
  case pauses =>
    intro active n s d s' pause defined
    exact h.checked.positive_of_intervalFor active pause defined
  case settings =>
    intro given s valid h
    exact proper_of_settings valid h

def counting : Policy :=
  ⟨.int 7, .custom (.type "float"), ⟨true, false⟩⟩

theorem bounds_counting :
    counting.Obtainable ∧ counting.intervalFor Host.bare 3 () = (.ok (.ofFloat 3), ()) ∧
      Number.zero.lt (.ofFloat 3) := by
  have single : Obtainable ⟨.int 0, .custom (.type "float"), ⟨true, false⟩⟩ :=
    @within (.number (.int 0)) (some (.inl (.type "float"))) _ rfl
  have obtainable : counting.Obtainable :=
    @replaced _ _ ⟨some (.number (.int 7)), none, none⟩ single rfl
  have pause : counting.intervalFor Host.bare 3 () = (.ok (.ofFloat 3), ()) := by
    have double : (Number.int 3).toFloat = .ok 3 := by decide +kernel
    have positive : positive 3 3 = .ok (.ofFloat 3) := by
      have : ¬ (Number.ofFloat 3).le .zero := by decide +kernel
      simp [positive, this]
    have answer : (Value.type "float").call Host.bare [.int 3] [] () = (.ok (.float 3), ()) := by
      have : Value.construct "float" [.int 3] = .ok (.float 3) := by
        simp [Value.construct, Value.toFloat, Value.int, Number.checked, double, Except.mapError]
      simp [Value.call, this]
    have read : (Value.float 3).toFloat = .ok 3 := rfl
    refine Act.bind_eq_ok_iff.mpr ⟨_, _, answer, ?_⟩
    rw [read]
    exact congrArg (·, ()) positive
  obtain ⟨-, -, -, pauses, -⟩ := bounds Host.bare obtainable
  exact ⟨obtainable, pause, pauses (.inr rfl) 3 () _ () pause (by decide +kernel)⟩

theorem admits_undefined :
    let endless : Policy := ⟨.float Binary64.undefined 1, .seconds (.float 0.25 0), ⟨true, false⟩⟩
    let restless : Policy := ⟨.int 5, .seconds (.float Binary64.undefined 1), ⟨true, false⟩⟩
    endless.Obtainable ∧ ¬ Number.zero.le endless.maxWait ∧
      restless.Obtainable ∧ Number.zero.lt restless.maxWait ∧
      restless.intervalFor Host.bare 1 () = (.ok (.ofFloat Binary64.undefined), ()) ∧
      ¬ Number.zero.lt (.ofFloat Binary64.undefined) := by
  intro endless restless
  have wait : endless.Obtainable :=
    @given ⟨some (.number (.float Binary64.undefined 1)), none, none⟩ _ rfl
  have pause : restless.Obtainable :=
    @given
      ⟨some (.number (.int 5)), some (.inl (.number (.float Binary64.undefined 1))), none⟩ _ rfl
  exact ⟨wait, by decide +kernel, pause, by decide +kernel, rfl, by decide +kernel⟩

end Obtainable

end Policy

end BoundedWait
