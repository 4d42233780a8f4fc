import BoundedWait.Proofs.Policy.Bounds
import BoundedWait.Proofs.Policy.Delay
import BoundedWait.Proofs.Settings.Validity

namespace BoundedWait

variable {σ : Type}

namespace WaitSettings

open Number (valueOfFloat)

variable {given : List (String × Value)} {s : WaitSettings} {n : ℤ}

def growth (s : WaitSettings) : Backoff Number :=
  ⟨.ofFloat s.pollInterval, .ofFloat s.multiplier, s.maxPollInterval.map .ofFloat⟩

namespace Valid

variable {limit : Float}

theorem le_limit (valid : s.Valid) (capped : s.maxPollInterval = some limit) :
    (Number.ofFloat s.pollInterval).le (.ofFloat limit) := by
  have fit := valid.fit
  simp only [fits, capped, Bool.not_eq_true'] at fit
  have defined {x : Float} (positive : (Bound.above 0).allows x) : valueOfFloat x ≠ .undefined :=
    (Extended.defined_of_le (Extended.le_of_lt positive)).2
  exact Extended.le_of_not_lt (defined (valid.limit limit capped)) (defined valid.pause) fit

theorem ordered (valid : s.Valid) : s.growth.Ordered where
  initial    := valid.pause
  multiplier := valid.multiplier
  cap        := by
    intro cap capped
    have ⟨limit, chosen, same⟩ := Option.map_eq_some_iff.mp capped
    subst same
    exact valid.le_limit chosen

theorem ofExponential_eq_ok (valid : s.Valid) :
    Interval.ofExponential (.float s.pollInterval) (.float s.multiplier)
      (.ofOption (s.maxPollInterval.map Value.float)) = .ok (.exponential s.growth) := by
  have ordered := valid.ordered
  have made := Interval.ofExponential_eq_ok (Extended.not_le_of_lt ordered.initial)
    (Extended.not_lt_of_le (Backoff.value_one ▸ ordered.multiplier))
    fun limit capped => Extended.not_lt_of_le (ordered.cap limit capped)
  rw [growth, Option.map_map] at made
  exact made

end Valid

def interval (s : WaitSettings) : Interval :=
  match s.backoff with
  | .fixed       => .seconds (.ofFloat s.pollInterval)
  | .exponential => .exponential s.growth

theorem ofList_retryOn (s : WaitSettings) :
    RetryKinds.ofList s.retryOn = .ok ⟨true, s.retryTerminal⟩ := by
  unfold retryOn
  cases s.retryTerminal
  all_goals rfl

theorem Valid.policy_eq_ok (valid : s.Valid) :
    s.policy = .ok ⟨.ofFloat s.maxWait, s.interval, ⟨true, s.retryTerminal⟩⟩ := by
  have wait : (Number.ofFloat s.maxWait).lt .zero = false := Extended.not_lt_of_le valid.wait
  rw [policy, poll, interval]
  cases s.backoff
  case fixed =>
    refine Policy.make_eq_ok (.inl (.float _)) wait rfl ?_ s.ofList_retryOn
    have pause : (Number.ofFloat s.pollInterval).le .zero = false :=
      Extended.not_le_of_lt valid.pause
    simp [Interval.check, pause]
  case exponential =>
    rw [valid.ofExponential_eq_ok]
    exact Policy.make_eq_ok (.inr (.exponential _)) wait rfl rfl s.ofList_retryOn

theorem exists_double_of_delay [Elementary] {d : Number} (h : s.growth.delay n = .ok d) :
    ∃ x, d = .ofFloat x := by
  have ⟨k, _, same⟩ := Backoff.delay_eq_ok_iff.mp h
  subst same
  unfold Backoff.cut
  split
  case h_2 => exact ⟨_, rfl⟩
  case h_1 cap capped =>
    have ⟨limit, _, same⟩ := Option.map_eq_some_iff.mp capped
    subst same
    show ∃ x, Number.min _ _ = _
    unfold Number.min
    split
    all_goals exact ⟨_, rfl⟩

theorem policy_of_fixed (fixed : s.backoff = .fixed) (limit : Option Float) :
    { s with maxPollInterval := limit }.policy = s.policy := by
  simp only [policy, poll, fixed, retryOn]

section

variable [Elementary]

theorem Valid.delay_pos (valid : s.Valid) (approximated : s.growth.Approximated) {d : Number}
    (h : s.growth.delay n = .ok d) : Number.zero.lt d := by
  have ⟨k, exponent, same⟩ := Backoff.delay_eq_ok_iff.mp h
  subst same
  have grown : (Number.ofFloat s.pollInterval).le _ :=
    Backoff.initial_le_grown valid.ordered approximated
      (Backoff.nonneg_of_exponent valid.ordered approximated exponent)
  exact Extended.lt_of_lt_of_le valid.pause (Backoff.le_cut grown valid.ordered.cap)

theorem Valid.intervalFor_growth (valid : s.Valid) (approximated : s.growth.Approximated)
    (host : Host σ) {p : Policy} (poll : p.poll = .exponential s.growth) (n : ℤ) (state : σ) :
    p.intervalFor host n state = (s.growth.delay n, state) := by
  rw [Policy.intervalFor, poll]
  refine Prod.ext ?_ rfl
  show (s.growth.delay n >>= fun delay => _) = _
  cases answered : s.growth.delay n
  case error => rfl
  case ok d =>
    -- No delay fails the check on the way out.
    have positive := Extended.not_le_of_lt (valid.delay_pos approximated answered)
    obtain ⟨x, rfl⟩ := exists_double_of_delay answered
    show Policy.positive n x = _
    rw [Policy.positive]
    exact if_neg (Bool.eq_false_iff.mp positive)

-- Settings that are accepted make a policy. Its wait and the failures that it retries are what the
-- settings say; its pauses have one length, whatever the longest one is to be, or they are those of
-- a backoff with the numbers of the settings.
theorem policy_of_ofFields (host : Host σ) (valid : ofFields given = .ok s)
    (approximated : s.backoff = .exponential → s.growth.Approximated) :
    ∃ p, s.policy = .ok p ∧ p.maxWait = .ofFloat s.maxWait ∧
      (∀ kind, p.shouldRetry kind = true ↔
        kind = .retryable ∨ kind = .terminal ∧ s.retryTerminal = true) ∧
      (s.backoff = .fixed →
        (∀ n state, p.intervalFor host n state = (.ok (.ofFloat s.pollInterval), state)) ∧
        ∀ limit, { s with maxPollInterval := limit }.policy = .ok p) ∧
      (s.backoff = .exponential →
        Interval.ofExponential (.float s.pollInterval) (.float s.multiplier)
          (.ofOption (s.maxPollInterval.map Value.float)) = .ok (.exponential s.growth) ∧
        (∀ n state, p.intervalFor host n state = (s.growth.delay n, state)) ∧
        ∀ n, (∃ d, s.growth.delay n = .ok d) ↔ s.growth.Proportionate) := by
  have valid := valid_of_ofFields valid
  refine ⟨_, valid.policy_eq_ok, rfl, ?retries, fun fixed => ⟨?same, ?free⟩,
    fun exponential => ⟨valid.ofExponential_eq_ok, ?pauses, ?answers⟩⟩
  case retries =>
    intro kind
    cases kind
    all_goals simp [Policy.shouldRetry, RetryKinds.has]
  case same =>
    intro n state
    rw [Policy.intervalFor, interval, fixed]
    rfl
  case free =>
    intro limit
    rw [policy_of_fixed fixed, valid.policy_eq_ok]
  case pauses =>
    exact valid.intervalFor_growth (approximated exponential) host (by rw [interval, exponential])
  case answers => exact Backoff.exists_delay_iff valid.ordered (approximated exponential)

end

def doubling : WaitSettings where
  maxWait         := 60
  pollInterval    := 1
  backoff         := .exponential
  multiplier      := 2
  maxPollInterval := some 10
  retryTerminal   := true

def doublingFields : List (String × Value) :=
  [(pollIntervalField, .text "1"), (backoffField, .text "exponential"),
   (multiplierField, .text "2.0"), (maxPollIntervalField, .float 10),
   (retryTerminalField, .text "yes")]

theorem ofFields_doubling : ofFields doublingFields = .ok doubling := by
  have wait : field doublingFields maxWaitField default.maxWait (readNumber (.atLeast 0)) =
      .ok 60 := by decide +kernel
  have pause : field doublingFields pollIntervalField default.pollInterval
      (readNumber (.above 0)) = .ok 1 := by decide +kernel
  have style : field doublingFields backoffField default.backoff readBackoff =
      .ok .exponential := by decide +kernel
  have multiplier : field doublingFields multiplierField default.multiplier
      (readNumber (.atLeast 1)) = .ok 2 := by decide +kernel
  have limit : field doublingFields maxPollIntervalField default.maxPollInterval
      (readNumber? (.above 0)) = .ok (some 10) := by decide +kernel
  have retries : field doublingFields retryTerminalField default.retryTerminal readFlag =
      .ok true := by decide +kernel
  have fit : checkFit doubling = .ok doubling := checkFit_eq_ok_iff.mpr ⟨rfl, by decide +kernel⟩
  simp only [ofFields, wait, pause, style, multiplier, limit, retries]
  exact congrArg (Except.mapError (invalid [·])) fit

theorem delay_doubling :
    letI := Elementary.tabulated
    doubling.growth.delay 3 = .ok (.ofFloat 4) := by
  let _ := Elementary.tabulated
  have grown : Number.grown (.ofFloat 1) (.ofFloat 2) 2 = 4 := by decide +kernel
  have capped : doubling.growth.cap = some (.ofFloat 10) := rfl
  refine Backoff.delay_eq_ok_iff.mpr ⟨2, rfl, ?_⟩
  simp only [Backoff.cut, capped]
  have least : Number.min (.ofFloat 4) (.ofFloat 10) = .ofFloat 4 := if_neg (by decide +kernel)
  exact (congrArg (fun x => Number.min (.ofFloat x) (.ofFloat 10)) grown).trans least

theorem policy_of_ofFields_doubling :
    letI := Elementary.tabulated
    ∃ p, doubling.policy = .ok p ∧ p.shouldRetry .terminal = true ∧
      p.intervalFor Host.bare 3 () = (.ok (.ofFloat 4), ()) := by
  let _ := Elementary.tabulated
  have approximated : doubling.growth.Approximated :=
    Backoff.approximated_tabulated rfl (by rintro _ ⟨⟩; decide +kernel)
  have ⟨p, made, _, retries, _, exponential⟩ :=
    policy_of_ofFields Host.bare ofFields_doubling fun _ => approximated
  have ⟨_, pauses, _⟩ := exponential rfl
  refine ⟨p, made, (retries _).mpr (.inr ⟨rfl, rfl⟩), ?_⟩
  rw [pauses]
  exact congrArg (·, ()) delay_doubling

end WaitSettings

end BoundedWait
