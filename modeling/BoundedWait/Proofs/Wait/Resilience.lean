import BoundedWait.Proofs.Source.Guard
import BoundedWait.Proofs.Wait.Trace
import BoundedWait.Proofs.Wait.Verdict

namespace BoundedWait

variable {σ : Type}

def Number.Timed (n : Number) : Prop :=
  ∃ text, (Value.number n).toMilliseconds = .ok text

theorem Number.Timed.ofFloat (x : Float) : (Number.ofFloat x).Timed :=
  ⟨_, rfl⟩

theorem Number.Timed.shorter {a b : Number} (ha : a.Timed) (hb : b.Timed) :
    (Span.shorter a b).Timed := by
  simp only [Span.shorter, Number.min]
  split
  case isTrue  => exact hb
  case isFalse => exact ha

def Policy.Measures (policy : Policy) (start reading : Number) : Prop :=
  ∃ elapsed remaining, Span.sub reading start = .ok elapsed ∧
    Span.sub policy.maxWait elapsed = .ok remaining ∧ elapsed.Timed ∧ remaining.Timed

theorem Number.sub_ofFloat (a : Number) (y : Float) :
    a.sub (.ofFloat y) = a.toFloat.map fun x => .ofFloat (x - y) := by
  cases a
  case bool  => rfl
  case float => rfl
  case int i =>
    simp only [sub, combine, integral?, ofFloat]
    cases (Number.int i).toFloat <;> rfl

-- A clock that tells doubles can always be measured, if the limit is not too large for a double.
theorem Policy.measures_float {policy : Policy} {limit : Float}
    (fits : policy.maxWait.toFloat = .ok limit) (x y : Float) (m n : Nat) :
    policy.Measures (.float x m) (.float y n) := by
  have left : Span.sub policy.maxWait (.ofFloat (y - x)) = .ok (.ofFloat (limit - (y - x))) := by
    simp only [Span.sub, Number.sub_ofFloat, fits]
    rfl
  exact ⟨_, _, rfl, left, .ofFloat _, .ofFloat _⟩

theorem Policy.timed_of_intervalFor {host : Host σ} {policy : Policy} {n : Int} {d : Number}
    {s s' : σ} (h : policy.intervalFor host n s = (.ok d, s')) : d.Timed := by
  have positive {x : Float} (h : positive n x = .ok d) : d.Timed := by
    simp only [Policy.positive] at h
    split at h
    case isTrue  => cases h
    case isFalse =>
      cases h
      exact .ofFloat x
  -- Whichever way the policy paces itself, the interval is turned into a double on its way out.
  cases poll : policy.poll
  all_goals
    simp only [intervalFor, poll, Act.bind_eq_ok_iff, Act.of_apply, Act.ending_eq_iff,
      Except.bind_eq_ok_iff] at h
  case seconds =>
    obtain ⟨⟨x, _, made⟩, _⟩ := h
    cases made
    exact .ofFloat x
  case fixed =>
    obtain ⟨⟨_, _, made⟩, _⟩ := h
    exact positive made
  case exponential =>
    obtain ⟨⟨_, _, _, _, made⟩, _⟩ := h
    exact positive made
  case custom =>
    obtain ⟨_, _, _, ⟨_, _, made⟩, _⟩ := h
    exact positive made

def Note.Writable : Note Number → Prop
  | .resolved n elapsed        => n < tenTo Misuse.mostDigits ∧ elapsed.Timed
  | .givingUp n _ _ cause      =>
    n < tenTo Misuse.mostDigits ∧ ∃ reason, cause.message = .ok reason
  | .expired n _ maxWait cause =>
    n < tenTo Misuse.mostDigits ∧ (∃ reason, cause.message = .ok reason) ∧
      ∃ limit, (Value.number maxWait).display = .ok limit
  | .retrying n delay _ cause  =>
    n < tenTo Misuse.mostDigits ∧ (∃ reason, cause.message = .ok reason) ∧ delay.Timed

theorem Note.exists_entry {src : Source} {text : String} (shown : src.inspect = .ok text)
    (note : Note Number) (writable : note.Writable) : ∃ line, note.entry src = .ok line := by
  have count {n : Nat} (few : n < tenTo Misuse.mostDigits) :
      (Value.int n).display = .ok (Number.int n).text := Value.display_int few
  cases note
  case resolved =>
    obtain ⟨few, time, timed⟩ := writable
    simp only [entry, shown, count few, timed]
    exact ⟨_, rfl⟩
  case givingUp =>
    obtain ⟨few, reason, told⟩ := writable
    simp only [entry, shown, count few, told]
    exact ⟨_, rfl⟩
  case expired =>
    obtain ⟨few, ⟨reason, told⟩, limit, written⟩ := writable
    simp only [entry, shown, count few, told, written]
    exact ⟨_, rfl⟩
  case retrying =>
    obtain ⟨few, ⟨reason, told⟩, time, timed⟩ := writable
    simp only [entry, shown, count few, told, timed]
    exact ⟨_, rfl⟩

structure Sturdy (host : Host σ) (timing : Timing σ) (observe : Observer σ) (policy : Policy) :
    Prop where
  clock    : timing.clock.Returns
  pause    : ∀ d, (timing.pause d).Returns
  observe  : ∀ n reply, (observe n reply).Returns
  interval : ∀ n : Nat, (policy.intervalFor host n).Returns
  log      : ∀ entry, (host.log entry).Returns
  limit    : ∃ text, (Value.number policy.maxWait).display = .ok text
  times    : ∀ start s s' reading t t', timing.clock s = (.ok start, s') →
    timing.clock t = (.ok reading, t') → policy.Measures start reading

variable {host : Host σ} {timing : Timing σ} {observe : Observer σ} {policy : Policy}
         {src : Source} {text : String} {start : Number} {n : Nat} {s : σ}

structure Round.Plain (policy : Policy) (r : Round Number) (j : Judgement) : Prop where
  answered  : ∃ o, r.trial.reply = .outcome o
  told      : ∀ kind cause, j = .failed kind cause → ∃ reason, cause.message = .ok reason
  elapsed   : r.elapsed.Timed
  remaining : ∃ remaining, Span.sub policy.maxWait r.elapsed = .ok remaining ∧ remaining.Timed

namespace Plan

theorem report_returns (sturdy : Sturdy host timing observe policy) {attempt : Act σ Trial}
    (shown : src.inspect = .ok text) {note : Note Number} (writable : note.Writable) :
    ((planFor host timing observe policy src attempt).report note).Returns := by
  have ⟨_, made⟩ := note.exists_entry shown writable
  exact .bind (.of made) fun entry _ => sturdy.log entry

theorem settle_returns (sturdy : Sturdy host timing observe policy)
    (shown : src.inspect = .ok text) (few : n < tenTo Misuse.mostDigits) {r : Round Number}
    {j : Judgement} (plain : r.Plain policy j) :
    ((planFor host timing observe policy src (src.trial host)).settle ⟨start, n⟩ r j).Returns := by
  have ⟨⟨o, answered⟩, told, elapsed, remaining, left, room⟩ := plain
  cases j
  case resolved =>
    have resolved : (Note.resolved n r.elapsed).Writable := ⟨few, elapsed⟩
    have announced : ((planFor host timing observe policy src (src.trial host)).announce n
        r.elapsed).Returns :=
      .ite (report_returns sturdy shown resolved) (.pure trivial)
    have valued : (host.valueOf r.trial.reply).Returns := by
      rw [answered]
      exact .pure trivial
    exact announced.bind fun _ _ => valued.bind fun _ _ => .pure trivial
  case failed kind cause =>
    have told := told kind cause rfl
    have refused : (Note.givingUp n r.elapsed kind cause).Writable := ⟨few, told⟩
    have expired : (Note.expired n r.elapsed policy.maxWait cause).Writable :=
      ⟨few, told, sturdy.limit⟩
    have retried (interval : Number) (written : interval.Timed) :
        (Note.retrying n (Span.shorter interval remaining) remaining cause).Writable :=
      ⟨few, told, written.shorter room⟩
    have asked : (policy.intervalFor host n).Yields Number.Timed := by
      intro s
      have ⟨d, s', made, _⟩ := sturdy.interval n s
      exact ⟨d, s', made, Policy.timed_of_intervalFor made⟩
    -- Each way through is the announcement of one note.
    refine .ite ((report_returns sturdy shown refused).bind fun _ _ => .pure trivial) ?_
    refine .bind (.of left) ?_
    rintro _ rfl
    refine .ite ((report_returns sturdy shown expired).bind fun _ _ => .pure trivial) ?_
    refine asked.bind fun interval written => ?_
    exact (report_returns sturdy shown (retried interval written)).bind fun _ _ => .pure trivial

end Plan

instance decidableTold (reply : Value) : Decidable reply.Told :=
  decidable_of_iff (∃ o ∈ reply.outcome?, ∀ c ∈ o.cause?, ∃ text, c.message = .ok text) (by
    simp only [Value.Told, Option.mem_def, Value.outcome?_eq_some_iff])

instance decidableTellable (src : Source) (s : σ) : Decidable (src.Tellable host s) :=
  match attempted : src.attempt host s with
  | (.ok reply, _) => decidable_of_iff reply.Told (by simp [Source.Tellable, attempted])
  | (.error e, _)  => decidable_of_iff (∃ text, e.message = .ok text)
    (by simp [Source.Tellable, attempted])

-- A world in which it is written down what foreign sources answer or raise, and time stands still.

def Timing.still {σ : Type} : Timing σ where
  clock   := pure (.int 0)
  pause _ := pure ()

theorem Number.Timed.int {i : Int} (h : (Binary64.ofInt i).isSome = true) :
    (Number.int i).Timed := by
  obtain ⟨x, fits⟩ := Option.isSome_iff_exists.mp h
  exact ⟨Decimal.milliseconds x, by simp [Value.toMilliseconds, toFloat, fits]; rfl⟩

end BoundedWait
