import BoundedWait.Proofs.Wait.Mirror

namespace BoundedWait

namespace Plan

inductive Event (τ : Type) where
  | clock (reading : Except Fault τ)
  | attempt (answer : Except Fault Trial)
  | observe (count : Nat) (reply : Value) (answer : Except Fault Unit)
  | interval (count : Nat) (answer : Except Fault τ)
  | pause (delay : τ) (answer : Except Fault Unit)

inductive Call (τ : Type) where
  | clock
  | attempt
  | observe (count : Nat) (reply : Value)
  | interval (count : Nat)
  | pause (delay : τ)

namespace Event

variable {τ : Type}

def call : Event τ → Call τ
  | clock _            => .clock
  | attempt _          => .attempt
  | observe n reply _  => .observe n reply
  | interval n _       => .interval n
  | pause delay _      => .pause delay

def reply? : Event τ → Option Value
  | attempt (.ok t) => some t.reply
  | _               => none

def reading? : Event τ → Option τ
  | clock (.ok t) => some t
  | _             => none

end Event

def recorded {σ τ : Type} (p : Plan σ τ) : Plan (σ × List (Event τ)) τ where
  maxWait     := p.maxWait
  retries     := p.retries
  interval n  := (p.interval n).noted (.interval n)
  clock       := p.clock.noted .clock
  pause d     := (p.pause d).noted (.pause d)
  attempt     := p.attempt.noted .attempt
  judge v     := (p.judge v).beside
  valueOf v   := (p.valueOf v).beside
  observe n v := (p.observe n v).noted (.observe n v)
  report m    := (p.report m).beside

end Plan

def Round.events {τ : Type} (n : Nat) (r : Round τ) : List (Plan.Event τ) :=
  [.attempt (.ok r.trial), .clock (.ok r.reading), .observe n r.trial.reply (.ok ())]

namespace Lap

variable {τ : Type}

def asked (n : Nat) (l : Lap τ) : List (Plan.Event τ) :=
  l.events n ++ [.interval n (.ok l.interval)]

def journal [Span τ] : Nat → List (Lap τ) → List (Plan.Event τ)
  | _, []        => []
  | n, l :: laps => l.asked n ++ .pause l.delay (.ok ()) :: journal (n + 1) laps

end Lap

namespace Plan

variable {σ τ : Type} [Span τ] {p : Plan σ τ} {start : τ} {n fuel : Nat}

omit [Span τ] in
theorem mirrors_recorded : p.recorded.Mirrors p where
  toCongruence := Act.Mirrors.congruence
  maxWait      := rfl
  retries      := rfl
  interval _   := .of_noted _ _
  clock        := .of_noted _ _
  pause _      := .of_noted _ _
  attempt      := .of_noted _ _
  judge _      := .of_beside _
  valueOf _    := .of_beside _
  observe _ _  := .of_noted _ _
  report _     := .of_beside _

theorem mirrors_wait : (p.recorded.wait fuel).Mirrors (p.wait fuel) :=
  mirrors_recorded.wait

omit [Span τ] in
theorem announce_recorded {elapsed : τ} :
    p.recorded.announce n elapsed = (p.announce n elapsed).beside := by
  unfold announce
  split <;> rfl

variable {s s' : σ × List (Event τ)}

theorem Looked.journal {r : Round τ} {j : Judgement} :
    (p.recorded.Looked start n r j s s') → s'.2 = s.2 ++ r.events n
  | ⟨attempted, read, _, observed, judged⟩ => by
    have attempted := (Act.noted_eq_iff.mp attempted).2
    have read      := (Act.noted_eq_iff.mp read).2
    have observed  := (Act.noted_eq_iff.mp observed).2
    have judged    := (Act.beside_eq_iff.mp judged).2
    simp [judged, observed, read, attempted, Round.events]

theorem Closes.journal {r : Round τ} {j : Judgement} {e : Ending}
    (h : p.recorded.Closes n r j e s s') : s'.2 = s.2 := by
  cases h
  case refused reported => exact (Act.beside_eq_iff.mp reported).2
  case expired reported => exact (Act.beside_eq_iff.mp reported).2
  case resolved reported value =>
    rw [announce_recorded] at reported
    rw [(Act.beside_eq_iff.mp value).2, (Act.beside_eq_iff.mp reported).2]

theorem Renews.journal {l : Lap τ} :
    (p.recorded.Renews n l s s') → s'.2 = s.2 ++ [.interval n (.ok l.interval)]
  | ⟨_, _, _, paced, reported⟩ => by
    rw [(Act.beside_eq_iff.mp reported).2, (Act.noted_eq_iff.mp paced).2]

theorem Retried.journal {l : Lap τ} : (p.recorded.Retried start n l s s') → s'.2 = s.2 ++ l.asked n
  | ⟨looked, renews⟩ => by simp [renews.journal, looked.journal, Lap.asked]

theorem Finished.journal {r : Round τ} {e : Ending} :
    (p.recorded.Finished start n r e s s') → s'.2 = s.2 ++ r.events n
  | ⟨looked, closes⟩ => by rw [closes.journal, looked.journal]

theorem Laps.journal {laps : List (Lap τ)} (h : p.recorded.Laps start n laps s s') :
    s'.2 = s.2 ++ Lap.journal n laps := by
  induction h
  case nil => simp [Lap.journal]
  case cons retried paused _ ih =>
    have paused := (Act.noted_eq_iff.mp paused).2
    simp [ih, paused, retried.journal, Lap.journal]

-- A part of what an attempt of some number asks for, with what it was answered if it was made.
structure Cut (events : List (Event τ)) (reply : Value) (calls : List (Call τ)) : Prop where
  calls   : events.map Event.call <+: calls
  replies : events.filterMap Event.reply? <+: [reply]

theorem journal_of_look_eq_error {f : Fault} (h : p.recorded.look start n s = (.error f, s')) :
    ∃ events reply, s'.2 = s.2 ++ events ∧
      Cut events reply [.attempt, .clock, .observe n reply] := by
  simp only [look, Act.bind_eq_error_iff, Act.of_apply, Act.pure_apply, Act.ending_eq_iff,
    recorded, Act.noted_eq_iff, Act.beside_eq_iff, reduceCtorEq, and_false, false_and, or_false,
    exists_false] at h
  -- One case for each call that can fail, in their order.
  rcases h with ⟨_, h⟩ | ⟨t, s₁, ⟨_, h₁⟩, h⟩
  case inl => exact ⟨[.attempt (.error f)], .null, h, ⟨_, rfl⟩, ⟨[.null], rfl⟩⟩
  rcases h with ⟨_, h⟩ | ⟨reading, s₂, ⟨_, h₂⟩, h⟩
  case inl =>
    refine ⟨[.attempt (.ok t), .clock (.error f)], t.reply, ?_, ⟨_, rfl⟩, ⟨[], rfl⟩⟩
    simp [h, h₁]
  rcases h with ⟨_, rfl⟩ | ⟨_, _, ⟨_, rfl⟩, h⟩
  case inl =>
    refine ⟨[.attempt (.ok t), .clock (.ok reading)], t.reply, ?_, ⟨_, rfl⟩, ⟨[], rfl⟩⟩
    simp [h₂, h₁]
  rcases h with ⟨_, h⟩ | ⟨_, s₃, ⟨_, h₃⟩, _, h⟩
  case inl =>
    refine ⟨[.attempt (.ok t), .clock (.ok reading), .observe n t.reply (.error f)], t.reply, ?_,
      ⟨_, rfl⟩, ⟨[], rfl⟩⟩
    simp [h, h₂, h₁]
  case inr =>
    refine ⟨[.attempt (.ok t), .clock (.ok reading), .observe n t.reply (.ok ())], t.reply, ?_,
      ⟨_, rfl⟩, ⟨[], rfl⟩⟩
    simp [h, h₃, h₂, h₁]

theorem journal_of_settle_eq_error {r : Round τ} {j : Judgement} {f : Fault}
    (h : p.recorded.settle ⟨start, n⟩ r j s = (.error f, s')) :
    ∃ events, s'.2 = s.2 ++ events ∧ events.map Event.call <+: [.interval n] ∧
      events.filterMap Event.reply? = [] := by
  cases j
  case resolved =>
    simp only [settle, afterSuccess, announce_recorded, Act.bind_eq_error_iff, Act.pure_apply,
      Act.ending_eq_iff, reduceCtorEq, and_false, false_and, exists_false, or_false] at h
    -- What an announcement does is not in the journal.
    refine ⟨[], ?_, by simp, rfl⟩
    cases h
    case inl reported => simp [(Act.beside_eq_iff.mp reported).2]
    case inr rest =>
      have ⟨_, _, reported, value⟩ := rest
      simp [(Act.beside_eq_iff.mp value).2, (Act.beside_eq_iff.mp reported).2]
  case failed kind cause =>
    simp only [settle, afterFailure] at h
    split at h
    case isTrue =>
      simp only [Act.bind_eq_error_iff, Act.pure_apply, Act.ending_eq_iff, recorded,
        Act.beside_eq_iff, reduceCtorEq, and_false, false_and, or_false, exists_false] at h
      exact ⟨[], by simp [h], by simp, rfl⟩
    case isFalse =>
      simp only [Act.bind_eq_error_iff (a := Act.of _), Act.of_apply, Act.ending_eq_iff] at h
      rcases h with ⟨_, rfl⟩ | ⟨remaining, _, ⟨_, rfl⟩, h⟩
      case inl => exact ⟨[], by simp, by simp, rfl⟩
      split at h
      case isTrue =>
        simp only [Act.bind_eq_error_iff, Act.pure_apply, Act.ending_eq_iff, recorded,
          Act.beside_eq_iff, reduceCtorEq, and_false, false_and, or_false, exists_false] at h
        exact ⟨[], by simp [h], by simp, rfl⟩
      case isFalse =>
        simp only [Act.bind_eq_error_iff, Act.pure_apply, Act.ending_eq_iff, recorded,
          Act.noted_eq_iff, Act.beside_eq_iff, reduceCtorEq, and_false, false_and, or_false,
          exists_false] at h
        rcases h with ⟨_, h⟩ | ⟨interval, s₁, ⟨_, h₁⟩, _, h⟩
        case inl => exact ⟨[.interval n (.error f)], h, ⟨[], rfl⟩, rfl⟩
        case inr => exact ⟨[.interval n (.ok interval)], by rw [h, h₁], ⟨[], rfl⟩, rfl⟩

theorem journal_of_step_eq_error {f : Fault} (h : p.recorded.step ⟨start, n⟩ s = (.error f, s')) :
    ∃ events reply, s'.2 = s.2 ++ events ∧
      Cut events reply [.attempt, .clock, .observe (n + 1) reply, .interval (n + 1)] := by
  cases Act.bind_eq_error_iff.mp h
  case inl h =>
    obtain ⟨events, reply, grown, calls, replies⟩ := journal_of_look_eq_error h
    exact ⟨events, reply, grown, calls.trans ⟨[.interval (n + 1)], rfl⟩, replies⟩
  case inr settled =>
    obtain ⟨⟨r, j⟩, s₁, looked, h⟩ := settled
    simp only [Act.bind_eq_error_iff, Act.pure_apply, Act.ending_eq_iff, reduceCtorEq, false_and,
      and_false, exists_false, or_false] at h
    obtain ⟨events, grown, calls, replies⟩ := journal_of_settle_eq_error h
    refine ⟨r.events (n + 1) ++ events, r.trial.reply, ?_, ?_, ?_⟩
    · simp [grown, (look_eq_ok_iff.mp looked).journal]
    · simpa [Round.events, Event.call] using calls
    · rw [List.filterMap_append, replies]
      exact ⟨[], rfl⟩

-- What a run can end with after some number of attempts, given the trials made so far, and what is
-- then asked for after the laps.
inductive Rest (p : Plan σ τ) (start : τ) (n : Nat) (trials : List Trial) :
    Except Fault (Option (Finish τ × List Trial)) → List (Event τ) → Prop
  | unfinished : Rest p start n trials (.ok none) []
  | finished {s s' : σ} {r : Round τ} {e : Ending} (finished : p.Finished start (n + 1) r e s s') :
      Rest p start n trials (.ok (some (⟨e, n + 1, r.elapsed⟩, r.trial :: trials)))
        (r.events (n + 1))
  | broken {events : List (Event τ)} {reply : Value} {f : Fault}
      (cut : Cut events reply [.attempt, .clock, .observe (n + 1) reply, .interval (n + 1)]) :
      Rest p start n trials (.error f) events
  | restless {s s' : σ} {l : Lap τ} {f : Fault} (retried : p.Retried start (n + 1) l s s') :
      Rest p start n trials (.error f) (l.asked (n + 1) ++ [.pause l.delay (.error f)])

theorem Stops.journal {trials : List Trial}
    {r : Except Fault (Option (Finish τ × List Trial))}
    (h : p.recorded.Stops start n trials r s s') :
    ∃ events, s'.2 = s.2 ++ events ∧ p.Rest start n trials r events := by
  cases h
  case unfinished => exact ⟨[], by simp, .unfinished⟩
  case finished finished =>
    exact ⟨_, finished.journal, .finished (finished.forget mirrors_recorded)⟩
  case broken broken =>
    have ⟨events, _, grown, cut⟩ := journal_of_step_eq_error broken
    exact ⟨events, grown, .broken cut⟩
  case restless retried unpaused =>
    refine ⟨_, ?_, .restless (retried.forget mirrors_recorded)⟩
    rw [(Act.noted_eq_iff.mp unpaused).2, retried.journal, List.append_assoc]

theorem journal_of_wait {r : Except Fault (Option (Finish τ × List Trial))} {t : σ}
    (h : p.recorded.wait fuel (t, []) = (r, s')) :
    (∃ f, r = .error f ∧ s'.2 = [.clock (.error f)]) ∨
    ∃ start laps s₁ s₂ rest, p.Laps start 1 laps s₁ s₂ ∧ (r = .ok none → laps.length = fuel) ∧
      p.Rest start laps.length (trialsOf laps) r rest ∧
      s'.2 = .clock (.ok start) :: (Lap.journal 1 laps ++ rest) := by
  cases wait_cases h
  case inl unread =>
    have ⟨f, read, broken⟩ := unread
    exact .inl ⟨f, broken, (Act.noted_eq_iff.mp read).2⟩
  case inr ran =>
    have ⟨start, s₁, laps, s₂, read, made, _, used, stops⟩ := ran
    have ⟨rest, grown, stops⟩ := stops.journal
    refine .inr ⟨start, laps, s₁.1, s₂.1, rest, made.forget mirrors_recorded, used, stops, ?_⟩
    rw [grown, made.journal, (Act.noted_eq_iff.mp read).2]
    simp

end Plan

end BoundedWait
