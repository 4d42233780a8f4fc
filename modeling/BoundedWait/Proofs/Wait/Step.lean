import BoundedWait.Wait.Engine

namespace BoundedWait

structure Lap (τ : Type) extends Round τ where
  kind      : OutcomeKind
  cause     : Fault
  remaining : τ
  interval  : τ

namespace Lap

variable {τ : Type} [Span τ]

def delay (l : Lap τ) : τ :=
  Span.shorter l.interval l.remaining

end Lap

namespace Plan

variable {σ τ : Type} [Span τ] {p : Plan σ τ} {start : τ} {n fuel : Nat} {s s' : σ}

inductive Looked (p : Plan σ τ) (start : τ) (n : Nat) (r : Round τ) (j : Judgement) :
    σ → σ → Prop
  | intro {s s₁ s₂ s₃ s₄ : σ} (attempted : p.attempt s = (.ok r.trial, s₁))
      (read : p.clock s₁ = (.ok r.reading, s₂))
      (measured : Span.sub r.reading start = .ok r.elapsed)
      (observed : p.observe n r.trial.reply s₂ = (.ok (), s₃))
      (judged : p.judge r.trial.reply s₃ = (.ok j, s₄)) : Looked p start n r j s s₄

theorem look_eq_ok_iff {r : Round τ} {j : Judgement} :
    p.look start n s = (.ok (r, j), s') ↔ p.Looked start n r j s s' := by
  constructor
  case mp =>
    intro h
    simp only [look, Act.bind_eq_ok_iff, Act.of_apply, Act.pure_apply, Act.ending_eq_iff,
      Except.ok.injEq, Prod.mk.injEq] at h
    obtain ⟨_, _, attempted, _, _, read, _, _, ⟨measured, rfl⟩, _, _, observed, _, _, judged,
      ⟨rfl, rfl⟩, rfl⟩ := h
    exact ⟨attempted, read, measured, observed, judged⟩
  case mpr =>
    rintro ⟨attempted, read, measured, observed, judged⟩
    simp [look, attempted, read, measured, observed, judged]

inductive Closes (p : Plan σ τ) (n : Nat) (r : Round τ) : Judgement → Ending → σ → σ → Prop
  | resolved {s s₁ s₂ : σ} {v : Value}
      (reported : p.announce n r.elapsed s = (.ok (), s₁))
      (value : p.valueOf r.trial.reply s₁ = (.ok v, s₂)) : Closes p n r .resolved (.resolved v) s s₂
  | refused {s s₁ : σ} {kind : OutcomeKind} {cause : Fault} (final : p.retries kind = false)
      (reported : p.report (.givingUp n r.elapsed kind cause) s = (.ok (), s₁)) :
      Closes p n r (.failed kind cause) (.refused cause) s s₁
  | expired {s s₁ : σ} {kind : OutcomeKind} {cause : Fault} {remaining : τ}
      (retried : p.retries kind = true) (left : Span.sub p.maxWait r.elapsed = .ok remaining)
      (spent : Span.spent remaining = true)
      (reported : p.report (.expired n r.elapsed p.maxWait cause) s = (.ok (), s₁)) :
      Closes p n r (.failed kind cause) (.expired cause) s s₁

theorem afterSuccess_eq_ok_iff {r : Round τ} {progress : Progress τ} :
    p.afterSuccess n r s = (.ok progress, s') ↔
      ∃ e, p.Closes n r .resolved e s s' ∧ progress = .done ⟨e, n, r.elapsed⟩ := by
  constructor
  case mp =>
    intro h
    simp only [afterSuccess, Act.bind_eq_ok_iff, Act.pure_apply, Act.ending_eq_iff,
      Except.ok.injEq] at h
    obtain ⟨_, _, reported, v, _, value, rfl, rfl⟩ := h
    exact ⟨.resolved v, .resolved reported value, rfl⟩
  case mpr =>
    rintro ⟨_, ⟨reported, value⟩, rfl⟩
    simp [afterSuccess, reported, value]

inductive Renews (p : Plan σ τ) (n : Nat) (l : Lap τ) : σ → σ → Prop
  | intro {s s₁ s₂ : σ} (retried : p.retries l.kind = true)
      (left : Span.sub p.maxWait l.elapsed = .ok l.remaining)
      (unspent : Span.spent l.remaining = false)
      (paced : p.interval n s = (.ok l.interval, s₁))
      (reported : p.report (.retrying n l.delay l.remaining l.cause) s₁ = (.ok (), s₂)) :
      Renews p n l s s₂

theorem afterFailure_eq_ok_iff {r : Round τ} {kind : OutcomeKind} {cause : Fault}
    {progress : Progress τ} :
    p.afterFailure ⟨start, n⟩ r.elapsed kind cause s = (.ok progress, s') ↔
      (∃ e, p.Closes n r (.failed kind cause) e s s' ∧ progress = .done ⟨e, n, r.elapsed⟩) ∨
      (∃ remaining interval, let l : Lap τ := ⟨r, kind, cause, remaining, interval⟩
        p.Renews n l s s' ∧ progress = .again l.delay ⟨start, n⟩) := by
  constructor
  case mp =>
    intro h
    unfold afterFailure at h
    -- A failure that is final, one with no time left, and one to retry, in the order of the checks.
    split at h
    case isTrue final =>
      simp only [Act.bind_eq_ok_iff, Act.pure_apply, Act.ending_eq_iff, Except.ok.injEq] at h
      obtain ⟨_, _, reported, rfl, rfl⟩ := h
      exact .inl ⟨_, .refused (by simpa using final) reported, rfl⟩
    case isFalse retried =>
      replace retried : p.retries kind = true := by simpa using retried
      simp only [Act.bind_eq_ok_iff (a := Act.of _), Act.of_apply, Act.ending_eq_iff] at h
      obtain ⟨remaining, _, ⟨left, rfl⟩, h⟩ := h
      split at h
      case isTrue spent =>
        simp only [Act.bind_eq_ok_iff, Act.pure_apply, Act.ending_eq_iff, Except.ok.injEq] at h
        obtain ⟨_, _, reported, rfl, rfl⟩ := h
        exact .inl ⟨_, .expired retried left spent reported, rfl⟩
      case isFalse unspent =>
        simp only [Act.bind_eq_ok_iff, Act.pure_apply, Act.ending_eq_iff, Except.ok.injEq] at h
        obtain ⟨interval, _, paced, _, _, reported, rfl, rfl⟩ := h
        exact .inr ⟨remaining, interval, ⟨retried, left, by simpa using unspent, paced, reported⟩,
          rfl⟩
  case mpr =>
    rintro (⟨_, closes, rfl⟩ | ⟨remaining, interval, renews, rfl⟩)
    case inl =>
      cases closes
      case refused final reported              => simp [afterFailure, final, reported]
      case expired remaining retried left spent reported =>
        simp [afterFailure, retried, left, spent, reported]
    case inr =>
      obtain ⟨retried, left, unspent, paced, reported⟩ := renews
      simp_all [afterFailure, Lap.delay]

theorem step_eq_ok_iff {trial : Trial} {progress : Progress τ} :
    p.step ⟨start, n⟩ s = (.ok (trial, progress), s') ↔
      ∃ r j s₁, p.Looked start (n + 1) r j s s₁ ∧
        p.settle ⟨start, n + 1⟩ r j s₁ = (.ok progress, s') ∧ trial = r.trial := by
  simp only [step, Act.bind_eq_ok_iff, Act.pure_apply, Act.ending_eq_iff, Except.ok.injEq,
    Prod.mk.injEq]
  constructor
  case mp =>
    rintro ⟨⟨r, j⟩, s₁, looked, _, _, settled, ⟨rfl, rfl⟩, rfl⟩
    exact ⟨r, j, s₁, look_eq_ok_iff.mp looked, settled, rfl⟩
  case mpr =>
    rintro ⟨r, j, s₁, looked, settled, rfl⟩
    exact ⟨(r, j), s₁, look_eq_ok_iff.mpr looked, progress, s', settled, ⟨rfl, rfl⟩, rfl⟩

-- An attempt of some number that is retried, up to the pause after it.
inductive Retried (p : Plan σ τ) (start : τ) (n : Nat) (l : Lap τ) : σ → σ → Prop
  | intro {s s₁ s₂ : σ} (looked : p.Looked start n l.toRound (.failed l.kind l.cause) s s₁)
      (renews : p.Renews n l s₁ s₂) : Retried p start n l s s₂

inductive Finished (p : Plan σ τ) (start : τ) (n : Nat) (r : Round τ) (e : Ending) : σ → σ → Prop
  | intro {s s₁ s₂ : σ} {j : Judgement} (looked : p.Looked start n r j s s₁)
      (closes : p.Closes n r j e s₁ s₂) : Finished p start n r e s s₂

theorem step_eq_again_iff {trial : Trial} {delay : τ} {next : Pending τ} :
    p.step ⟨start, n⟩ s = (.ok (trial, .again delay next), s') ↔
      ∃ l : Lap τ, p.Retried start (n + 1) l s s' ∧ trial = l.trial ∧ delay = l.delay ∧
        next = ⟨start, n + 1⟩ := by
  rw [step_eq_ok_iff]
  constructor
  case mp =>
    rintro ⟨r, _ | ⟨kind, cause⟩, s₁, looked, settled, rfl⟩
    case resolved =>
      have ⟨_, _, h⟩ := afterSuccess_eq_ok_iff.mp settled
      cases h
    case failed =>
      cases afterFailure_eq_ok_iff.mp settled
      case inl closed =>
        have ⟨_, _, h⟩ := closed
        cases h
      case inr renewed =>
        have ⟨remaining, interval, renews, h⟩ := renewed
        cases h
        exact ⟨⟨r, kind, cause, remaining, interval⟩, ⟨looked, renews⟩, rfl, rfl, rfl⟩
  case mpr =>
    rintro ⟨l, ⟨looked, renews⟩, rfl, rfl, rfl⟩
    exact ⟨_, _, _, looked, afterFailure_eq_ok_iff.mpr (.inr ⟨_, _, renews, rfl⟩), rfl⟩

theorem step_eq_done_iff {trial : Trial} {finish : Finish τ} :
    p.step ⟨start, n⟩ s = (.ok (trial, .done finish), s') ↔
      ∃ r e, p.Finished start (n + 1) r e s s' ∧ trial = r.trial ∧
        finish = ⟨e, n + 1, r.elapsed⟩ := by
  rw [step_eq_ok_iff]
  constructor
  case mp =>
    rintro ⟨r, _ | ⟨kind, cause⟩, s₁, looked, settled, rfl⟩
    case resolved =>
      have ⟨e, closes, h⟩ := afterSuccess_eq_ok_iff.mp settled
      cases h
      exact ⟨r, e, ⟨looked, closes⟩, rfl, rfl⟩
    case failed =>
      cases afterFailure_eq_ok_iff.mp settled
      case inl closed =>
        have ⟨e, closes, h⟩ := closed
        cases h
        exact ⟨r, e, ⟨looked, closes⟩, rfl, rfl⟩
      case inr renewed =>
        have ⟨_, _, _, h⟩ := renewed
        cases h
  case mpr =>
    rintro ⟨r, e, ⟨looked, closes⟩, rfl, rfl⟩
    refine ⟨r, _, _, looked, ?_, rfl⟩
    cases closes
    case resolved reported value =>
      exact afterSuccess_eq_ok_iff.mpr ⟨_, .resolved reported value, rfl⟩
    case refused final reported =>
      exact afterFailure_eq_ok_iff.mpr (.inl ⟨_, .refused final reported, rfl⟩)
    case expired retried left spent reported =>
      exact afterFailure_eq_ok_iff.mpr (.inl ⟨_, .expired retried left spent reported, rfl⟩)

end Plan

end BoundedWait
