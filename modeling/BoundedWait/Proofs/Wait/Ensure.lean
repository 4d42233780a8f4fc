import BoundedWait.Proofs.Wait.Record
import BoundedWait.Wait.Ensure

namespace BoundedWait

variable {σ : Type}

def Value.failure? : Value → Option (OutcomeKind × Fault)
  | .outcome o => o.cause?.map (o.kind, ·)
  | _          => none

theorem Value.failure?_outcome {o : Outcome} :
    (Value.outcome o).failure? = none ↔ o.isSuccess = true := by
  simp [failure?, o.isSuccess_iff]

namespace Host

variable {host : Host σ} {reply : Value} {s s' : σ}

theorem judge_outcome (o : Outcome) :
    host.judge (.outcome o) s =
      (.ok (match o with
        | .success _     => .resolved
        | .retryable c _ => .failed .retryable c
        | .terminal c _  => .failed .terminal c), s) := by
  cases o <;> rfl

-- An answer that is no outcome either passes for a success or cannot be judged.
theorem judge_eq_ok {j : Judgement} (h : host.judge reply s = (.ok j, s')) :
    (∃ o, reply = .outcome o) ∨ j = .resolved := by
  cases reply
  case outcome o => exact .inl ⟨o, rfl⟩
  all_goals
    refine .inr ?_
    simp only [judge, Act.bind_eq_ok_iff] at h
    obtain ⟨passed, _, _, h⟩ := h
    cases passed
    case true =>
      cases h
      rfl
    case false =>
      simp only [Bool.false_eq_true, if_false, Act.bind_eq_ok_iff] at h
      obtain ⟨_, _, _, _, _, _, h⟩ := h
      cases h

theorem judge_eq_failed_iff {kind : OutcomeKind} {cause : Fault} :
    host.judge reply s = (.ok (.failed kind cause), s') ↔
      reply.failure? = some (kind, cause) ∧ s = s' := by
  constructor
  case mp =>
    intro h
    cases judge_eq_ok h
    case inl answered =>
      have ⟨o, outcome⟩ := answered
      rw [outcome] at h ⊢
      rw [judge_outcome] at h
      cases o <;> cases h
      all_goals exact ⟨rfl, rfl⟩
    case inr passed => cases passed
  case mpr =>
    rintro ⟨h, rfl⟩
    cases reply
    case outcome o => cases o <;> cases h <;> rfl
    all_goals cases h

theorem failure?_of_judge_eq_resolved (h : host.judge reply s = (.ok .resolved, s')) :
    reply.failure? = none := by
  cases reply
  case outcome o =>
    rw [judge_outcome] at h
    cases o <;> cases h
    rfl
  all_goals rfl

end Host

-- An attempt that calls for another one: it has failed in a way that is retried, with time left.
structure Lap.Due (policy : Policy) (start : Number) (l : Lap Number) : Prop where
  failed   : l.trial.reply.failure? = some (l.kind, l.cause)
  retried  : policy.shouldRetry l.kind = true
  measured : Span.sub l.reading start = .ok l.elapsed
  left     : Span.sub policy.maxWait l.elapsed = .ok l.remaining
  unspent  : Span.spent l.remaining = false

inductive Round.Ends (host : Host σ) (policy : Policy) (r : Round Number) : Ending → Prop
  | resolved {v : Value} {s s' : σ} (passed : r.trial.reply.failure? = none)
      (value : host.valueOf r.trial.reply s = (.ok v, s')) : Ends host policy r (.resolved v)
  | refused {kind : OutcomeKind} {cause : Fault}
      (failed : r.trial.reply.failure? = some (kind, cause))
      (final : policy.shouldRetry kind = false) : Ends host policy r (.refused cause)
  | expired {kind : OutcomeKind} {cause : Fault} {remaining : Number}
      (failed : r.trial.reply.failure? = some (kind, cause))
      (retried : policy.shouldRetry kind = true)
      (left : Span.sub policy.maxWait r.elapsed = .ok remaining)
      (spent : Span.spent remaining = true) : Ends host policy r (.expired cause)

variable {host : Host σ} {timing : Timing σ} {observe : Observer σ} {fuel : Nat} {policy : Policy}

namespace Plan

variable {src : Source} {attempt : Act σ Trial} {start : Number} {n : Nat} {s s' : σ}

theorem Retried.due {l : Lap Number} :
    ((planFor host timing observe policy src attempt).Retried start n l s s') → l.Due policy start
  | ⟨⟨_, _, measured, _, judged⟩, ⟨retried, left, unspent, _, _⟩⟩ =>
    ⟨(Host.judge_eq_failed_iff.mp judged).1, retried, measured, left, unspent⟩

theorem Laps.due {laps : List (Lap Number)}
    (h : (planFor host timing observe policy src attempt).Laps start n laps s s') :
    ∀ l ∈ laps, l.Due policy start := by
  induction h
  case nil => simp
  case cons retried _ _ ih => exact List.forall_mem_cons.mpr ⟨retried.due, ih⟩

theorem Finished.ends {r : Round Number} {e : Ending} :
    ((planFor host timing observe policy src attempt).Finished start n r e s s') →
      Span.sub r.reading start = .ok r.elapsed ∧ r.Ends host policy e
  | ⟨⟨_, _, measured, _, judged⟩, closes⟩ => by
    refine ⟨measured, ?_⟩
    cases closes
    case resolved _ value => exact .resolved (Host.failure?_of_judge_eq_resolved judged) value
    case refused final _  => exact .refused (Host.judge_eq_failed_iff.mp judged).1 final
    case expired retried left spent _ =>
      exact .expired (Host.judge_eq_failed_iff.mp judged).1 retried left spent

end Plan

def ensureResultRecorded (host : Host σ) (timing : Timing σ) (observe : Observer σ) (fuel : Nat)
    (source : Value) (policy : Policy) :
    Act (σ × List (Plan.Event Number)) (Option Report) := do
  let s ← .of (Source.ofValue source)
  let finish ← (planFor host timing observe policy s (s.trial host)).recorded.wait fuel
  return finish.map fun (f, _) => Report.ofFinish s policy f

variable {source : Value} {s s' : σ}

theorem mirrors_ensureResult :
    (ensureResultRecorded host timing observe fuel source policy).Mirrors
      (ensureResult host timing observe fuel source policy) :=
  .bind (.of_of _) fun _ =>
  .bind Plan.mirrors_wait fun _ => .of_pure _

theorem exists_journal (host : Host σ) (timing : Timing σ) (observe : Observer σ) (fuel : Nat)
    (source : Value) (policy : Policy) (s : σ) :
    ∃ journal, ensureResultRecorded host timing observe fuel source policy (s, []) =
      ((ensureResult host timing observe fuel source policy s).1,
        ((ensureResult host timing observe fuel source policy s).2, journal)) :=
  ⟨_, mirrors_ensureResult.result_eq s []⟩

-- A wait stops before its first attempt, or it makes laps, and something comes after them.
theorem ensureResultRecorded_cases {r : Except Fault (Option Report)}
    {t : σ × List (Plan.Event Number)}
    (h : ensureResultRecorded host timing observe fuel source policy (s, []) = (r, t)) :
    (∃ f, r = .error f ∧ (t.2 = [] ∨ t.2 = [.clock (.error f)])) ∨
    ∃ src start laps rest finish, Source.ofValue source = .ok src ∧
      (∀ l ∈ laps, Lap.Due policy start l) ∧ (finish = .ok none → laps.length = fuel) ∧
      (planFor host timing observe policy src (src.trial host)).Rest start laps.length
        (Plan.trialsOf laps) finish rest ∧
      r = finish.map (Option.map fun (f, _) => Report.ofFinish src policy f) ∧
      t.2 = .clock (.ok start) :: (Lap.journal 1 laps ++ rest) := by
  rw [ensureResultRecorded, Act.bind_apply, Act.of_apply] at h
  cases given : Source.ofValue source
  all_goals simp only [given] at h
  case error f =>
    cases h
    exact .inl ⟨f, rfl, .inl rfl⟩
  case ok src =>
    rw [Act.bind_apply] at h
    rcases waited : (planFor host timing observe policy src (src.trial host)).recorded.wait fuel
      (s, []) with ⟨finish, t'⟩
    have : r = finish.map (Option.map fun (f, _) => Report.ofFinish src policy f) ∧ t' = t := by
      cases finish <;> simp only [waited] at h <;> cases h <;> exact ⟨rfl, rfl⟩
    obtain ⟨rfl, rfl⟩ := this
    cases Plan.journal_of_wait waited
    case inl unread =>
      have ⟨f, broken, read⟩ := unread
      exact .inl ⟨f, by rw [broken]; rfl, .inr read⟩
    case inr told =>
      have ⟨start, laps, _, _, rest, made, used, stops, journal⟩ := told
      exact .inr ⟨src, start, laps, rest, finish, rfl, made.due, used, stops, rfl, journal⟩

theorem ensureResultRecorded_eq_some {report : Report} {t : σ × List (Plan.Event Number)}
    (h : ensureResultRecorded host timing observe fuel source policy (s, []) =
      (.ok (some report), t)) :
    ∃ start laps last s₁ s₂, (∀ l ∈ laps, Lap.Due policy start l) ∧
      (planFor host timing observe policy report.source (report.source.trial host)).Finished start
        (laps.length + 1) last report.ending s₁ s₂ ∧
      Source.ofValue source = .ok report.source ∧
      report = ⟨report.ending, laps.length + 1, last.elapsed, report.source, policy.maxWait⟩ ∧
      t.2 = .clock (.ok start) :: (Lap.journal 1 laps ++ last.events (laps.length + 1)) := by
  cases ensureResultRecorded_cases h
  case inl broken =>
    have ⟨_, h, _⟩ := broken
    cases h
  case inr ran =>
    obtain ⟨src, start, laps, rest, _, given, due, -, stops, h, journal⟩ := ran
    cases stops <;> cases h
    case finished last e finished =>
      exact ⟨start, laps, last, _, _, due, finished, given, rfl, journal⟩

end BoundedWait
