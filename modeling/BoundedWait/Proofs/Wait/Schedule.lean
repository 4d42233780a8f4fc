import BoundedWait.Proofs.Wait.Ensure

namespace BoundedWait

namespace Plan

variable {σ τ : Type} {n : Nat} {last : Value}

-- What the attempts from some number on ask for, given the answer to each one and the pause after
-- it. There is no pause after the last one.
def Call.rounds (last : Value) : Nat → List (Value × τ) → List (Call τ)
  | n, []                     => [.attempt, .clock, .observe n last]
  | n, (reply, delay) :: laps =>
    .attempt :: .clock :: .observe n reply :: .interval n :: .pause delay ::
      rounds last (n + 1) laps

def Call.schedule (laps : List (Value × τ)) (last : Value) : List (Call τ) :=
  .clock :: rounds last 1 laps

def Call.isAttempt : Call τ → Bool
  | attempt => true
  | _       => false

def Event.attempts (journal : List (Event τ)) : Nat :=
  (journal.map Event.call).countP Call.isAttempt

abbrev Event.replies (journal : List (Event τ)) : List Value :=
  journal.filterMap Event.reply?

abbrev Event.readings (journal : List (Event τ)) : List τ :=
  journal.filterMap Event.reading?

-- A part of a schedule, from its beginning on, in which the observer is shown the very answers that
-- the attempts gave.
def Event.Scheduled (journal : List (Event τ)) : Prop :=
  ∃ laps last, journal.map Event.call <+: Call.schedule laps last ∧
    Event.replies journal <+: laps.map (·.1) ++ [last]

namespace Event

@[simp]
theorem attempts_nil : attempts ([] : List (Event τ)) = 0 := rfl

@[simp]
theorem attempts_cons (e : Event τ) (journal : List (Event τ)) :
    attempts (e :: journal) = attempts journal + if e.call.isAttempt then 1 else 0 :=
  List.countP_cons ..

@[simp]
theorem attempts_append (journal journal' : List (Event τ)) :
    attempts (journal ++ journal') = attempts journal + attempts journal' := by
  simp [attempts]

theorem length_replies_le (journal : List (Event τ)) :
    (replies journal).length ≤ attempts journal := by
  induction journal
  case nil => simp
  case cons e journal ih =>
    unfold replies at ih ⊢
    cases e
    case attempt answer =>
      cases answer <;> simp [List.filterMap_cons, reply?, call, Call.isAttempt]
      all_goals omega
    all_goals
      simp [List.filterMap_cons, reply?, call, Call.isAttempt]
      omega

end Event

theorem Event.attempts_le_one {events : List (Event τ)} {calls : List (Call τ)} {reply : Value}
    (cut : Cut events reply (.attempt :: calls)) (h : calls.countP Call.isAttempt = 0) :
    Event.attempts events ≤ 1 := by
  have := cut.calls.sublist.countP_le (p := Call.isAttempt)
  rwa [List.countP_cons, h] at this

end Plan

namespace Lap

variable {τ : Type} [Span τ]

def answered (l : Lap τ) : Value × τ :=
  (l.trial.reply, l.delay)

variable {n : Nat} {last : Value} {laps : List (Lap τ)} {more : List (Value × τ)}

theorem attempts_journal : Plan.Event.attempts (journal n laps) = laps.length := by
  induction laps generalizing n
  case nil => rfl
  case cons l laps ih =>
    simp [journal, asked, Round.events, Plan.Event.call, Plan.Call.isAttempt, ih]

theorem replies_journal : Plan.Event.replies (journal n laps) = laps.map (·.trial.reply) := by
  induction laps generalizing n
  case nil => rfl
  case cons l laps ih =>
    simp [journal, asked, Round.events, List.filterMap_cons, Plan.Event.reply?, ih]

theorem rounds_answered :
    Plan.Call.rounds last n (laps.map answered ++ more) =
      (journal n laps).map Plan.Event.call ++ Plan.Call.rounds last (n + laps.length) more := by
  induction laps generalizing n
  case nil => rfl
  case cons l laps ih =>
    simp [journal, asked, Round.events, Plan.Event.call, Plan.Call.rounds, answered, ih,
      Nat.add_assoc, Nat.add_comm 1]

end Lap

namespace Plan

variable {σ τ : Type} [Span τ] {p : Plan σ τ} {start : τ} {n : Nat} {trials : List Trial}
         {r : Except Fault (Option (Finish τ × List Trial))} {rest : List (Event τ)}

theorem Rest.attempts_le_one (h : p.Rest start n trials r rest) : Event.attempts rest ≤ 1 := by
  cases h
  case unfinished => simp
  case finished   => simp [Round.events, Event.call, Call.isAttempt]
  case restless   => simp [Lap.asked, Round.events, Event.call, Call.isAttempt]
  case broken cut => exact Event.attempts_le_one cut rfl

theorem Rest.scheduled (h : p.Rest start n trials r rest) :
    ∃ more last, rest.map Event.call <+: Call.rounds last (n + 1) more ∧
      Event.replies rest <+: more.map (·.1) ++ [last] := by
  cases h
  case unfinished => exact ⟨[], .null, List.nil_prefix, List.nil_prefix⟩
  case finished round _ _ => exact ⟨[], round.trial.reply, ⟨[], rfl⟩, ⟨[], rfl⟩⟩
  case broken reply _ cut =>
    refine ⟨[(reply, start)], .null, cut.calls.trans ?_, cut.replies.trans ⟨[.null], rfl⟩⟩
    exact ⟨.pause start :: Call.rounds .null (n + 2) [], rfl⟩
  case restless lap _ _ =>
    exact ⟨[lap.answered], .null, ⟨Call.rounds .null (n + 2) [], rfl⟩, ⟨[.null], rfl⟩⟩

theorem scheduled_of_rest {laps : List (Lap τ)} (h : p.Rest start laps.length trials r rest) :
    Event.Scheduled (.clock (.ok start) :: (Lap.journal 1 laps ++ rest)) := by
  have ⟨more, last, calls, replies⟩ := h.scheduled
  refine ⟨laps.map Lap.answered ++ more, last, ?_, ?_⟩
  case refine_1 =>
    rw [Call.schedule, Lap.rounds_answered, List.map_cons, List.map_append, Nat.add_comm 1]
    exact List.cons_prefix_cons.mpr ⟨rfl, (List.prefix_append_right_inj _).mpr calls⟩
  case refine_2 =>
    have : Event.replies (.clock (.ok start) :: (Lap.journal 1 laps ++ rest)) =
        (laps.map Lap.answered).map (·.1) ++ Event.replies rest := by
      simp [List.filterMap_cons, Event.reply?, Lap.replies_journal, Lap.answered]
    rw [this, List.map_append, List.append_assoc]
    exact (List.prefix_append_right_inj _).mpr replies

theorem schedule_of_finished {laps : List (Lap τ)} {last : Round τ} :
    (.clock (.ok start) :: (Lap.journal 1 laps ++ last.events (laps.length + 1))).map Event.call =
      Call.schedule (laps.map Lap.answered) last.trial.reply := by
  have rounds : Call.rounds last.trial.reply 1 (laps.map Lap.answered ++ []) = _ :=
    Lap.rounds_answered
  rw [List.append_nil] at rounds
  simp [Call.schedule, rounds, Call.rounds, Round.events, Event.call, Nat.add_comm 1]

end Plan

-- A journal in which every attempt but the last one called for another one.
def Plan.Event.Persistent (policy : Policy) (journal : List (Plan.Event Number)) : Prop :=
  ∃ start made, (∀ l ∈ made, Lap.Due policy start l) ∧
    (made = [] ∨ .clock (.ok start) :: Lap.journal 1 made <+: journal) ∧
    Plan.Event.attempts journal ≤ made.length + 1

namespace Plan.Event.Persistent

variable {policy : Policy} {journal before after : List (Plan.Event Number)}

theorem of_rest {σ : Type} {p : Plan σ Number} {start : Number} {laps : List (Lap Number)}
    {trials : List Trial} {r : Except Fault (Option (Finish Number × List Trial))}
    {rest : List (Plan.Event Number)} (due : ∀ l ∈ laps, Lap.Due policy start l)
    (h : p.Rest start laps.length trials r rest) :
    Persistent policy (.clock (.ok start) :: (Lap.journal 1 laps ++ rest)) := by
  refine ⟨start, laps, due, .inr ⟨rest, rfl⟩, ?_⟩
  have := h.attempts_le_one
  simp [Lap.attempts_journal, Event.call, Call.isAttempt]
  omega

theorem retried (h : Persistent policy journal) (split : journal = before ++ after)
    (later : 0 < attempts after) {reply : Value} (answered : reply ∈ replies before) :
    ∃ kind cause, reply.failure? = some (kind, cause) ∧ policy.shouldRetry kind = true := by
  obtain ⟨start, made, due, begun, few⟩ := h
  have short : (replies before).length ≤ made.length := by
    have := length_replies_le before
    rw [split, attempts_append] at few
    omega
  have : replies before <+: made.map (·.trial.reply) := by
    cases begun
    case inl => simp_all
    case inr begun =>
      have ⟨rest, begun⟩ := begun
      have : replies before <+: replies journal := ⟨replies after, by simp [split]⟩
      have : made.map (·.trial.reply) <+: replies journal :=
        ⟨replies rest, by simp [← begun, List.filterMap_cons, Event.reply?, Lap.replies_journal]⟩
      exact List.prefix_of_prefix_length_le ‹_› ‹_› (by simpa)
  have ⟨l, mem, h⟩ := List.mem_map.mp (this.subset answered)
  exact ⟨l.kind, l.cause, h ▸ (due l mem).failed, (due l mem).retried⟩

end Plan.Event.Persistent

structure Report.Follows {σ : Type} (host : Host σ) (policy : Policy)
    (journal : List (Plan.Event Number)) (report : Report) (start : Number)
    (laps : List (Lap Number)) (last : Round Number) : Prop where
  journal  : journal = .clock (.ok start) :: (Lap.journal 1 laps ++ last.events report.attempts)
  due      : ∀ l ∈ laps, Lap.Due policy start l
  measured : Span.sub last.reading start = .ok last.elapsed
  ends     : last.Ends host policy report.ending
  attempts : report.attempts = laps.length + 1
  elapsed  : report.elapsed = last.elapsed

variable {σ : Type} {host : Host σ} {timing : Timing σ} {observe : Observer σ} {fuel : Nat}
         {source : Value} {policy : Policy} {s : σ} {t : σ × List (Plan.Event Number)}
         {r : Except Fault (Option Report)}

theorem scheduled_of_ensureResult
    (h : ensureResultRecorded host timing observe fuel source policy (s, []) = (r, t)) :
    Plan.Event.Scheduled t.2 := by
  cases ensureResultRecorded_cases h
  case inl broken =>
    have ⟨_, _, written⟩ := broken
    cases written
    case inl h => exact ⟨[], .null, h ▸ List.nil_prefix, h ▸ List.nil_prefix⟩
    case inr h => exact ⟨[], .null, h ▸ ⟨_, rfl⟩, h ▸ List.nil_prefix⟩
  case inr ran =>
    have ⟨_, _, _, _, _, _, _, _, stops, _, h⟩ := ran
    exact h ▸ Plan.scheduled_of_rest stops

theorem persistent_of_ensureResult
    (h : ensureResultRecorded host timing observe fuel source policy (s, []) = (r, t)) :
    Plan.Event.Persistent policy t.2 := by
  cases ensureResultRecorded_cases h
  case inl broken =>
    obtain ⟨_, _, written⟩ := broken
    refine ⟨.zero, [], by simp, .inl rfl, ?_⟩
    cases written
    case inl h => simp [h]
    case inr h => simp [h, Plan.Event.call, Plan.Call.isAttempt]
  case inr ran =>
    obtain ⟨_, _, _, _, _, _, due, _, stops, _, h⟩ := ran
    exact h ▸ .of_rest due stops

theorem attempts_of_ensureResult_eq_none
    (h : ensureResultRecorded host timing observe fuel source policy (s, []) = (.ok none, t)) :
    Plan.Event.attempts t.2 = fuel := by
  cases ensureResultRecorded_cases h
  case inl broken =>
    obtain ⟨_, failed, _⟩ := broken
    cases failed
  case inr ran =>
    obtain ⟨_, _, _, _, _, _, _, used, stops, returned, written⟩ := ran
    cases stops <;> cases returned
    case unfinished =>
      simp [written, Lap.attempts_journal, Plan.Event.call, Plan.Call.isAttempt, used]

theorem follows_of_ensureResult {report : Report}
    (h : ensureResultRecorded host timing observe fuel source policy (s, []) =
      (.ok (some report), t)) :
    ∃ start laps last, report.Follows host policy t.2 start laps last := by
  have ⟨start, laps, last, _, _, due, finished, _, made, journal⟩ := ensureResultRecorded_eq_some h
  have attempts := congrArg Report.attempts made
  have elapsed  := congrArg Report.elapsed made
  exact ⟨start, laps, last, attempts ▸ journal, due, finished.ends.1, finished.ends.2, attempts,
    elapsed⟩

-- A wait keeps to the schedule, goes on only as long as it should, and is over when it returns.
theorem ensureResult_keeps_schedule (host : Host σ) (timing : Timing σ) (observe : Observer σ)
    (fuel : Nat) (source : Value) (policy : Policy) (s : σ) :
    ∃ journal : List (Plan.Event Number),
      ensureResultRecorded host timing observe fuel source policy (s, []) =
        ((ensureResult host timing observe fuel source policy s).1,
          ((ensureResult host timing observe fuel source policy s).2, journal)) ∧
      Plan.Event.Scheduled journal ∧
      Plan.Event.Persistent policy journal ∧
      (∀ report, (ensureResult host timing observe fuel source policy s).1 = .ok (some report) →
        ∃ start laps last, report.Follows host policy journal start laps last ∧
          journal.map Plan.Event.call =
            Plan.Call.schedule (laps.map Lap.answered) last.trial.reply) ∧
      ((ensureResult host timing observe fuel source policy s).1 = .ok none →
        Plan.Event.attempts journal = fuel) ∧
      (policy.retryOn = Policy.defaultRetryOn → ∀ before after, journal = before ++ after →
        0 < Plan.Event.attempts after → ∀ o, .outcome o ∈ Plan.Event.replies before →
          o.kind ≠ .terminal) ∧
      (∀ f, policy.poll = .custom f → ∀ n, policy.intervalFor host n = do
        let answer ← f.call host [.int n] []
        .of (do Policy.positive n (← answer.toFloat))) ∧
      (∀ src : Source, src.trial host = do
        return ⟨← Source.guardAttempt host (.source src)
          (fun e => Value.outcome (.terminal e .null)) (src.attempt host), none⟩) := by
  obtain ⟨journal, h⟩ := exists_journal host timing observe fuel source policy s
  refine ⟨journal, h, scheduled_of_ensureResult h, persistent_of_ensureResult h, ?returned,
    ?unfinished, ?retryable, ?asked, fun _ => rfl⟩
  case returned =>
    intro report returned
    rw [returned] at h
    have ⟨start, laps, last, follows⟩ := follows_of_ensureResult h
    have written : journal = _ := follows.journal
    refine ⟨start, laps, last, follows, ?_⟩
    rw [written, follows.attempts, Plan.schedule_of_finished]
  case unfinished =>
    intro unfinished
    rw [unfinished] at h
    exact attempts_of_ensureResult_eq_none h
  case retryable =>
    intro default before after split later o answered
    -- By default the only failures to retry are the retryable ones, and an answer with an attempt
    -- after it was one of those.
    obtain ⟨_, _, failed, retried⟩ :=
      (persistent_of_ensureResult h).retried split later answered
    rw [Policy.shouldRetry, default] at retried
    cases o <;> cases failed
    case retryable => simp [Outcome.kind]
    case terminal  => cases retried
  case asked =>
    intro f custom n
    simp [Policy.intervalFor, custom]

end BoundedWait
