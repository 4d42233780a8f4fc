import Mathlib.Algebra.Group.Int.Defs
import BoundedWait.Proofs.Wait.Schedule

namespace BoundedWait

namespace Detail

variable {lastCause attempts elapsed source maxWait : Value} {reason count on limit : String}

theorem ofFailure_of_shown (cause : lastCause.display = .ok reason)
    (attempted : attempts.display = .ok count) (shown : source.inspect = .ok on) :
    ofFailure lastCause attempts elapsed source .null =
      elapsed.toMilliseconds.map fun time => .failed lastCause attempts elapsed source (.text
        ("Failed to resolve " ++ on ++ " after " ++ count ++ " attempt(s) in " ++ time ++ "s: " ++
          reason)) := by
  cases h : elapsed.toMilliseconds
  all_goals simp [ofFailure, Value.truth, cause, attempted, shown, h, bind, Except.bind, pure,
    Except.pure, Except.map]

theorem ofDeadline_of_shown (cause : lastCause.display = .ok reason)
    (attempted : attempts.display = .ok count) (shown : source.inspect = .ok on)
    (limited : maxWait.display = .ok limit) :
    ofDeadline lastCause attempts elapsed source maxWait =
      elapsed.toMilliseconds.map fun time => .expired lastCause attempts elapsed source maxWait
        ("Gave up waiting for " ++ on ++ " after " ++ time ++ "s (max wait " ++ limit ++ "s, " ++
          count ++ " attempt(s)): " ++ reason) := by
  cases h : elapsed.toMilliseconds
  all_goals simp [ofDeadline, cause, attempted, shown, limited, h, bind, Except.bind, pure,
    Except.pure, Except.map]

end Detail

namespace Report

structure Tells (r : Report) (f last : Fault) : Prop where
  cause    : f.cause = some last
  failed   : f.isA BuiltinClass.ensureFailed = true
  deadline : f.isA BuiltinClass.deadlineExceeded = r.deadlineExceeded
  detail   : ∃ message, f.detail =
    if r.deadlineExceeded then
      .expired (.fault last) (.int r.attempts) (.number r.elapsed) (.source r.source)
        (.number r.maxWait) message
    else
      .failed (.fault last) (.int r.attempts) (.number r.elapsed) (.source r.source)
        (.text message)

structure Explained (r : Report) (last : Fault) : Prop where
  cause    : ∃ reason, (Value.fault last).display = .ok reason
  attempts : ∃ count, (Value.int r.attempts).display = .ok count
  source   : ∃ shown, (Value.source r.source).inspect = .ok shown
  limit    : r.deadlineExceeded = true → ∃ limit, (Value.number r.maxWait).display = .ok limit

theorem unwrap_refused (last : Fault) (n : Nat) (elapsed maxWait : Number) (source : Source) :
    unwrap ⟨.refused last, n, elapsed, source, maxWait⟩ =
      (Detail.ofFailure (.fault last) (.int n) (.number elapsed) (.source source) .null).bind
        fun detail => .error (.mk 0 BuiltinClass.ensureFailed detail (some last)) := by
  simp only [unwrap, lastCause?, error]
  cases Detail.ofFailure (.fault last) (.int n) (.number elapsed) (.source source) .null <;> rfl

theorem unwrap_expired (last : Fault) (n : Nat) (elapsed maxWait : Number) (source : Source) :
    unwrap ⟨.expired last, n, elapsed, source, maxWait⟩ =
      (Detail.ofDeadline (.fault last) (.int n) (.number elapsed) (.source source)
        (.number maxWait)).bind
        fun detail => .error (.mk 0 BuiltinClass.deadlineExceeded detail (some last)) := by
  simp only [unwrap, lastCause?, error]
  cases Detail.ofDeadline (.fault last) (.int n) (.number elapsed) (.source source)
    (.number maxWait) <;> rfl

-- Whether there is a fault that tells of a failed wait depends on the time alone.
theorem unwrap_of_explained {r : Report} {last : Fault} (h : r.lastCause? = some last)
    (explained : r.Explained last) :
    (∀ {time}, (Value.number r.elapsed).toMilliseconds = .ok time →
      ∃ f, r.unwrap = .error f ∧ r.Tells f last) ∧
    (∀ {f}, (Value.number r.elapsed).toMilliseconds = .error f → r.unwrap = .error f) := by
  obtain ⟨⟨reason, cause⟩, ⟨count, attempts⟩, ⟨shown, source⟩, limit⟩ := explained
  rcases r with ⟨⟨_⟩ | ⟨c⟩ | ⟨c⟩, n, elapsed, src, maxWait⟩
  all_goals cases h
  case refused =>
    rw [unwrap_refused, Detail.ofFailure_of_shown cause attempts source]
    constructor
    case left =>
      intro time written
      rw [written]
      exact ⟨_, rfl, rfl, rfl, rfl, _, rfl⟩
    case right =>
      intro f unwritten
      rw [unwritten]
      rfl
  case expired =>
    obtain ⟨limit, limited⟩ := limit rfl
    rw [unwrap_expired, Detail.ofDeadline_of_shown cause attempts source limited]
    constructor
    case left =>
      intro time written
      rw [written]
      exact ⟨_, rfl, rfl, rfl, rfl, _, rfl⟩
    case right =>
      intro f unwritten
      rw [unwritten]
      rfl

end Report

variable {σ : Type} {host : Host σ} {timing : Timing σ} {observe : Observer σ} {fuel : Nat}
         {source : Value} {policy : Policy}

theorem Report.explained_of_givingUp {source : Source} {maxWait elapsed : Number} {n : Nat}
    {kind : OutcomeKind} {last : Fault} {line : LogEntry}
    (h : (Note.givingUp n elapsed kind last).entry source = .ok line) :
    Explained ⟨.refused last, n, elapsed, source, maxWait⟩ last := by
  simp only [Note.entry, Except.bind_eq_ok_iff] at h
  obtain ⟨_, shown, _, attempted, _, cause, _⟩ := h
  exact ⟨⟨_, cause⟩, ⟨_, attempted⟩, ⟨_, shown⟩, nofun⟩

theorem Report.explained_of_expired {source : Source} {maxWait elapsed : Number} {n : Nat}
    {last : Fault} {line : LogEntry}
    (h : (Note.expired n elapsed maxWait last).entry source = .ok line) :
    Explained ⟨.expired last, n, elapsed, source, maxWait⟩ last := by
  simp only [Note.entry, Except.bind_eq_ok_iff] at h
  obtain ⟨_, limited, _, shown, _, attempted, _, cause, _⟩ := h
  exact ⟨⟨_, cause⟩, ⟨_, attempted⟩, ⟨_, shown⟩, fun _ => ⟨_, limited⟩⟩

namespace Plan

variable {src : Source} {attempt : Act σ Trial} {start : Number} {n : Nat} {s s' : σ}

theorem entry_of_report {m : Note Number}
    (h : (planFor host timing observe policy src attempt).report m s = (.ok (), s')) :
    ∃ line, m.entry src = .ok line := by
  obtain ⟨line, _, made, _⟩ := Act.bind_eq_ok_iff.mp h
  exact ⟨line, congrArg Prod.fst made⟩

theorem Finished.explained {r : Round Number} {e : Ending} {last : Fault}
    (h : (planFor host timing observe policy src attempt).Finished start n r e s s')
    (failed : (Report.mk e n r.elapsed src policy.maxWait).lastCause? = some last) :
    (Report.mk e n r.elapsed src policy.maxWait).Explained last := by
  obtain ⟨_, closes⟩ := h
  cases closes
  case resolved => cases failed
  case refused _ reported =>
    cases failed
    have ⟨_, made⟩ := entry_of_report reported
    exact Report.explained_of_givingUp made
  case expired _ _ _ reported =>
    cases failed
    have ⟨_, made⟩ := entry_of_report reported
    exact Report.explained_of_expired made

end Plan

namespace Report

structure Reflects (policy : Policy) (reply : Value) (r : Report) : Prop where
  succeeded : r.succeeded = true ↔ reply.failure? = none
  success   : reply.failure? = none → r.lastCause? = none ∧ r.deadlineExceeded = false ∧
    ∀ o, reply = .outcome o → r.value = o.value
  failure   : ∀ kind cause, reply.failure? = some (kind, cause) → r.lastCause? = some cause ∧
    r.value = .null ∧ r.deadlineExceeded = policy.shouldRetry kind

theorem reflects_of_ends {r : Report} {last : Round Number} (h : last.Ends host policy r.ending) :
    r.Reflects policy last.trial.reply := by
  rcases r with ⟨e, n, elapsed, src, maxWait⟩
  cases h
  case resolved v _ _ passed value =>
    refine ⟨by simp [Report.succeeded, passed], fun _ => ⟨rfl, rfl, ?_⟩, by simp [passed]⟩
    intro o answered
    rw [answered] at value
    cases value
    rfl
  case refused failed final =>
    refine ⟨by simp [Report.succeeded, failed], by simp [failed], ?_⟩
    intro kind cause h
    cases failed.symm.trans h
    exact ⟨rfl, rfl, final.symm⟩
  case expired failed retried _ _ =>
    refine ⟨by simp [Report.succeeded, failed], by simp [failed], ?_⟩
    intro kind cause h
    cases failed.symm.trans h
    exact ⟨rfl, rfl, retried.symm⟩

end Report

variable {s s' : σ} {report : Report}

theorem ensure_of_report
    (h : ensureResult host timing observe fuel source policy s = (.ok (some report), s')) :
    ensure host timing observe fuel source policy s = (report.unwrap.map some, s') := by
  rw [ensure, Act.bind_apply, h]
  cases unwrapped : report.unwrap <;> simp [unwrapped, Except.map]

-- The last attempt of a wait decides what the wait reports and how the same wait ends when its
-- report is unwrapped.
theorem ensure_verdict
    (h : ensureResult host timing observe fuel source policy s = (.ok (some report), s')) :
    ∃ journal reply,
      ensureResultRecorded host timing observe fuel source policy (s, []) =
        (.ok (some report), (s', journal)) ∧
      (Plan.Event.replies journal).getLast? = some reply ∧
      report.Reflects policy reply ∧
      report.attempts = Plan.Event.attempts journal ∧
      (∃ start reading, (Plan.Event.readings journal).head? = some start ∧
        (Plan.Event.readings journal).getLast? = some reading ∧
        Span.sub reading start = .ok report.elapsed) ∧
      Source.ofValue source = .ok report.source ∧
      report.maxWait = policy.maxWait ∧
      match report.lastCause?, (Value.number report.elapsed).toMilliseconds with
      | none, _            =>
        ensure host timing observe fuel source policy s = (.ok (some report.value), s')
      | some cause, .ok _  => ∃ f,
        ensure host timing observe fuel source policy s = (.error f, s') ∧ report.Tells f cause
      | some _, .error f   =>
        ensure host timing observe fuel source policy s = (.error f, s') := by
  obtain ⟨journal, recorded⟩ := exists_journal host timing observe fuel source policy s
  rw [h] at recorded
  obtain ⟨start, laps, last, _, _, _, finished, given, made, written⟩ :=
    ensureResultRecorded_eq_some recorded
  have attempts : report.attempts = laps.length + 1        := congrArg Report.attempts made
  have elapsed  : report.elapsed = last.elapsed            := congrArg Report.elapsed made
  have limit    : report.maxWait = policy.maxWait          := congrArg Report.maxWait made
  change journal = _ at written
  -- The last round of the wait is the one that its report was made from.
  refine ⟨journal, last.trial.reply, recorded, ?answered, Report.reflects_of_ends finished.ends.2,
    ?attempts, ⟨start, last.reading, ?first, ?last, elapsed ▸ finished.ends.1⟩, given, limit,
    ?ended⟩
  case answered => simp [written, Round.events, List.filterMap_cons, Plan.Event.reply?]
  case attempts =>
    simp [written, attempts, Lap.attempts_journal, Round.events, Plan.Event.call,
      Plan.Call.isAttempt]
  case first => simp [written, Plan.Event.reading?]
  case last =>
    have : Plan.Event.readings journal =
        start :: Plan.Event.readings (Lap.journal 1 laps) ++ [last.reading] := by
      simp [written, Round.events, List.filterMap_cons, Plan.Event.reading?]
    rw [this, List.getLast?_concat]
  case ended =>
    have ended := ensure_of_report h
    have explained {last} (failed : report.lastCause? = some last) : report.Explained last := by
      rw [made] at failed ⊢
      exact finished.explained failed
    split
    case h_1 succeeded =>
      rw [ended, Report.unwrap, succeeded]
      rfl
    case h_2 cause _ failed time =>
      obtain ⟨f, unwrapped, tells⟩ := (Report.unwrap_of_explained failed (explained failed)).1 time
      exact ⟨f, by rw [ended, unwrapped]; rfl, tells⟩
    case h_3 _ f failed time =>
      have unwrapped := (Report.unwrap_of_explained failed (explained failed)).2 time
      rw [ended, unwrapped]
      rfl

-- A world in which nothing is ever there. Its state is what the clock has yet to tell.

def Fault.notYet : Fault :=
  temporarily "not yet" (.custom 0 (.ok "it"))

def Source.missing : Source :=
  custom 0 (.ok "it")

def Host.barren : Host (List Number) where
  call _ _ _ := .raise Misuse.nestedTooDeep.fault
  read _ _   := .raise Misuse.nestedTooDeep.fault
  attempt _  := pure (.outcome (.retryable Fault.notYet .null))
  log _      := pure ()
  depth      := 0

def Timing.told : Timing (List Number) where
  clock
    | []            => (.ok .zero, [])
    | n :: readings => (.ok n, readings)
  pause _ := pure ()

def Policy.brief : Policy :=
  ⟨.int 5, .seconds (.int 1), defaultRetryOn⟩

def Report.late (elapsed : Int) : Report :=
  ⟨.expired .notYet, 1, .int elapsed, .missing, .int 5⟩

theorem Report.explained_late (elapsed : Int) : (late elapsed).Explained .notYet where
  cause    := ⟨_, rfl⟩
  attempts := ⟨_, Value.display_int (i := 1) (by decide +kernel)⟩
  source   := ⟨_, rfl⟩
  limit _  := ⟨_, Value.display_int (i := 5) (by decide +kernel)⟩

theorem ensureResult_barren (elapsed : Int) (late : 5 ≤ elapsed) :
    ensureResult .barren .told .silent 1 (.source .missing) .brief [.int 0, .int elapsed] =
      (.ok (some (.late elapsed)), []) := by
  have limit : (Value.number (.int 5)).display = .ok _ := Value.display_int (by decide +kernel)
  have count : (Value.int (1 : Nat)).display = .ok _ := Value.display_int (by decide +kernel)
  have spent : Span.spent (Number.int (5 - elapsed)) = true :=
    (Number.le_int _ _).trans (decide_eq_true (by omega))
  have finished : (planFor .barren .told .silent .brief .missing
      (Source.missing.trial .barren)).Finished (.int 0) 1
      ⟨⟨.outcome (.retryable .notYet .null), none⟩, .int elapsed, .int elapsed⟩
      (.expired .notYet) [.int elapsed] [] := by
    refine ⟨⟨rfl, rfl, ?measured, rfl, rfl⟩, .expired rfl rfl spent ?reported⟩
    case measured =>
      simp [Span.sub, Number.sub, Number.combine, Number.integral?]
      rfl
    case reported =>
      simp only [planFor, Note.entry, Policy.brief, limit, count]
      rfl
  have waited := Plan.wait_of_finished (s := [.int 0, .int elapsed]) rfl .nil finished Nat.one_pos
  simp only [ensureResult, Source.ofValue, Act.bind_apply, Act.of_apply, waited]
  rfl

theorem ensure_verdict_late :
    ensureResult .barren .told .silent 1 (.source .missing) .brief [.int 0, .int 7] =
      (.ok (some (.late 7)), []) ∧
    ∃ f, ensure .barren .told .silent 1 (.source .missing) .brief [.int 0, .int 7] =
      (.error f, []) ∧ (Report.late 7).Tells f .notYet := by
  have late := ensureResult_barren 7 (by decide)
  have ⟨_, _, _, _, _, _, _, _, _, ended⟩ := ensure_verdict late
  exact ⟨late, ended⟩

def ages : Int :=
  10 ^ 155 * 10 ^ 154

theorem ensure_of_unwritten_elapsed :
    ensureResult .barren .told .silent 1 (.source .missing) .brief [.int 0, .int ages] =
      (.ok (some (.late ages)), []) ∧
    ensure .barren .told .silent 1 (.source .missing) .brief [.int 0, .int ages] =
      (.error (Misuse.arithmetic .tooLarge).fault, []) ∧
    (Misuse.arithmetic .tooLarge).fault.isA BuiltinClass.ensureFailed = false := by
  have late := ensureResult_barren ages (by decide +kernel)
  have unwritten : (Value.number (Report.late ages).elapsed).toMilliseconds =
      .error (Misuse.arithmetic .tooLarge).fault := by
    have : Binary64.ofInt ages = none := Option.isNone_iff_eq_none.mp (by decide +kernel)
    simp only [Report.late, Value.toMilliseconds, Number.toFloat, this]
    rfl
  have failed : (Report.late ages).lastCause? = some .notYet := rfl
  have unwrapped := (Report.unwrap_of_explained failed (Report.explained_late ages)).2 unwritten
  exact ⟨late, (ensure_of_report late).trans (by rw [unwrapped]; rfl), rfl⟩

end BoundedWait
