import BoundedWait.Proofs.Source.Sight
import BoundedWait.Proofs.Wait.Trace
import BoundedWait.Proofs.Wait.Verdict
import BoundedWait.Proofs.Wait.Watching

namespace BoundedWait

namespace Detail

variable {description lastCause attempts source lastValue : Value}
         {expected on seen reason count : String}

theorem ofUnmet_of_shown {hasValue : Value} (elapsed : Value)
    (described : description.display = .ok expected) (shown : source.inspect = .ok on)
    (observed : lastValueLine hasValue lastValue = .ok seen)
    (cause : lastCause.display = .ok reason) (attempted : attempts.display = .ok count) :
    ∃ message : String → String,
      ofUnmet description lastCause attempts elapsed hasValue lastValue source =
        elapsed.toMilliseconds.map fun time => .unmet description lastCause attempts elapsed
          hasValue lastValue source (message time) := by
  refine ⟨fun time => "\n".intercalate
    ["Expected " ++ expected, "  source:     " ++ on, seen,
      "  last cause: " ++ lastCause.typeName ++ ": " ++ reason, "  attempts:   " ++ count,
      "  elapsed:    " ++ time ++ "s"], ?_⟩
  cases written : elapsed.toMilliseconds
  all_goals simp [ofUnmet, unmetMessage, described, shown, observed, cause, attempted, written,
    bind, Except.bind, pure, Except.pure, Except.map]

theorem lastValueLine_of_shown {rejected : Option Value}
    (shown : ∀ v, rejected = some v → ∃ text, v.inspect = .ok text) :
    ∃ seen, lastValueLine (.bool rejected.isSome) (rejected.getD .null) = .ok seen := by
  cases rejected
  case none => exact ⟨_, lastValueLine_of_untrue _ rfl⟩
  case some v =>
    have ⟨text, shown⟩ := shown v rfl
    refine ⟨"  last value: " ++ text, ?_⟩
    rw [Option.isSome_some, lastValueLine_of_true _ rfl, Option.getD_some, shown]
    rfl

end Detail

def Ending.cause? : Ending → Option Fault
  | .resolved _ => none
  | .refused c  => some c
  | .expired c  => some c

theorem Report.lastCause?_ofFinish (source : Source) (policy : Policy) (finish : Finish Number) :
    (ofFinish source policy finish).lastCause? = finish.ending.cause? := by
  cases ending : finish.ending <;> simp [ofFinish, lastCause?, Ending.cause?, ending]

theorem Report.ending_of_succeeded {r : Report} (h : r.lastCause? = none) :
    r.ending = .resolved r.value := by
  cases ending : r.ending <;> simp_all [lastCause?, value]

structure Unmet (base : Source) (attempts : Nat) (elapsed : Number) (rejected : Option Value)
    (last f : Fault) : Prop where
  cause   : f.cause = some last
  ne      : f ≠ last
  unmet   : f.isA BuiltinClass.eventuallyAssertion = true
  other   : f.isA BuiltinClass.ensureFailed = false
  detail  : ∃ expected message, f.detail = .unmet (.text expected) (.fault last) (.int attempts)
    (.number elapsed) (.bool rejected.isSome) (rejected.getD .null) (.source base) message

variable {mark : Nat} {base : Source} {test : Value} {description : Option String} {policy : Policy}
         {finish : Finish Number} {trials : List Trial} {last : Fault}

theorem conclude_of_resolved {v : Value} (resolved : finish.ending = .resolved v) :
    conclude base test description finish trials = .ok v := by
  rw [conclude, resolved]

theorem conclude_of_cause (failed : finish.ending.cause? = some last) :
    conclude base test description finish trials = (do
      let fault ← unmetFault (.source base) test description last finish.attempts finish.elapsed
        (lastRejected? trials)
      throw (fault.raisedFrom last)) := by
  unfold conclude
  cases ending : finish.ending <;> rw [ending] at failed <;> cases failed <;> rfl

theorem exists_of_inspect_matching {shown : String}
    (h : (Value.source (.matching mark base test description)).inspect = .ok shown) :
    ∃ on expected, (Value.source base).inspect = .ok on ∧
      describeMatch test description = .ok expected := by
  simp only [Value.inspect, Value.write, Source.inspect_matching, Except.bind_eq_ok_iff] at h ⊢
  obtain ⟨on, based, expected, described, _⟩ := h
  exact ⟨on, expected, based, described⟩

theorem unmetFault_of_explained {rejected : Option Value}
    (explained : (Report.ofFinish (.matching mark base test description) policy finish).Explained
      last)
    (shown : ∀ v, rejected = some v → ∃ text, v.inspect = .ok text) :
    ∃ expected, ∃ message : String → String,
      unmetFault (.source base) test description last finish.attempts finish.elapsed rejected =
        (Value.number finish.elapsed).toMilliseconds.map fun time =>
          .mk 0 BuiltinClass.eventuallyAssertion (.unmet (.text expected) (.fault last)
            (.int finish.attempts) (.number finish.elapsed) (.bool rejected.isSome)
            (rejected.getD .null) (.source base) (message time)) none := by
  obtain ⟨⟨reason, cause⟩, ⟨count, attempts⟩, ⟨_, source⟩, _⟩ := explained
  have ⟨on, expected, on_shown, described⟩ := exists_of_inspect_matching source
  have ⟨seen, observed⟩ := Detail.lastValueLine_of_shown shown
  change (Value.int finish.attempts).display = _ at attempts
  have ⟨message, made⟩ := Detail.ofUnmet_of_shown (.number finish.elapsed)
    (Value.display_text expected) on_shown observed cause attempts
  refine ⟨expected, message, ?_⟩
  simp only [unmetFault, described, bind, Except.bind, made]
  cases (Value.number finish.elapsed).toMilliseconds <;> rfl

-- Whether there is a fault that tells of a failed assertion depends on the time alone.
theorem conclude_of_explained (trials : List Trial) (failed : finish.ending.cause? = some last)
    (explained : (Report.ofFinish (.matching mark base test description) policy finish).Explained
      last)
    (shown : ∀ v, lastRejected? trials = some v → ∃ text, v.inspect = .ok text) :
    (∀ {time}, (Value.number finish.elapsed).toMilliseconds = .ok time →
      ∃ f, conclude base test description finish trials = .error f ∧
        Unmet base finish.attempts finish.elapsed (lastRejected? trials) last f) ∧
    (∀ {f}, (Value.number finish.elapsed).toMilliseconds = .error f →
      conclude base test description finish trials = .error f) := by
  have ⟨expected, message, made⟩ := unmetFault_of_explained explained shown
  rw [conclude_of_cause failed, made]
  constructor
  case left =>
    intro time written
    rw [written]
    exact ⟨_, rfl, rfl, Fault.raisedFrom_ne _ _, rfl, rfl, expected, message time, rfl⟩
  case right =>
    intro f unwritten
    rw [unwritten]
    rfl

variable {σ : Type} {host : Host σ} {timing : Timing σ} {observe : Observer σ} {fuel : Nat}
         {source : Value}

def assertEventuallyRecorded (host : Host σ) (timing : Timing σ) (observe : Observer σ)
    (fuel mark : Nat) (source test : Value) (description : Option String) (policy : Policy) :
    Act (σ × List (Plan.Event Number)) (Option Value) := do
  let base ← .of (Source.ofValue source)
  let asserted := Source.matching mark base test description
  match ← (assertionPlan host timing observe policy mark asserted).recorded.wait fuel with
  | some (finish, trials) =>
    return some (← .of (conclude base test description finish trials))
  | none => return none

theorem mirrors_assertEventually :
    (assertEventuallyRecorded host timing observe fuel mark source test description policy).Mirrors
      (assertEventually host timing observe fuel mark source test description policy) := by
  refine .bind (.of_of _) fun _ => .bind Plan.mirrors_wait fun ended => ?_
  cases ended
  case none => exact .of_pure _
  case some => exact .bind (.of_of _) fun _ => .of_pure _

def assertedStarts (host : Host σ) (timing : Timing σ) (observe : Observer σ) (fuel mark : Nat)
    (base : Source) (test : Value) (description : Option String) (policy : Policy) (s : σ) :
    List σ :=
  let asserted := Source.matching mark base test description
  let waited := (assertionPlan host timing observe policy mark asserted).traced.wait fuel (s, [])
  Instant.starts waited.2.2

-- An assertion is a wait for its match that is watched.
theorem assertionPlan_eq {asserted : Source} :
    assertionPlan host timing observe policy mark asserted =
      (planFor host timing observe policy asserted (asserted.trial host)).watchedBy
        (Value.rejectedBy? mark) (observe.watching host) := by
  simp [assertionPlan, planFor, Plan.watchedBy, Source.assertedTrial, Source.trial, Trial.examined]

theorem Observer.watching_outcome (n : Nat) (o : Outcome) :
    observe.watching host n (.outcome o) = observe n (.outcome o) := by
  simp [watching, Host.causeOf]

variable {s s' : σ}

theorem resolves_of_assertion
    (h : (assertionPlan host timing observe policy mark
      (.matching mark base test description)).wait fuel s = (.ok (some (finish, trials)), s')) :
    List.Forall₂
      (fun x t => (∃ x', (Source.matching mark base test description).resolve host x =
        (.ok t.reply, x')) ∧ t.rejected = t.reply.rejectedBy? mark)
      (assertedStarts host timing observe fuel mark base test description policy s)
      trials.reverse := by
  have traced := Plan.mirrors_traced.wait.result_eq (b := (assertionPlan host timing observe policy
    mark (.matching mark base test description)).traced.wait fuel) s []
  rw [h] at traced
  refine (Plan.starts_of_wait traced).imp ?_
  rintro x t ⟨x', made⟩
  obtain ⟨reply, _, resolved, made⟩ := Act.bind_eq_ok_iff.mp made
  cases made
  exact ⟨⟨_, resolved⟩, rfl⟩

theorem answers_of_assertion
    (h : (assertionPlan host timing observe policy mark
      (.matching mark base test description)).wait fuel s = (.ok (some (finish, trials)), s')) :
    List.Forall₂
      (fun x t => Source.Answers host mark base test description x (base.sightAt host test x)
        t.reply ∧ t.rejected = t.reply.rejectedBy? mark)
      (assertedStarts host timing observe fuel mark base test description policy s)
      trials.reverse :=
  (resolves_of_assertion h).imp fun _ _ ⟨⟨_, resolved⟩, noted⟩ =>
    ⟨Source.answers_of_resolve resolved, noted⟩

abbrev Seen (sights : List (Option Sight)) (trials : List Trial) : Prop :=
  List.Forall₂ (fun seen t => ∀ o, t.reply = .outcome o → ∀ v,
    seen = some (Sight.accepted v) ↔ o = .success v) sights trials

theorem seen_of_assertion
    (h : (assertionPlan host timing observe policy mark
      (.matching mark base test description)).wait fuel s = (.ok (some (finish, trials)), s')) :
    Seen ((assertedStarts host timing observe fuel mark base test description policy s).map
      (base.sightAt host test)) trials.reverse := by
  -- The base is looked at in the state in which the attempt at the match began.
  refine List.forall₂_map_left_iff.mpr ((answers_of_assertion h).imp ?_)
  intro x t ⟨answers, _⟩ o answered v
  rw [answered] at answers
  exact answers.accepted_iff v

theorem Seen.accepted_last {sights : List (Option Sight)} {earlier : List Trial} {t : Trial}
    {v : Value} (h : Seen sights (earlier ++ [t])) (success : t.reply = .outcome (.success v))
    (failures : ∀ t ∈ earlier, ∃ o, t.reply = .outcome o ∧ o.isSuccess = false) :
    ∃ before, sights = before ++ [some (.accepted v)] ∧
      ∀ seen ∈ before, ∀ w, seen ≠ some (.accepted w) := by
  induction earlier generalizing sights
  case nil =>
    obtain _ | ⟨seen, ⟨⟩⟩ := h
    exact ⟨[], by rw [(seen _ success v).mpr rfl]; rfl, by simp⟩
  case cons t' earlier ih =>
    obtain _ | ⟨seen, rest⟩ := h
    have ⟨⟨o, answered, failed⟩, failures⟩ := List.forall_mem_cons.mp failures
    obtain ⟨before, rfl, unaccepted⟩ := ih rest failures
    refine ⟨_ :: before, rfl, List.forall_mem_cons.mpr ⟨fun w accepted => ?_, unaccepted⟩⟩
    rw [(seen o answered w).mp accepted] at failed
    cases failed

def concluded (base : Source) (test : Value) (description : Option String) :
    Except Fault (Option (Finish Number × List Trial)) → Except Fault (Option Value)
  | .error f                    => .error f
  | .ok none                    => .ok none
  | .ok (some (finish, trials)) => (conclude base test description finish trials).map some

theorem concluded_of_wait {σ : Type} {wait : Act σ (Option (Finish Number × List Trial))}
    {s s' : σ} {w : Except Fault (Option (Finish Number × List Trial))}
    (h : wait s = (w, s')) :
    (do match ← wait with
        | some (finish, trials) =>
          return some (← .of (conclude base test description finish trials))
        | none => return none : Act σ (Option Value)) s =
      (concluded base test description w, s') := by
  rw [Act.bind_apply, h]
  rcases w with f | _ | ⟨finish, trials⟩
  case error   => rfl
  case ok.none => rfl
  case ok.some =>
    cases concludes : conclude base test description finish trials
    all_goals simp [concluded, concludes, Except.map]

theorem assertEventually_of_wait {w : Except Fault (Option (Finish Number × List Trial))}
    (given : Source.ofValue source = .ok base)
    (h : (assertionPlan host timing observe policy mark
      (.matching mark base test description)).wait fuel s = (w, s')) :
    assertEventually host timing observe fuel mark source test description policy s =
      (concluded base test description w, s') := by
  rw [assertEventually, given]
  exact concluded_of_wait h

theorem assertEventuallyRecorded_of_wait {t : σ × List (Plan.Event Number)}
    {w : Except Fault (Option (Finish Number × List Trial))}
    (given : Source.ofValue source = .ok base)
    (h : (assertionPlan host timing observe policy mark
      (.matching mark base test description)).recorded.wait fuel (s, []) = (w, t)) :
    assertEventuallyRecorded host timing observe fuel mark source test description policy (s, []) =
      (concluded base test description w, t) := by
  rw [assertEventuallyRecorded, given]
  exact concluded_of_wait h

theorem assertionPlan_of_ensureResult {r : Except Fault (Option Report)}
    {journal : List (Plan.Event Number)}
    (waited : ensureResultRecorded host timing observe fuel
      (.source (.matching mark base test description)) policy (s, []) = (r, (s', journal)))
    (answered : ∀ reply ∈ Plan.Event.shown journal, ∃ o, reply = .outcome o) :
    ∃ w,
      (planFor host timing observe policy (.matching mark base test description)
        ((Source.matching mark base test description).trial host)).recorded.wait fuel (s, []) =
          (w, (s', journal)) ∧
      (assertionPlan host timing observe policy mark
        (.matching mark base test description)).recorded.wait fuel (s, []) =
          (w.map (Plan.ended (Value.rejectedBy? mark)),
            (s', journal.map (Plan.Event.examined (Value.rejectedBy? mark)))) ∧
      r = w.map (Option.map fun x =>
        Report.ofFinish (.matching mark base test description) policy x.1) := by
  rw [ensureResultRecorded, Act.bind_apply] at waited
  simp only [Source.ofValue, Act.of_apply, Act.bind_apply] at waited
  rcases ran : (planFor host timing observe policy (.matching mark base test description)
    ((Source.matching mark base test description).trial host)).recorded.wait fuel (s, [])
    with ⟨w, t⟩
  have ended : r = w.map (Option.map fun x =>
      Report.ofFinish (.matching mark base test description) policy x.1) ∧ t = (s', journal) := by
    cases w <;> simp only [ran] at waited <;> cases waited <;> exact ⟨rfl, rfl⟩
  obtain ⟨rfl, rfl⟩ := ended
  refine ⟨w, rfl, ?_, rfl⟩
  rw [assertionPlan_eq]
  exact Plan.wait_watchedBy Observer.watching_outcome ran answered

-- What a wait for a source tells of its trials: all but the last one have failed.
structure Tried (host : Host σ) (policy : Policy) (src : Source) (finish : Finish Number)
    (last : Trial) (earlier : List Trial) : Prop where
  attempts  : finish.attempts = earlier.length + 1
  failures  : ∀ t ∈ earlier, t.reply.failure? ≠ none
  ends      : ∃ r : Round Number, r.trial = last ∧ r.Ends host policy finish.ending
  explained : ∀ {cause}, finish.ending.cause? = some cause →
    (Report.ofFinish src policy finish).Explained cause

theorem tried_of_wait {src : Source} {attempt : Act σ Trial}
    (h : (planFor host timing observe policy src attempt).wait fuel s =
      (.ok (some (finish, trials)), s')) :
    ∃ last earlier, trials = last :: earlier ∧ Tried host policy src finish last earlier := by
  have ⟨start, _, laps, _, last, _, made, finished, ended, counted⟩ := Plan.wait_eq_some h
  refine ⟨_, _, counted, ?attempts, ?failures, ⟨last, rfl, finished.ends.2⟩, ?explained⟩
  case attempts => simpa [Plan.trialsOf] using congrArg Finish.attempts ended
  case failures =>
    intro t mem
    obtain ⟨l, lap, rfl⟩ : ∃ l ∈ laps, l.trial = t := by simpa [Plan.trialsOf] using mem
    simp [(made.due l lap).failed]
  case explained =>
    intro cause failed
    rw [ended] at failed ⊢
    refine finished.explained ?_
    cases ending : finish.ending <;> rw [ending] at failed <;> exact failed

theorem Tried.reply_of_resolved {src : Source} {last : Trial} {earlier : List Trial} {v : Value}
    (h : Tried host policy src finish last earlier) (resolved : finish.ending = .resolved v)
    (answered : ∃ o, last.reply = .outcome o) : last.reply = .outcome (.success v) := by
  obtain ⟨r, rfl, ends⟩ := h.ends
  obtain ⟨o, outcome⟩ := answered
  rw [resolved] at ends
  obtain @⟨_, _, _, passed, value⟩ := ends
  rw [outcome] at passed value ⊢
  have success := Value.failure?_outcome.mp passed
  cases o
  case success => cases value; rfl
  all_goals cases success

theorem Tried.accepted_last {src : Source} {last : Trial} {earlier : List Trial} {v : Value}
    {examine : Value → Option Value} {sights : List (Option Sight)}
    (h : Tried host policy src finish last earlier) (resolved : finish.ending = .resolved v)
    (answered : ∀ t ∈ last :: earlier, ∃ o, t.reply = .outcome o)
    (seen : Seen sights ((last :: earlier).map (Trial.examined examine)).reverse) :
    ∃ before, sights = before ++ [some (.accepted v)] ∧
      ∀ seen ∈ before, ∀ w, seen ≠ some (.accepted w) := by
  have ⟨outcome, outcomes⟩ := List.forall_mem_cons.mp answered
  rw [List.map_cons, List.reverse_cons] at seen
  -- Trials are kept with the latest one first, sights with the earliest one.
  refine seen.accepted_last (h.reply_of_resolved resolved outcome) fun t examined => ?_
  obtain ⟨t, mem, rfl⟩ : ∃ t' ∈ earlier, t'.examined examine = t := by simpa using examined
  obtain ⟨o, answer⟩ := outcomes t mem
  have failed := h.failures t mem
  rw [answer, ne_eq, Value.failure?_outcome, Bool.not_eq_true] at failed
  exact ⟨o, answer, failed⟩

-- An assertion asks for the same things as a wait for its match, and ends as that wait does: with
-- the first value that the test holds for, or with a fault that tells of the failed wait.
theorem assertEventually_follows {r : Except Fault (Option Report)}
    {journal : List (Plan.Event Number)} (given : Source.ofValue source = .ok base)
    (waited : ensureResultRecorded host timing observe fuel
      (.source (.matching mark base test description)) policy (s, []) = (r, (s', journal)))
    (answered : ∀ reply ∈ Plan.Event.shown journal, ∃ o, reply = .outcome o)
    (shown : ∀ reply ∈ Plan.Event.shown journal, ∀ v, reply.rejectedBy? mark = some v →
      ∃ text, v.inspect = .ok text) :
    ∃ ended,
      assertEventuallyRecorded host timing observe fuel mark source test description policy
        (s, []) = (ended, (s', journal.map (Plan.Event.examined (Value.rejectedBy? mark)))) ∧
      assertEventually host timing observe fuel mark source test description policy s =
        (ended, s') ∧
      match r with
      | .error f          => ended = .error f
      | .ok none          => ended = .ok none
      | .ok (some report) =>
        let sights := (assertedStarts host timing observe fuel mark base test description policy
          s).map (base.sightAt host test)
        sights.length = report.attempts ∧
          match report.lastCause?, (Value.number report.elapsed).toMilliseconds with
          | none, _          => ended = .ok (some report.value) ∧
            ∃ before, sights = before ++ [some (.accepted report.value)] ∧
              ∀ seen ∈ before, ∀ v, seen ≠ some (.accepted v)
          | some last, .ok _ => ∃ f rejected, ended = .error f ∧
            Unmet base report.attempts report.elapsed rejected last f
          | some _, .error f => ended = .error f := by
  obtain ⟨w, ran, watched, rfl⟩ := assertionPlan_of_ensureResult waited answered
  have recorded := assertEventuallyRecorded_of_wait given watched
  refine ⟨_, recorded, mirrors_assertEventually.forget recorded, ?_⟩
  rcases w with f | _ | ⟨finish, trials⟩
  case error   => rfl
  case ok.none => rfl
  case ok.some =>
    -- The trials are told from both sides. What is seen of the base is told by the watched wait,
    -- and why the attempts failed by the plain one.
    have seen := seen_of_assertion (Plan.mirrors_wait.forget watched)
    have told := Plan.shown_of_wait ran
    obtain ⟨last, earlier, rfl, tried⟩ := tried_of_wait (Plan.mirrors_wait.forget ran)
    have shows (t : Trial) (mem : t ∈ last :: earlier) : t.reply ∈ Plan.Event.shown journal := by
      rw [told]
      exact List.mem_map_of_mem (List.mem_reverse.mpr mem)
    -- The value that the fault tells of was rejected at one of the trials, so that it can be shown.
    have explains {cause} (failed : finish.ending.cause? = some cause) :=
      conclude_of_explained ((last :: earlier).map (Trial.examined (Value.rejectedBy? mark)))
        failed (tried.explained failed) fun v rejected => by
          obtain ⟨_, examined, rejected⟩ := List.exists_of_findSome?_eq_some rejected
          obtain ⟨t, mem, rfl⟩ := List.mem_map.mp examined
          exact shown t.reply (shows t mem) v rejected
    refine ⟨?attempts, ?_⟩
    case attempts =>
      rw [seen.length_eq]
      simp [tried.attempts, Report.ofFinish]
    split
    case h_1 succeeded =>
      have resolved := Report.ending_of_succeeded succeeded
      exact ⟨congrArg (Except.map some) (conclude_of_resolved resolved),
        tried.accepted_last resolved (fun t mem => answered _ (shows t mem)) seen⟩
    case h_2 cause _ failed time =>
      rw [Report.lastCause?_ofFinish] at failed
      have ⟨f, concludes, unmet⟩ := (explains failed).1 time
      exact ⟨f, _, congrArg (Except.map some) concludes, unmet⟩
    case h_3 f failed time =>
      rw [Report.lastCause?_ofFinish] at failed
      exact congrArg (Except.map some) ((explains failed).2 time)

-- A world of which it is written down what the clock tells and what its sources answer. An object
-- in it claims to be a success, but it has no cause.

def Host.scripted : Host (List Number × List Value) where
  call _ _ _ := .raise Misuse.nestedTooDeep.fault
  read
    | _, "is_success" => pure (.bool true)
    | _, "value"      => pure (.bool true)
    | _, name         => .raise (Misuse.noAttribute "Lookalike" name).fault
  attempt _
    | (readings, [])                => (.ok (.outcome (.retryable .notYet .null)), (readings, []))
    | (readings, answer :: answers) => (.ok answer, (readings, answers))
  log _      := pure ()
  depth      := 0

def Timing.scripted : Timing (List Number × List Value) where
  clock
    | ([], answers)            => (.ok .zero, ([], answers))
    | (n :: readings, answers) => (.ok n, (readings, answers))
  pause _ := pure ()

def Value.lookalike : Value :=
  .object (.plain 0 "Lookalike" (.ok "<Lookalike>"))

def Predicate.confirmed : Predicate :=
  .mk 0 (.equalTo (.bool true)) "a value equal to True"

def waitConfirmed (observe : Observer (List Number × List Value)) (readings : List Number)
    (answers : List Value) :
    Except Fault (Option Report) × (List Number × List Value) × List (Plan.Event Number) :=
  ensureResultRecorded .scripted .scripted observe 3
    (.source (.matching 1 .missing (.predicate .confirmed) none)) .brief ((readings, answers), [])

def assertConfirmed (observe : Observer (List Number × List Value)) (readings : List Number)
    (answers : List Value) : Except Fault (Option Value) × List Number × List Value :=
  assertEventually .scripted .scripted observe 3 1 (.source .missing) (.predicate .confirmed) none
    .brief (readings, answers)

def ticks : List Number :=
  [.int 0, .int 1, .int 2]

def confirmedLate : List Value :=
  [.outcome (.success .null), .outcome (.success (.bool true))]

theorem assertEventually_follows_confirmedLate : ∃ report s' journal,
    waitConfirmed .silent ticks confirmedLate = (.ok (some report), (s', journal)) ∧
      report.attempts = 2 ∧
      assertConfirmed .silent ticks confirmedLate = (.ok (some report.value), s') := by
  have answered : ∀ reply ∈ Plan.Event.shown (waitConfirmed .silent ticks confirmedLate).2.2,
      ∃ o, reply = .outcome o := by
    decide +kernel
  have shown : ∀ reply ∈ Plan.Event.shown (waitConfirmed .silent ticks confirmedLate).2.2,
      ∀ v ∈ reply.rejectedBy? 1, ∃ text, v.inspect = .ok text := by
    decide +kernel
  have ended : ∃ x, (waitConfirmed .silent ticks confirmedLate).1 = .ok x ∧
      ∃ report ∈ x, report.attempts = 2 ∧ report.lastCause? = none := by
    decide +kernel
  have given : Source.ofValue (.source .missing) = .ok .missing := rfl
  rcases ran : waitConfirmed .silent ticks confirmedLate with ⟨r, s', journal⟩
  rw [ran] at answered shown ended
  obtain ⟨_, rfl, report, rfl, attempts, succeeded⟩ := ended
  have ⟨_, _, asserted, _, ended⟩ := assertEventually_follows given ran answered shown
  rw [succeeded] at ended
  obtain ⟨rfl, _⟩ := ended
  exact ⟨report, s', journal, rfl, attempts, asserted⟩

theorem assertEventually_strays :
    (∃ x, (waitConfirmed .silent [.int 0, .int ages] []).1 = .ok x ∧
      ∃ report ∈ x, report.succeeded = false) ∧
    (∃ f, (assertConfirmed .silent [.int 0, .int ages] []).1 = .error f ∧
      f.isA BuiltinClass.overflowError = true ∧
      f.isA BuiltinClass.eventuallyAssertion = false) ∧
    (∃ x, (waitConfirmed .silent [.int 0, .int 1] [.lookalike]).1 = .ok x ∧
      ∃ report ∈ x, report.succeeded = true) ∧
    (∃ f, (assertConfirmed .silent [.int 0, .int 1] [.lookalike]).1 = .error f ∧
      f.isA BuiltinClass.attributeError = true ∧
      f.isA BuiltinClass.eventuallyAssertion = false) := by
  decide +kernel

end BoundedWait
