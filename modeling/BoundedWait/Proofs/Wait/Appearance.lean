import BoundedWait.Proofs.Wait.Rejection

namespace BoundedWait

variable {σ : Type}

def Host.valueIn? (host : Host σ) (reply : Value) : Act σ (Option Value) := do
  if !(← host.succeeded reply) then return none
  return some (← host.valueOf reply)

namespace Source

def resolvedAt (host : Host σ) (base : Source) (s : σ) : Option Value :=
  match ((do host.valueIn? (← base.attempt host)) : Act σ (Option Value)) s with
  | (.ok found, _) => found
  | (.error _, _)  => none

theorem sightOf_eq (host : Host σ) (test reply : Value) :
    sightOf host test reply = (do
      match ← host.valueIn? reply with
      | none   => return none
      | some v => return some ⟨v, ← (test.passes host v).caught⟩) := by
  simp only [sightOf, Host.valueIn?, bind_assoc]
  congr 1
  funext succeeded
  cases succeeded <;> simp

variable {host : Host σ} {mark : Nat} {base : Source} {test reply : Value}
         {description : Option String} {s s' : σ}

theorem resolvedAt_eq_of_resolve
    (h : (matching mark base test description).resolve host s = (.ok reply, s')) :
    base.resolvedAt host s = (base.sightAt host test s).map Sight.value := by
  rcases based : base.attempt host s with ⟨f | given, s₁⟩
  case error => simp [resolvedAt, sightAt, based]
  case ok =>
    rcases found : host.valueIn? given s₁ with ⟨f | _ | v, s₂⟩
    case error   => simp [resolvedAt, sightAt, sightOf_eq, based, found]
    case ok.none => simp [resolvedAt, sightAt, sightOf_eq, based, found]
    case ok.some =>
      rcases tested : (test.passes host v).caught s₂ with ⟨f | result, s₃⟩
      case ok => simp [resolvedAt, sightAt, sightOf_eq, based, found, tested]
      case error =>
        -- What ends the test for good ends the attempt as well, and then there is no answer.
        obtain ⟨_, fatal⟩ := Act.caught_eq_error_iff.mp tested
        have escaped : (matching mark base test description).attempt host s = (.error f, s₃) := by
          simp [attempt_matching, matchReply_eq, sightOf_eq, based, found, tested]
        cases h.symm.trans (resolve_of_not_isException escaped fatal)

end Source

theorem Sight.getLast?_rejected? {sights : List Sight}
    (unaccepted : ∀ seen ∈ sights, ∀ v, seen ≠ .accepted v)
    (judged : ∀ seen ∈ sights.getLast?,
      (∃ holds, seen.result = .ok holds) ∧ ∃ text, seen.value.inspect = .ok text) :
    (sights.filterMap rejected?).getLast? = (sights.map value).getLast? := by
  cases last : sights.getLast?
  case none => simp [List.getLast?_eq_none_iff.mp last]
  case some seen =>
    obtain ⟨⟨holds, result⟩, text, shown⟩ := judged seen last
    have refused : holds = false := by
      have := unaccepted seen (List.mem_of_getLast? last) seen.value
      rcases seen with ⟨v, _⟩
      cases result
      simpa [accepted] using this
    have rejected : seen.rejected? = some seen.value := by
      simp [rejected?, result, refused, shown]
    obtain ⟨before, rfl⟩ := List.getLast?_eq_some_iff.mp last
    simp [List.filterMap_append, rejected]

inductive LastLine : Option Value → String → Prop
  | never : LastLine none "  last value: <never resolved>"
  | value {v : Value} {text : String} (shown : v.inspect = .ok text) :
      LastLine (some v) ("  last value: " ++ text)

theorem LastLine.of_lastValueLine {seen : Option Value} {line : String}
    (h : Detail.lastValueLine (.bool seen.isSome) (seen.getD .null) = .ok line) :
    LastLine seen line := by
  cases seen
  case none =>
    cases h
    exact .never
  case some v =>
    rw [Option.isSome_some, Detail.lastValueLine_of_true _ rfl, Option.getD_some,
      Except.bind_eq_ok_iff] at h
    obtain ⟨text, shown, made⟩ := h
    cases made
    exact .value shown

def Fault.TellsLast (base : Source) (test : Value) (description : Option String)
    (seen : Option Value) (f : Fault) : Prop :=
  ∃ expected on line rest, describeMatch test description = .ok expected ∧
    (Value.source base).inspect = .ok on ∧ LastLine seen line ∧
    f.message = .ok ("\n".intercalate
      (("Expected " ++ expected) :: ("  source:     " ++ on) :: line :: rest))

theorem Fault.message_of_unmet {f : Fault} {message : String}
    {description lastCause attempts elapsed hasValue lastValue source : Value}
    (h : f.detail = .unmet description lastCause attempts elapsed hasValue lastValue source
      message) : f.message = .ok message := by
  cases f
  cases h
  rw [Fault.message, Fault.write, Detail.message]

theorem tellsLast_of_unmetFault {base : Source} {test : Value} {description : Option String}
    {cause f : Fault} {attempts : Nat} {elapsed : Number} {seen : Option Value}
    (h : unmetFault (.source base) test description cause attempts elapsed seen = .ok f) :
    f.TellsLast base test description seen := by
  simp only [unmetFault, Detail.ofUnmet, Detail.unmetMessage, Except.bind_eq_ok_iff,
    Value.display_text] at h
  obtain ⟨expected, described, _, ⟨message, ⟨_, same, on, shown, line, observed, rest⟩, detail⟩,
    made⟩ := h
  obtain ⟨_, _, _, _, _, _, said⟩ := rest
  cases same
  cases said
  cases detail
  cases made
  exact ⟨expected, on, line, _, described, shown, .of_lastValueLine observed,
    Fault.message_of_unmet rfl⟩

variable {host : Host σ} {timing : Timing σ} {observe : Observer σ} {fuel mark : Nat}
         {base : Source} {source test : Value} {description : Option String} {policy : Policy}
         {finish : Finish Number} {trials : List Trial} {last : Fault} {s s' : σ}

theorem tellsLast_of_failed (given : Source.ofValue source = .ok base)
    (waited : (assertionPlan host timing observe policy mark
      (.matching mark base test description)).wait fuel s = (.ok (some (finish, trials)), s'))
    (failed : finish.ending.cause? = some last)
    (shown : ∀ v, lastRejected? trials = some v → ∃ text, v.inspect = .ok text) {time : String}
    (written : (Value.number finish.elapsed).toMilliseconds = .ok time) {f : Fault}
    (asserted : assertEventually host timing observe fuel mark source test description policy s =
      (.error f, s')) : f.TellsLast base test description (lastRejected? trials) := by
  obtain ⟨_, _, rfl, tried⟩ := tried_of_wait waited
  have ⟨_, _, made⟩ := unmetFault_of_explained (tried.explained failed) shown
  rw [written] at made
  have told := tellsLast_of_unmetFault made
  rw [assertEventually_of_wait given waited, concluded, conclude_of_cause failed, made] at asserted
  cases asserted
  exact told

theorem Source.Answers.unaccepted {seen : Option Sight} {reply : Value}
    (h : Answers host mark base test description s seen reply) (failed : reply.failure? ≠ none)
    (v : Value) : seen ≠ some (.accepted v) := by
  intro accepted
  cases reply
  case outcome o =>
    have success := (h.accepted_iff v).mp accepted
    exact failed (Value.failure?_outcome.mpr (by rw [success]; rfl))
  all_goals exact failed rfl

theorem Tried.failure_of_cause {src : Source} {t : Trial} {earlier : List Trial}
    (h : Tried host policy src finish t earlier) (failed : finish.ending.cause? = some last) :
    t.reply.failure? ≠ none := by
  obtain ⟨r, rfl, ends⟩ := h.ends
  cases ending : finish.ending
  all_goals rw [ending] at ends failed
  case resolved => cases failed
  case refused =>
    obtain _ | ⟨failure, _⟩ := ends
    simp [failure]
  case expired =>
    obtain _ | _ | ⟨failure, _, _, _⟩ := ends
    simp [failure]

theorem unaccepted_of_failed
    (waited : (assertionPlan host timing observe policy mark
      (.matching mark base test description)).wait fuel s = (.ok (some (finish, trials)), s'))
    (failed : finish.ending.cause? = some last) :
    ∀ x ∈ assertedStarts host timing observe fuel mark base test description policy s,
      ∀ v, base.sightAt host test x ≠ some (.accepted v) := by
  have failures : ∀ t ∈ trials.reverse, t.reply.failure? ≠ none := by
    obtain ⟨_, _, rfl, tried⟩ := tried_of_wait waited
    intro t mem
    cases List.mem_cons.mp (List.mem_reverse.mp mem)
    case inl latest  => exact latest ▸ tried.failure_of_cause failed
    case inr earlier => exact tried.failures t earlier
  have answers := ((List.forall₂_and_left _ _).mpr
    ⟨failures, (answers_of_assertion waited).flip⟩).flip
  refine ((List.forall₂_and_left (R := fun _ _ => True) _ trials.reverse).mp (answers.imp ?_)).1
  exact fun x t ⟨failed, answered, _⟩ => ⟨answered.unaccepted failed, trivial⟩

theorem resolvedAt_of_assertion
    (waited : (assertionPlan host timing observe policy mark
      (.matching mark base test description)).wait fuel s = (.ok (some (finish, trials)), s')) :
    let starts := assertedStarts host timing observe fuel mark base test description policy s
    starts.filterMap (base.resolvedAt host) =
      (starts.filterMap (base.sightAt host test)).map Sight.value := by
  intro starts
  have resolved := (resolves_of_assertion waited).imp fun x _ ⟨⟨_, answered⟩, _⟩ =>
    And.intro (Source.resolvedAt_eq_of_resolve answered) trivial
  have same := ((List.forall₂_and_left (R := fun _ _ => True) _ trials.reverse).mp resolved).1
  rw [List.map_filterMap]
  exact List.filterMap_congr same

theorem lastRejected?_eq_resolved {expected : String}
    (waited : (assertionPlan host timing observe policy mark
      (.matching mark base test description)).wait fuel s = (.ok (some (finish, trials)), s'))
    (failed : finish.ending.cause? = some last)
    (described : describeMatch test description = .ok expected)
    (unmarked : ∀ x ∈ assertedStarts host timing observe fuel mark base test description policy s,
      Source.Unmarked host mark base test description x)
    (judged : ∀ seen ∈ ((assertedStarts host timing observe fuel mark base test description
        policy s).filterMap (base.sightAt host test)).getLast?,
      (∃ holds, seen.result = .ok holds) ∧ ∃ text, seen.value.inspect = .ok text) :
    lastRejected? trials = ((assertedStarts host timing observe fuel mark base test description
      policy s).filterMap (base.resolvedAt host)).getLast? := by
  -- Among the values that the base resolved to, the marked rejections leave out those that were
  -- accepted, of which there is none, and those that could not be judged, of which the last one is
  -- none.
  have unaccepted : ∀ seen ∈ (assertedStarts host timing observe fuel mark base test description
      policy s).filterMap (base.sightAt host test), ∀ v, seen ≠ .accepted v := by
    intro seen mem v accepted
    obtain ⟨x, begun, sight⟩ := List.mem_filterMap.mp mem
    exact unaccepted_of_failed waited failed x begun v (accepted ▸ sight)
  calc lastRejected? trials
    _ = ((assertedStarts host timing observe fuel mark base test description policy s).filterMap
          (rejectedAt host base test)).getLast? :=
      lastRejected?_of_assertion waited unmarked described
    _ = (((assertedStarts host timing observe fuel mark base test description policy s).filterMap
          (base.sightAt host test)).filterMap Sight.rejected?).getLast? := by
      rw [List.filterMap_filterMap]
      rfl
    _ = (((assertedStarts host timing observe fuel mark base test description policy s).filterMap
          (base.sightAt host test)).map Sight.value).getLast? :=
      Sight.getLast?_rejected? unaccepted judged
    _ = _ := by rw [resolvedAt_of_assertion waited]

-- A failed assertion reports the value that its source resolved to last, and it says that there
-- never was one only if there was none, as long as the last of these values could be tested and
-- shown.
theorem assertEventually_tells_appearance (given : Source.ofValue source = .ok base)
    (waited : (assertionPlan host timing observe policy mark
      (.matching mark base test description)).wait fuel s = (.ok (some (finish, trials)), s'))
    (failed : finish.ending.cause? = some last)
    (unmarked : ∀ x ∈ assertedStarts host timing observe fuel mark base test description policy s,
      Source.Unmarked host mark base test description x)
    (judged : ∀ seen ∈ ((assertedStarts host timing observe fuel mark base test description
        policy s).filterMap (base.sightAt host test)).getLast?,
      (∃ holds, seen.result = .ok holds) ∧ ∃ text, seen.value.inspect = .ok text) :
    let appeared := ((assertedStarts host timing observe fuel mark base test description
      policy s).filterMap (base.resolvedAt host)).getLast?
    match (Value.number finish.elapsed).toMilliseconds with
    | .ok _    => ∃ f,
      assertEventually host timing observe fuel mark source test description policy s =
        (.error f, s') ∧
      Unmet base finish.attempts finish.elapsed appeared last f ∧
      f.TellsLast base test description appeared
    | .error f =>
      assertEventually host timing observe fuel mark source test description policy s =
        (.error f, s') := by
  intro appeared
  have ⟨_, _, _, tried⟩ := tried_of_wait waited
  have ⟨_, _, ⟨_, on_shown⟩, _⟩ := tried.explained failed
  have ⟨_, _, _, described⟩ := exists_of_inspect_matching on_shown
  have latest : lastRejected? trials = appeared :=
    lastRejected?_eq_resolved waited failed described unmarked judged
  have shown : ∀ v, lastRejected? trials = some v → ∃ text, v.inspect = .ok text := by
    intro v rejected
    rw [latest] at rejected
    simp only [appeared] at rejected
    rw [resolvedAt_of_assertion waited, List.getLast?_map] at rejected
    obtain ⟨seen, last_seen, value⟩ := Option.map_eq_some_iff.mp rejected
    exact value ▸ (judged seen last_seen).2
  have ⟨told, untold⟩ := assertEventually_of_failed given waited failed shown
  split
  case h_1 written =>
    have ⟨f, asserted, unmet⟩ := told written
    have said := tellsLast_of_failed given waited failed shown written asserted
    rw [latest] at unmet said
    exact ⟨f, asserted, unmet, said⟩
  case h_2 unwritten => exact untold unwritten

theorem assertEventually_tells_appearance_mismatched : ∃ v f s' elapsed last,
    v.isNull = true ∧
      ((confirmationStarts .silent [.int 0, .int 1, .int 7] mismatched).filterMap
        (Source.missing.resolvedAt .scripted)).getLast? = some v ∧
      assertConfirmed .silent [.int 0, .int 1, .int 7] mismatched = (.error f, s') ∧
      Unmet .missing 2 elapsed (some v) last f ∧
      f.TellsLast .missing (.predicate .confirmed) none (some v) := by
  have judged : ∀ seen ∈ ((confirmationStarts .silent [.int 0, .int 1, .int 7] mismatched).filterMap
        (Source.missing.sightAt .scripted (.predicate .confirmed))).getLast?,
      (∃ holds, seen.result = .ok holds) ∧ ∃ text, seen.value.inspect = .ok text := by
    decide +kernel
  have appeared : ∃ v ∈ ((confirmationStarts .silent [.int 0, .int 1, .int 7]
      mismatched).filterMap (Source.missing.resolvedAt .scripted)).getLast?, v.isNull = true := by
    decide +kernel
  have given : Source.ofValue (.source .missing) = .ok .missing := rfl
  obtain ⟨finish, trials, last, s', time, waited, attempts, failed, written⟩ :=
    confirmation_mismatched
  obtain ⟨v, appeared, null⟩ := appeared
  have tells := assertEventually_tells_appearance given waited failed unmarked_mismatched judged
  rw [written] at tells
  obtain ⟨f, asserted, unmet, told⟩ := tells
  rw [attempts] at unmet
  exact ⟨v, f, s', _, last, null, appeared, asserted, appeared ▸ unmet, appeared ▸ told⟩

def Predicate.aboveOne : Predicate :=
  .mk 0 (.greaterThan (.int 1)) "a value greater than 1"

def comparison : Except Fault (Option (Finish Number × List Trial)) × List Number × List Value :=
  (assertionPlan .scripted .scripted .silent .brief 1
    (.matching 1 .missing (.predicate .aboveOne) none)).wait 3
      ([.int 0, .int 1], [.outcome (.success (.text "s"))])

def comparisonStarts : List (List Number × List Value) :=
  assertedStarts .scripted .scripted .silent 3 1 .missing (.predicate .aboveOne) none .brief
    ([.int 0, .int 1], [.outcome (.success (.text "s"))])

theorem assertEventually_mistells :
    (∃ x ∈ comparisonStarts, ∃ v ∈ Source.missing.resolvedAt .scripted x, v.typeName = "str") ∧
    ∃ f s' elapsed last,
      assertEventually .scripted .scripted .silent 3 1 (.source .missing) (.predicate .aboveOne)
        none .brief ([.int 0, .int 1], [.outcome (.success (.text "s"))]) = (.error f, s') ∧
      Unmet .missing 1 elapsed none last f ∧
      f.TellsLast .missing (.predicate .aboveOne) none none := by
  have appeared : ∃ x ∈ comparisonStarts, ∃ v ∈ Source.missing.resolvedAt .scripted x,
      v.typeName = "str" := by
    decide +kernel
  have failed : ∃ x, comparison.1 = .ok x ∧
      ∃ y ∈ x, y.1.attempts = 1 ∧ y.1.ending.cause?.isSome = true ∧
        (∃ time, (Value.number y.1.elapsed).toMilliseconds = .ok time) ∧
        (lastRejected? y.2).isNone = true := by
    decide +kernel
  rcases waited : comparison with ⟨r, s'⟩
  rw [waited] at failed
  obtain ⟨_, rfl, ⟨finish, trials⟩, rfl, attempts, failed, ⟨time, written⟩, unseen⟩ := failed
  obtain ⟨last, failed⟩ := Option.isSome_iff_exists.mp failed
  have unseen : lastRejected? trials = none := Option.isNone_iff_eq_none.mp unseen
  have shown : ∀ v, lastRejected? trials = some v → ∃ text, v.inspect = .ok text := by
    simp [unseen]
  have given : Source.ofValue (.source .missing) = .ok .missing := rfl
  have ⟨f, asserted, unmet⟩ := (assertEventually_of_failed given waited failed shown).1 written
  have told := tellsLast_of_failed given waited failed shown written asserted
  rw [unseen] at unmet told
  rw [attempts] at unmet
  exact ⟨appeared, f, s', _, last, asserted, unmet, told⟩

end BoundedWait
