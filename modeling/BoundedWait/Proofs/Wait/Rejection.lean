import BoundedWait.Proofs.Wait.Assertion

namespace BoundedWait

variable {σ : Type} {host : Host σ} {timing : Timing σ} {observe : Observer σ} {fuel mark : Nat}
         {base : Source} {source test : Value} {description : Option String} {policy : Policy}
         {finish : Finish Number} {trials : List Trial} {last : Fault} {s s' : σ}

theorem lastRejected?_eq_getLast? {τ : Type} {noted : τ → Option Value} {starts : List τ}
    (h : List.Forall₂ (fun x t => t.rejected = noted x) starts trials.reverse) :
    lastRejected? trials = (starts.filterMap noted).getLast? := by
  have same : starts.map noted = trials.reverse.map Trial.rejected := by
    rw [← List.forall₂_eq_eq_eq, List.forall₂_map_left_iff, List.forall₂_map_right_iff]
    exact h.imp fun _ _ => Eq.symm
  have same : starts.filterMap noted = trials.reverse.filterMap Trial.rejected := by
    simpa [List.filterMap_map] using congrArg (List.filterMap id) same
  rw [same, List.getLast?_filterMap, List.reverse_reverse]
  rfl

def refusedAt (host : Host σ) (base : Source) (test : Value) (s : σ) : Option Value :=
  (base.sightAt host test s).bind Sight.refused?

def rejectedAt (host : Host σ) (base : Source) (test : Value) (s : σ) : Option Value :=
  (base.sightAt host test s).bind Sight.rejected?

theorem rejectedAt_eq_filter :
    rejectedAt host base test s =
      (refusedAt host base test s).filter fun v => v.inspect.toOption.isSome := by
  unfold rejectedAt refusedAt
  cases base.sightAt host test s
  case none => rfl
  case some seen =>
    obtain ⟨v, e | _ | _⟩ := seen
    case error   => rfl
    case ok.true => rfl
    case ok.false =>
      cases shown : v.inspect
      all_goals simp [Sight.rejected?, Sight.refused?, Option.filter, shown, Except.toOption]

theorem getLast?_rejectedAt {starts : List σ}
    (shown : ∀ v ∈ (starts.filterMap (refusedAt host base test)).getLast?,
      ∃ text, v.inspect = .ok text) :
    (starts.filterMap (rejectedAt host base test)).getLast? =
      (starts.filterMap (refusedAt host base test)).getLast? := by
  have rejected : starts.filterMap (rejectedAt host base test) =
      (starts.filterMap (refusedAt host base test)).filter
        fun v => v.inspect.toOption.isSome := by
    rw [List.filter_filterMap]
    exact List.filterMap_congr fun _ _ => rejectedAt_eq_filter
  rw [rejected]
  cases last : (starts.filterMap (refusedAt host base test)).getLast?
  case none => simp [List.getLast?_eq_none_iff.mp last]
  case some v =>
    obtain ⟨text, shown⟩ := shown v last
    obtain ⟨before, split⟩ := List.getLast?_eq_some_iff.mp last
    simp [split, List.filter_append, shown, Except.toOption]

theorem lastRejected?_of_assertion {expected : String}
    (h : (assertionPlan host timing observe policy mark
      (.matching mark base test description)).wait fuel s = (.ok (some (finish, trials)), s'))
    (unmarked : ∀ x ∈ assertedStarts host timing observe fuel mark base test description policy s,
      Source.Unmarked host mark base test description x)
    (described : describeMatch test description = .ok expected) :
    lastRejected? trials = ((assertedStarts host timing observe fuel mark base test description
      policy s).filterMap (rejectedAt host base test)).getLast? := by
  refine lastRejected?_eq_getLast? ?_
  refine ((List.forall₂_and_left _ _).mpr ⟨unmarked, answers_of_assertion h⟩).imp ?_
  intro x t ⟨unmarked, answers, noted⟩
  exact noted.trans (answers.rejectedBy?_eq unmarked described)

theorem assertEventually_of_failed (given : Source.ofValue source = .ok base)
    (h : (assertionPlan host timing observe policy mark
      (.matching mark base test description)).wait fuel s = (.ok (some (finish, trials)), s'))
    (failed : finish.ending.cause? = some last)
    (shown : ∀ v, lastRejected? trials = some v → ∃ text, v.inspect = .ok text) :
    (∀ {time}, (Value.number finish.elapsed).toMilliseconds = .ok time →
      ∃ f, assertEventually host timing observe fuel mark source test description policy s =
          (.error f, s') ∧
        Unmet base finish.attempts finish.elapsed (lastRejected? trials) last f) ∧
    (∀ {f}, (Value.number finish.elapsed).toMilliseconds = .error f →
      assertEventually host timing observe fuel mark source test description policy s =
        (.error f, s')) := by
  obtain ⟨_, _, rfl, tried⟩ := tried_of_wait h
  have ⟨told, untold⟩ := conclude_of_explained _ failed (tried.explained failed) shown
  rw [assertEventually_of_wait given h]
  constructor
  case left =>
    intro time written
    have ⟨f, concludes, unmet⟩ := told written
    exact ⟨f, by rw [concluded, concludes]; rfl, unmet⟩
  case right =>
    intro f unwritten
    rw [concluded, untold unwritten]
    rfl

-- A failed assertion reports the last value that its test did not hold for, whatever its other
-- attempts have failed with, as long as that value can be shown.
theorem assertEventually_reports_rejection (given : Source.ofValue source = .ok base)
    (waited : (assertionPlan host timing observe policy mark
      (.matching mark base test description)).wait fuel s = (.ok (some (finish, trials)), s'))
    (failed : finish.ending.cause? = some last)
    (unmarked : ∀ x ∈ assertedStarts host timing observe fuel mark base test description policy s,
      Source.Unmarked host mark base test description x)
    (shown : ∀ v ∈ ((assertedStarts host timing observe fuel mark base test description
      policy s).filterMap (refusedAt host base test)).getLast?, ∃ text, v.inspect = .ok text) :
    let refused := ((assertedStarts host timing observe fuel mark base test description
      policy s).filterMap (refusedAt host base test)).getLast?
    match (Value.number finish.elapsed).toMilliseconds with
    | .ok _    => ∃ f,
      assertEventually host timing observe fuel mark source test description policy s =
        (.error f, s') ∧
      Unmet base finish.attempts finish.elapsed refused last f
    | .error f =>
      assertEventually host timing observe fuel mark source test description policy s =
        (.error f, s') := by
  intro refused
  obtain ⟨_, _, rfl, tried⟩ := tried_of_wait waited
  -- The report of a failed wait has the text of the match in it, so that its description can be
  -- told.
  obtain ⟨_, _, ⟨_, source⟩, _⟩ := tried.explained failed
  obtain ⟨_, expected, _, described⟩ := exists_of_inspect_matching source
  have latest :=
    (lastRejected?_of_assertion waited unmarked described).trans (getLast?_rejectedAt shown)
  have ⟨told, untold⟩ := assertEventually_of_failed given waited failed (latest ▸ shown)
  rw [latest] at told
  split
  case h_1 written   => exact told written
  case h_2 unwritten => exact untold unwritten

-- A rejection by another match, which is made from the same parts as the match of the assertion.
def Fault.lookalike : Fault :=
  .mk 0 BuiltinClass.predicateMismatch (.mismatch (.bool false) (.text "a value equal to True")
    (.source (.matching 0 .missing (.predicate .confirmed) none))
    "False does not satisfy a value equal to True") none

def mismatched : List Value :=
  [.outcome (.success .null), .outcome (.retryable .lookalike .null)]

def confirmation (observe : Observer (List Number × List Value)) (readings : List Number)
    (answers : List Value) :
    Except Fault (Option (Finish Number × List Trial)) × List Number × List Value :=
  (assertionPlan .scripted .scripted observe .brief 1
    (.matching 1 .missing (.predicate .confirmed) none)).wait 3 (readings, answers)

def confirmationStarts (observe : Observer (List Number × List Value)) (readings : List Number)
    (answers : List Value) : List (List Number × List Value) :=
  assertedStarts .scripted .scripted observe 3 1 .missing (.predicate .confirmed) none .brief
    (readings, answers)

theorem confirmation_mismatched : ∃ finish trials last s' time,
    confirmation .silent [.int 0, .int 1, .int 7] mismatched =
      (.ok (some (finish, trials)), s') ∧
    finish.attempts = 2 ∧ finish.ending.cause? = some last ∧
    (Value.number finish.elapsed).toMilliseconds = .ok time := by
  have failed : ∃ x, (confirmation .silent [.int 0, .int 1, .int 7] mismatched).1 = .ok x ∧
      ∃ y ∈ x, y.1.attempts = 2 ∧ y.1.ending.cause?.isSome = true ∧
        ∃ time, (Value.number y.1.elapsed).toMilliseconds = .ok time := by
    decide +kernel
  rcases waited : confirmation .silent [.int 0, .int 1, .int 7] mismatched with ⟨r, s'⟩
  rw [waited] at failed
  obtain ⟨_, rfl, ⟨finish, trials⟩, rfl, attempts, failed, time, written⟩ := failed
  obtain ⟨last, failed⟩ := Option.isSome_iff_exists.mp failed
  exact ⟨finish, trials, last, s', time, rfl, attempts, failed, written⟩

theorem unmarked_mismatched :
    ∀ x ∈ confirmationStarts .silent [.int 0, .int 1, .int 7] mismatched,
      Source.Unmarked .scripted 1 .missing (.predicate .confirmed) none x := by
  decide +kernel

theorem assertEventually_reports_rejection_mismatched : ∃ v f s' elapsed last,
    v.isNull = true ∧
      assertConfirmed .silent [.int 0, .int 1, .int 7] mismatched = (.error f, s') ∧
      Unmet .missing 2 elapsed (some v) last f := by
  have latest : ∃ v ∈ ((confirmationStarts .silent [.int 0, .int 1, .int 7] mismatched).filterMap
      (refusedAt .scripted .missing (.predicate .confirmed))).getLast?, v.isNull = true := by
    decide +kernel
  have shown : ∀ v ∈ ((confirmationStarts .silent [.int 0, .int 1, .int 7] mismatched).filterMap
      (refusedAt .scripted .missing (.predicate .confirmed))).getLast?,
      ∃ text, v.inspect = .ok text := by
    decide +kernel
  have given : Source.ofValue (.source .missing) = .ok .missing := rfl
  obtain ⟨finish, trials, last, s', time, waited, attempts, failed, written⟩ :=
    confirmation_mismatched
  obtain ⟨v, latest, null⟩ := latest
  have reports :=
    assertEventually_reports_rejection given waited failed unmarked_mismatched shown
  rw [written] at reports
  obtain ⟨f, asserted, unmet⟩ := reports
  rw [attempts] at unmet
  exact ⟨v, f, s', _, last, null, asserted, latest ▸ unmet⟩

def Value.unshowable : Value :=
  .object (.plain 0 "Unshowable" (.error Misuse.nestedTooDeep.fault))

theorem assertEventually_misreports :
    (∃ v ∈ ((confirmationStarts .silent [.int 0, .int 1]
        [.outcome (.success .unshowable)]).filterMap
          (refusedAt .scripted .missing (.predicate .confirmed))).getLast?,
      v.typeName = "Unshowable") ∧
    ∃ f s' elapsed last,
      assertConfirmed .silent [.int 0, .int 1] [.outcome (.success .unshowable)] = (.error f, s') ∧
      Unmet .missing 1 elapsed none last f := by
  refine ⟨by decide +kernel, ?_⟩
  have failed : ∃ x, (confirmation .silent [.int 0, .int 1]
      [.outcome (.success .unshowable)]).1 = .ok x ∧
      ∃ y ∈ x, y.1.attempts = 1 ∧ y.1.ending.cause?.isSome = true ∧
        (∃ time, (Value.number y.1.elapsed).toMilliseconds = .ok time) ∧
        (lastRejected? y.2).isNone = true := by
    decide +kernel
  have given : Source.ofValue (.source .missing) = .ok .missing := rfl
  rcases waited : confirmation .silent [.int 0, .int 1] [.outcome (.success .unshowable)] with
    ⟨r, s'⟩
  rw [waited] at failed
  obtain ⟨_, rfl, ⟨finish, trials⟩, rfl, attempts, failed, ⟨time, written⟩, unseen⟩ := failed
  obtain ⟨last, failed⟩ := Option.isSome_iff_exists.mp failed
  have unseen : lastRejected? trials = none := Option.isNone_iff_eq_none.mp unseen
  have ⟨f, asserted, unmet⟩ :=
    (assertEventually_of_failed given waited failed (by simp [unseen])).1 written
  rw [unseen, attempts] at unmet
  exact ⟨f, s', _, last, asserted, unmet⟩

end BoundedWait
