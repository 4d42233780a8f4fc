import BoundedWait.Predicate
import BoundedWait.Proofs.Source.Stack

namespace BoundedWait

variable {σ : Type}

def Value.Fits (host : Host σ) (v : Value) (type : String) : Prop :=
  v = .null ∨ host.isOf v type = .ok true

theorem Value.eq_null_of_isNull {v : Value} (h : v.isNull = true) : v = .null := by
  cases v <;> first | rfl | cases h

theorem Value.isOf_of_mem_ancestry {v : Value} {type : String} (h : type ∈ v.ancestry) :
    v.isOf type = true := by
  simp [isOf, h]

example (b : Bool) : (Value.bool b).isOf "int" = true := rfl

-- A type without a check of its own goes by the classes that a value has.
theorem Host.isOf_eq_of_plain {host : Host σ} {v : Value} {type : String}
    (plain : host.checks v type = .ok (v.isOf type)) : host.isOf v type = .ok (v.isOf type) := by
  rw [isOf, plain]
  split
  case isTrue own => simp [Value.isOf, own]
  case isFalse    => rfl

theorem classify_ne_success (f : Fault) (retryOn : List FaultClass) (v : Value) :
    classify f retryOn ≠ .success v := by
  intro same
  have cause := classify_cause f retryOn
  rw [same] at cause
  cases cause

namespace Source

variable {host : Host σ} {s s' : σ} {type : String} {v : Value}

theorem isOf_of_mistyped (h : mistyped host (some type) v = .ok none) :
    host.isOf v type = .ok true := by
  obtain ⟨answer, checked, h⟩ := Except.bind_eq_ok_iff.mp h
  cases answer
  case true  => exact checked
  case false => cases h

theorem fits_of_judgeAccess {self : Source} {retryOn : List FaultClass} {noneIsRetryable : Bool}
    {result : Except Fault Value}
    (h : judgeAccess host self (some type) retryOn noneIsRetryable result = .ok (.success v)) :
    v.Fits host type := by
  cases result
  case error e => exact absurd (Except.ok.inj h) (classify_ne_success e retryOn v)
  case ok w =>
    simp only [judgeAccess] at h
    split at h
    case isTrue null =>
      split at h
      case isTrue =>
        obtain ⟨_, _, made⟩ := Except.bind_eq_ok_iff.mp h
        cases made
      case isFalse =>
        cases h
        exact .inl (Value.eq_null_of_isNull null)
    case isFalse =>
      obtain ⟨found, checked, h⟩ := Except.bind_eq_ok_iff.mp h
      cases found
      case some =>
        obtain ⟨_, _, made⟩ := Except.bind_eq_ok_iff.mp h
        cases made
      case none =>
        cases h
        exact .inr (isOf_of_mistyped checked)

theorem fits_of_judgeRead {self : Source} {target : Value} {name : String}
    {result : Except Fault Value}
    (h : judgeRead host self target name (some type) result = .ok (.success v)) :
    v.Fits host type := by
  cases result
  case error e =>
    simp only [judgeRead] at h
    split at h
    case isTrue =>
      obtain ⟨_, _, made⟩ := Except.bind_eq_ok_iff.mp h
      cases made
    case isFalse => exact absurd (Except.ok.inj h) (classify_ne_success e [] v)
  case ok w =>
    simp only [judgeRead] at h
    split at h
    case isTrue null =>
      cases h
      exact .inl (Value.eq_null_of_isNull null)
    case isFalse =>
      obtain ⟨found, checked, h⟩ := Except.bind_eq_ok_iff.mp h
      cases found
      case some => cases h
      case none =>
        cases h
        exact .inr (isOf_of_mistyped checked)

theorem reply_of_matchReply {self : Source} {test reply : Value} {description : Option String}
    (h : matchReply host self test description reply s = (.ok (.outcome (.success v)), s')) :
    reply = .outcome (.success v) := by
  obtain ⟨passed, s₁, _, h⟩ := Act.bind_eq_ok_iff.mp h
  cases passed
  case false =>
    cases h
    rfl
  case true =>
    obtain ⟨value, s₂, _, h⟩ := Act.bind_eq_ok_iff.mp h
    obtain ⟨result, s₃, _, h⟩ := Act.bind_eq_ok_iff.mp h
    rcases result with e | _ | _
    case error =>
      simp only [judgeMatch, Act.bind_eq_ok_iff] at h
      obtain ⟨_, _, _, _, _, _, _, _, _, _, _, _, made⟩ := h
      cases made
    case ok.false =>
      simp only [judgeMatch, Act.bind_eq_ok_iff] at h
      obtain ⟨_, _, _, _, _, _, made⟩ := h
      cases made
    case ok.true =>
      cases h
      rfl

theorem fits_of_reading {base : Source} {reply target : Value} {name : String}
    (h : (Layer.reading name (some type)).work host base reply target s =
      (.ok (.outcome (.success v)), s')) : v.Fits host type := by
  simp only [Layer.work] at h
  split at h
  case isTrue =>
    obtain ⟨_, _, _, made⟩ := Act.bind_eq_ok_iff.mp h
    cases made
  case isFalse =>
    obtain ⟨_, _, _, h⟩ := Act.bind_eq_ok_iff.mp h
    obtain ⟨_, _, judged, h⟩ := Act.bind_eq_ok_iff.mp h
    cases h
    exact fits_of_judgeRead (congrArg Prod.fst judged)

theorem fits_of_attempt {src : Source} {s' : σ} (declared : src.declaredType? = some type)
    (answered : src.attempt host s = (.ok (.outcome (.success v)), s')) : v.Fits host type := by
  -- The recursion is on what a match is put on. Sources that are handed out by operations do not
  -- matter, since what an operation is invoked for has no declared type.
  match src with
  | .direct w =>
    cases answered
    simp only [declaredType?] at declared
    split at declared <;> cases declared
    exact .inr (host.isOf_typeName v)
  | .absent _ =>
    cases answered
    exact .inl rfl
  | .accessor f _ _ _ _ =>
    cases declared
    rw [attempt, attemptTo, attemptWith] at answered
    obtain ⟨_, _, _, answered⟩ := Act.bind_eq_ok_iff.mp answered
    obtain ⟨_, _, judged, answered⟩ := Act.bind_eq_ok_iff.mp answered
    cases answered
    exact fits_of_judgeAccess (congrArg Prod.fst judged)
  | .reading base name _ =>
    cases declared
    change ((Layer.reading name (some type)).on base).attempt host s = _ at answered
    rw [Layer.attempt_on] at answered
    obtain ⟨reply, _, _, answered⟩ := Act.bind_eq_ok_iff.mp answered
    obtain ⟨passed, _, succeeded, answered⟩ := Act.bind_eq_ok_iff.mp answered
    cases passed
    case false =>
      cases answered
      cases succeeded
    case true =>
      obtain ⟨_, _, _, answered⟩ := Act.bind_eq_ok_iff.mp answered
      exact fits_of_reading answered
  | .matching _ base _ _ =>
    rw [attempt_matching] at answered
    obtain ⟨reply, _, based, answered⟩ := Act.bind_eq_ok_iff.mp answered
    rw [reply_of_matchReply answered] at based
    rw [declaredType?_matching] at declared
    exact fits_of_attempt declared based
  | .invoking _ _ => cases declared
  | .custom _ _ => cases declared

-- If a source declares a type, whatever it resolves to is of that type, or it is nothing. Unless
-- the type has a check of its own, the class of the value is that type or derived from it.
theorem attempt_respects_type {src : Source} (declared : src.declaredType? = some type)
    (answered : src.attempt host s = (.ok (.outcome (.success v)), s')) :
    v = .null ∨ host.isOf v type = .ok true ∧
      (host.checks v type = .ok (v.isOf type) → v.isOf type = true) := by
  refine (fits_of_attempt declared answered).imp_right fun checked => ⟨checked, fun plain => ?_⟩
  rw [Host.isOf_eq_of_plain plain] at checked
  exact Except.ok.inj checked

end Source

def Value.worker : Value :=
  .object (.plain 0 ⟨"Worker", ["Service"]⟩ (.ok "<Worker>"))

def Host.staffed : Host Unit where
  call _ _ _ := pure .worker
  read _ _   := pure .null
  attempt _  := pure .null
  log _      := pure ()
  depth      := 0

def Source.hired : Source :=
  .matching 0 (.accessor (.callable (.mk 0 "<hire>" none none none)) (some "Service") [] false none)
    (.predicate (.isNotNone 0)) none

theorem Source.attempt_hired :
    hired.attempt .staffed () = (.ok (.outcome (.success .worker)), ()) := by
  have called : (Value.callable (.mk 0 "<hire>" none none none)).call .staffed [] [] () =
      (.ok .worker, ()) := by
    simp [Value.call, Host.staffed]
  have derived : Value.worker.isOf "Service" = true :=
    Value.isOf_of_mem_ancestry (List.mem_singleton_self _)
  have typed : Host.staffed.isOf .worker "Service" = .ok true :=
    (Host.isOf_eq_of_plain rfl).trans (congrArg Except.ok derived)
  have tested : (Value.predicate (.isNotNone 0)).passes .staffed .worker () = (.ok true, ()) := by
    simp [Value.passes, Value.call, Predicate.holds, Predicate.isNotNone, Check.holds, Value.worker,
      Value.isNull]
  have based : (Source.accessor (.callable (.mk 0 "<hire>" none none none)) (some "Service") []
      false none).attempt .staffed () = (.ok (.outcome (.success .worker)), ()) := by
    have judged (self : Source) : judgeAccess .staffed self (some "Service") [] false
        (.ok .worker) = .ok (.success .worker) := by
      rw [judgeAccess, mistyped, typed]
      rfl
    simp [attempt, attemptTo, attemptWith, Act.caught_ok called, judged]
  simp [hired, attempt_matching, based, matchReply, Host.succeeded, Host.valueOf,
    Outcome.isSuccess, Outcome.kind, Outcome.value, Act.caught_ok tested, judgeMatch]

theorem Source.attempt_respects_type_hired : hired.declaredType? = some "Service" ∧
    hired.attempt .staffed () = (.ok (.outcome (.success .worker)), ()) ∧
    (Value.worker = .null ∨ Host.staffed.isOf .worker "Service" = .ok true ∧
      (Host.staffed.checks .worker "Service" = .ok (Value.worker.isOf "Service") →
        Value.worker.isOf "Service" = true)) :=
  ⟨rfl, attempt_hired, attempt_respects_type rfl attempt_hired⟩

end BoundedWait
