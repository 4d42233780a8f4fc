import BoundedWait.Wait.Eventually

namespace Except

variable {ε α : Type} {p : α → Prop} {q : ε → Prop}

instance decidableIsOk : (r : Except ε α) → Decidable (∃ x, r = .ok x)
  | .ok x    => .isTrue ⟨x, rfl⟩
  | .error _ => .isFalse nofun

instance decidableExistsOk [DecidablePred p] : (r : Except ε α) → Decidable (∃ x, r = .ok x ∧ p x)
  | .ok x    => decidable_of_iff (p x) (by simp)
  | .error _ => .isFalse nofun

instance decidableExistsError [DecidablePred q] :
    (r : Except ε α) → Decidable (∃ e, r = .error e ∧ q e)
  | .ok _    => .isFalse nofun
  | .error e => decidable_of_iff (q e) (by simp)

instance decidableForallOk [DecidablePred p] : (r : Except ε α) → Decidable (∀ x, r = .ok x → p x)
  | .ok x    => decidable_of_iff (p x) (by simp)
  | .error _ => .isTrue nofun

instance decidableForallError [DecidablePred q] :
    (r : Except ε α) → Decidable (∀ e, r = .error e → q e)
  | .ok _    => .isTrue nofun
  | .error e => decidable_of_iff (q e) (by simp)

end Except

namespace BoundedWait

variable {σ : Type}

structure Sight where
  value  : Value
  result : Except Fault Bool

namespace Sight

def accepted (v : Value) : Sight :=
  ⟨v, .ok true⟩

def refused? (s : Sight) : Option Value :=
  match s.result with
  | .ok false => some s.value
  | _         => none

-- The value that a rejection tells of; none can be made for a value that cannot be shown.
def rejected? (s : Sight) : Option Value :=
  match s.result, s.value.inspect with
  | .ok false, .ok _ => some s.value
  | _, _             => none

end Sight

theorem Fault.exists_ofMismatch {v : Value} {shown : String} (expected : String) (source : Source)
    (h : v.inspect = .ok shown) : ∃ f, ofMismatch v expected source = .ok f := by
  simp only [ofMismatch, Detail.ofMismatch, h, Value.display_text]
  exact ⟨_, rfl⟩

theorem Sight.rejected?_of_ofMismatch {v : Value} {expected : String} {source : Source} {f : Fault}
    (h : Fault.ofMismatch v expected source = .ok f) : rejected? ⟨v, .ok false⟩ = some v := by
  obtain ⟨_, made, _⟩ := Except.bind_eq_ok_iff.mp h
  obtain ⟨_, shown, _⟩ := Except.bind_eq_ok_iff.mp made
  simp [rejected?, shown]

namespace Source

def sightOf (host : Host σ) (test reply : Value) : Act σ (Option Sight) := do
  if !(← host.succeeded reply) then return none
  let value ← host.valueOf reply
  return some ⟨value, ← (test.passes host value).caught⟩

def sightAt (host : Host σ) (base : Source) (test : Value) (s : σ) : Option Sight :=
  match ((do sightOf host test (← base.attempt host)) : Act σ (Option Sight)) s with
  | (.ok sight, _) => sight
  | (.error _, _)  => none

theorem matchReply_eq (host : Host σ) (self : Source) (test : Value) (description : Option String)
    (reply : Value) :
    matchReply host self test description reply = (do
      match ← sightOf host test reply with
      | none       => return reply
      | some sight => judgeMatch host self test description reply sight.value sight.result) := by
  simp only [matchReply, sightOf, bind_assoc]
  congr 1
  funext succeeded
  cases succeeded <;> simp [bind_assoc]

variable {host : Host σ} {mark : Nat} {base : Source} {test reply : Value}
         {description : Option String} {s s' : σ}

theorem sightOf_outcome {o : Outcome} {seen : Option Sight}
    (h : sightOf host test (.outcome o) s = (.ok seen, s')) :
    (seen = none → o.isSuccess = false) ∧
      ∀ sight, seen = some sight → o.isSuccess = true ∧ sight.value = o.value := by
  simp only [sightOf, Host.succeeded, Host.valueOf, pure_bind] at h
  cases succeeded : o.isSuccess
  all_goals rw [succeeded] at h
  case false =>
    cases h
    exact ⟨fun _ => rfl, nofun⟩
  case true =>
    obtain ⟨_, _, _, h⟩ := Act.bind_eq_ok_iff.mp h
    cases h
    exact ⟨nofun, by rintro _ ⟨⟩; exact ⟨rfl, rfl⟩⟩

theorem sightAt_of_base {s₁ s₂ : σ} {r : Except Fault (Option Sight)}
    (based : base.attempt host s = (.ok reply, s₁))
    (seen : sightOf host test reply s₁ = (r, s₂)) :
    sightAt host base test s = r.toOption.join := by
  cases r <;> simp [sightAt, based, seen, Except.toOption]

theorem sightAt_of_error {f : Fault} (broken : base.attempt host s = (.error f, s')) :
    sightAt host base test s = none := by
  simp [sightAt, broken]

inductive Answers (host : Host σ) (mark : Nat) (base : Source) (test : Value)
    (description : Option String) (s : σ) : Option Sight → Value → Prop
  | raised {seen : Option Sight} {f : Fault} {s' : σ}
      (escaped : (matching mark base test description).attempt host s = (.error f, s'))
      (unaccepted : ∀ v, seen ≠ some (.accepted v))
      (unrejected : ∀ expected, describeMatch test description = .ok expected →
        seen.bind Sight.rejected? = none) :
      Answers host mark base test description s seen (.outcome (.terminal f .null))
  | passed {reply : Value} {s' : σ} (based : base.attempt host s = (.ok reply, s'))
      (failed : ∀ o, reply = .outcome o → o.isSuccess = false) :
      Answers host mark base test description s none reply
  | accepted {reply v : Value} {s' : σ} (based : base.attempt host s = (.ok reply, s'))
      (succeeded : ∀ o, reply = .outcome o → o.isSuccess = true ∧ v = o.value) :
      Answers host mark base test description s (some (.accepted v)) reply
  | rejected {v : Value} {expected : String} {cause : Fault}
      (made : Fault.ofMismatch v expected (matching mark base test description) = .ok cause) :
      Answers host mark base test description s (some ⟨v, .ok false⟩)
        (.outcome (.retryable cause .null))
  | failed {v : Value} {e : Fault} :
      Answers host mark base test description s (some ⟨v, .error e⟩) (.outcome (.terminal e .null))

theorem resolve_eq_ok {src : Source} (h : src.resolve host s = (.ok reply, s')) :
    src.attempt host s = (.ok reply, s') ∨
      ∃ f s₁, src.attempt host s = (.error f, s₁) ∧ reply = .outcome (.terminal f .null) := by
  obtain ⟨r, s₁, caught, h⟩ := Act.bind_eq_ok_iff.mp h
  cases r
  case ok given =>
    cases h
    exact .inl (Act.of_caught_ok caught)
  case error e =>
    simp only [Act.bind_eq_ok_iff] at h
    obtain ⟨_, _, _, _, _, _, _, _, _, h⟩ := h
    cases h
    exact .inr ⟨e, s₁, Act.of_caught_error caught, rfl⟩

theorem resolve_of_not_isException {src : Source} {f : Fault}
    (escaped : src.attempt host s = (.error f, s')) (fatal : f.isException = false) :
    src.resolve host s = (.error f, s') := by
  have passed := Act.caught_of_not_isException escaped fatal
  rw [resolve, Value.resolve, guardAttempt, Act.bind_apply]
  simp only [Value.attempt, passed]

theorem judgeMatch_eq_error {self : Source} {sight : Sight} {f : Fault}
    (h : judgeMatch host self test description reply sight.value sight.result s = (.error f, s')) :
    (∀ v, sight ≠ .accepted v) ∧
      ∀ expected, describeMatch test description = .ok expected → sight.rejected? = none := by
  obtain ⟨v, e | _ | _⟩ := sight
  case error   => exact ⟨nofun, fun _ _ => rfl⟩
  case ok.true => cases h
  -- A rejection that breaks could not show the value.
  case ok.false =>
    refine ⟨nofun, fun expected described => ?_⟩
    cases shown : v.inspect
    case error => simp [Sight.rejected?, shown]
    case ok =>
      have ⟨cause, made⟩ := Fault.exists_ofMismatch expected self shown
      simp [judgeMatch, described, made] at h

theorem answers_of_attempt
    (h : (matching mark base test description).attempt host s = (.ok reply, s')) :
    Answers host mark base test description s (sightAt host base test s) reply := by
  rw [attempt_matching] at h
  obtain ⟨given, s₁, based, h⟩ := Act.bind_eq_ok_iff.mp h
  rw [matchReply_eq] at h
  obtain ⟨seen, s₂, looked, h⟩ := Act.bind_eq_ok_iff.mp h
  rw [sightAt_of_base based looked]
  rcases seen with _ | ⟨v, e | _ | _⟩
  case none =>
    cases h
    refine .passed based fun o answered => ?_
    rw [answered] at looked
    exact (sightOf_outcome looked).1 rfl
  case some.ok.true =>
    cases h
    refine .accepted based fun o answered => ?_
    rw [answered] at looked
    exact (sightOf_outcome looked).2 _ rfl
  case some.ok.false =>
    simp only [judgeMatch, Act.bind_eq_ok_iff, Act.of_apply, Act.ending_eq_iff] at h
    obtain ⟨expected, _, _, cause, _, ⟨made, _⟩, h⟩ := h
    cases h
    exact .rejected made
  case some.error =>
    simp only [judgeMatch, Act.bind_eq_ok_iff] at h
    obtain ⟨_, _, _, _, _, _, _, _, _, _, _, _, h⟩ := h
    cases h
    exact .failed

theorem answers_of_resolve
    (h : (matching mark base test description).resolve host s = (.ok reply, s')) :
    Answers host mark base test description s (sightAt host base test s) reply := by
  rcases resolve_eq_ok h with attempted | ⟨f, s₁, escaped, rfl⟩
  case inl => exact answers_of_attempt attempted
  case inr =>
    have broken := escaped
    rw [attempt_matching, Act.bind_eq_error_iff] at broken
    -- It escaped from the base, from the test, or from what came after the test.
    rcases broken with unbased | ⟨given, s₂, based, broken⟩
    case inl =>
      have unseen : sightAt host base test s = none := sightAt_of_error unbased
      exact .raised escaped (by simp [unseen]) (by simp [unseen])
    case inr =>
      rw [matchReply_eq, Act.bind_eq_error_iff] at broken
      rcases broken with looked | ⟨_ | sight, s₃, looked, judged⟩
      all_goals have seen := sightAt_of_base based looked
      case inl =>
        exact .raised escaped (by simp [seen, Except.toOption]) (by simp [seen, Except.toOption])
      case inr.none => cases judged
      case inr.some =>
        have ⟨unaccepted, unrejected⟩ := judgeMatch_eq_error judged
        have seen : sightAt host base test s = some sight := seen
        rw [seen]
        exact .raised escaped (by simpa using unaccepted) (by simpa using unrejected)

theorem Answers.accepted_iff {seen : Option Sight} {o : Outcome}
    (h : Answers host mark base test description s seen (.outcome o)) (v : Value) :
    seen = some (.accepted v) ↔ o = .success v := by
  cases h
  case raised _ unaccepted _ => simp [unaccepted]
  case rejected              => simp [Sight.accepted]
  case failed                => simp [Sight.accepted]
  case passed failed =>
    have := failed o rfl
    constructor
    case mp  => nofun
    case mpr =>
      rintro rfl
      cases this
  case accepted w _ succeeded =>
    obtain ⟨success, rfl⟩ := succeeded o rfl
    cases o
    case success => simp [Sight.accepted, Outcome.value]
    all_goals cases success

-- Nothing in an attempt is about a rejection by the match with some mark, but for what that match
-- rejects itself: neither the answer of its base, nor what the test raises, nor what escapes.
structure Unmarked (host : Host σ) (mark : Nat) (base : Source) (test : Value)
    (description : Option String) (s : σ) : Prop where
  escaped : ∀ f, ((matching mark base test description).attempt host s).1 = .error f →
    f.rejectedBy? mark = none
  based   : ∀ reply, (base.attempt host s).1 = .ok reply → reply.rejectedBy? mark = none
  tested  : ∀ seen ∈ sightAt host base test s, ∀ e, seen.result = .error e →
    e.rejectedBy? mark = none

instance decidableUnmarked : Decidable (Unmarked host mark base test description s) :=
  decidable_of_iff
    ((∀ f, ((matching mark base test description).attempt host s).1 = .error f →
        f.rejectedBy? mark = none) ∧
      (∀ reply, (base.attempt host s).1 = .ok reply → reply.rejectedBy? mark = none) ∧
      ∀ seen ∈ sightAt host base test s, ∀ e, seen.result = .error e → e.rejectedBy? mark = none)
    ⟨fun ⟨escaped, based, tested⟩ => ⟨escaped, based, tested⟩,
      fun ⟨escaped, based, tested⟩ => ⟨escaped, based, tested⟩⟩

theorem Answers.rejectedBy?_eq {expected : String}
    (h : Answers host mark base test description s (sightAt host base test s) reply)
    (unmarked : Unmarked host mark base test description s)
    (described : describeMatch test description = .ok expected) :
    reply.rejectedBy? mark = (sightAt host base test s).bind Sight.rejected? := by
  generalize seen : sightAt host base test s = sight at h ⊢
  cases h
  case raised escaped _ unrejected =>
    rw [unrejected expected described]
    exact unmarked.escaped _ (congrArg Prod.fst escaped)
  case passed based _   => exact unmarked.based _ (congrArg Prod.fst based)
  case accepted based _ => exact unmarked.based _ (congrArg Prod.fst based)
  case rejected made =>
    exact (Fault.rejectedBy?_ofMismatch made).trans (Sight.rejected?_of_ofMismatch made).symm
  case failed           => exact unmarked.tested _ seen _ rfl

end Source

end BoundedWait
