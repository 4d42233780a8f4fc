import BoundedWait.Proofs.Alignment
import BoundedWait.Proofs.Predicate.ShortCircuit
import BoundedWait.Proofs.Source.Contacts
import BoundedWait.Proofs.Source.Sight

namespace BoundedWait

open Act (Aligned Alike)

def Fault.Rejects (value : Value) (f : Fault) : Prop :=
  ∃ expected source, Fault.ofMismatch value expected source = .ok f

-- A value that can be rejected by one match can be rejected by any other.
theorem Fault.alike_ofMismatch (value : Value) (expected expected' : String)
    (source source' : Source) :
    Alike (fun f g => f.Rejects value ∧ g.Rejects value) (ofMismatch value expected source)
      (ofMismatch value expected' source') := by
  rcases shown : value.inspect with e | s
  case error =>
    simp only [ofMismatch, Detail.ofMismatch, shown]
    exact .error e
  case ok =>
    obtain ⟨f, made⟩  := exists_ofMismatch expected source shown
    obtain ⟨g, made'⟩ := exists_ofMismatch expected' source' shown
    rw [made, made']
    exact .ok ⟨⟨_, _, made⟩, ⟨_, _, made'⟩⟩

-- Faults that are the same, but for the words of rejections.
inductive Fault.Akin : Fault → Fault → Prop
  | refl (f : Fault) : Akin f f
  | rejections {f g : Fault} (value : Value) (hf : f.Rejects value) (hg : g.Rejects value) :
      Akin f g

inductive Value.Akin : Value → Value → Prop
  | refl (v : Value) : Akin v v
  | failures {f g : Fault} (h : f.Akin g) :
      Akin (.outcome (.retryable f .null)) (.outcome (.retryable g .null))

variable {σ : Type} {E : σ → σ → Prop} {host : Host σ}

structure LogEntry.Alike (e d : LogEntry) : Prop where
  level  : e.level = d.level
  logger : e.logger = d.logger
  extras : e.extras = d.extras

-- A world that does the same in states that are alike, and that does not tell the words of its log
-- apart.
structure Host.Indifferent (E : σ → σ → Prop) (host : Host σ) : Prop extends
    Host.Parallel (fun α => Aligned E (@Eq α)) host host where
  worded {entry entry' : LogEntry} (alike : entry.Alike entry') :
    Aligned E Eq (host.log entry) (host.log entry')

theorem Host.Indifferent.recorded (world : host.Indifferent E) :
    host.recorded.Indifferent (Aligned.Journaled E Eq) where
  toCongruence           := Aligned.congruence
  calls f args keywords  := (world.calls f args keywords).noted fun _ _ _ => rfl
  reads target name      := (world.reads target name).noted fun _ _ _ => rfl
  attempts id            := (world.attempts id).noted fun _ _ _ => rfl
  logs entry             := (world.logs entry).beside
  depth                  := rfl
  types                  := rfl
  worded alike           := (world.worded alike).beside

namespace Source

def matchingBoth (base : Source) (test : Predicate) : Source :=
  .matching 0 base (.predicate test) none

def matchingInTurn (base : Source) (p : Predicate) (q : Value) : Source :=
  .matching 0 (.matching 0 base (.predicate p) none) q none

theorem describe_predicate (p : Predicate) :
    describeMatch (.predicate p) none = .ok p.description := rfl

theorem matchReply_failure {o : Outcome} (failed : o.isSuccess = false) (host : Host σ)
    (self : Source) (test : Value) (description : Option String) :
    matchReply host self test description (.outcome o) = return .outcome o := by
  simp [matchReply, Host.succeeded, failed]

theorem matchReply_judgeMatch (result : Except Fault Bool) (unaccepted : result ≠ .ok true)
    (host : Host σ) (self self' : Source) (test test' : Value)
    (description description' : Option String) (reply value : Value) :
    (do
      let answer ← judgeMatch host self test description reply value result
      matchReply host self' test' description' answer) =
        judgeMatch host self test description reply value result := by
  rcases result with e | _ | _
  case ok.true  => exact absurd rfl unaccepted
  case ok.false =>
    simp only [judgeMatch, bind_assoc, pure_bind, matchReply_failure (o := .retryable _ .null) rfl]
  case error =>
    simp only [judgeMatch, bind_assoc, pure_bind, matchReply_failure (o := .terminal _ .null) rfl]

-- Looking into an answer that is no foreign object leaves no trace, and a match either fails on it,
-- passes it on or tests its value.
theorem matchReply_cases {reply : Value} (plain : ∀ o, reply ≠ .object o) (host : Host σ) :
    (∃ f, ∀ self test description, matchReply host self test description reply = .of (.error f)) ∨
    (∀ self test description, matchReply host self test description reply = return reply) ∨
    ∃ v, ∀ self test description, matchReply host self test description reply = (do
      judgeMatch host self test description reply v (← (test.passes host v).caught)) := by
  obtain ⟨succeeded, looked⟩ : ∃ r, host.succeeded reply = .of r := by
    cases reply
    case object o  => exact absurd rfl (plain o)
    case outcome o => exact ⟨.ok o.isSuccess, rfl⟩
    all_goals
      simp only [Host.succeeded, Host.member]
      generalize Value.member _ _ = r
      cases r <;> exact ⟨_, rfl⟩
  obtain ⟨value, taken⟩ : ∃ r, host.valueOf reply = .of r := by
    cases reply
    case object o  => exact absurd rfl (plain o)
    case outcome o => exact ⟨.ok o.value, rfl⟩
    all_goals exact ⟨_, rfl⟩
  simp only [matchReply, looked, taken]
  rcases succeeded with f | _ | _
  case error    => exact .inl ⟨f, fun _ _ _ => rfl⟩
  case ok.false => exact .inr (.inl fun _ _ _ => rfl)
  case ok.true =>
    rcases value with f | v
    case error => exact .inl ⟨f, fun _ _ _ => rfl⟩
    case ok    => exact .inr (.inr ⟨v, fun _ _ _ => rfl⟩)

theorem matchReply_success (host : Host σ) (self : Source) (test : Value)
    (description : Option String) (v : Value) :
    matchReply host self test description (.outcome (.success v)) = (do
      judgeMatch host self test description (.outcome (.success v)) v
        (← (test.passes host v).caught)) := rfl

end Source

def Value.passesBoth (host : Host σ) (p q v : Value) : Act σ Bool := do
  if ← p.passes host v then q.passes host v else return false

theorem Predicate.passes_both {id : Nat} {p r : Predicate} {q : Value}
    (made : p.both id q = .ok r) (host : Host σ) (v : Value) :
    (Value.predicate r).passes host v = Value.passesBoth host (.predicate p) q v := by
  rw [Value.passes_predicate, holds_both made, Value.passesBoth, Value.passes_predicate]
  exact congrArg (_ >>= ·) (funext fun answer => by cases answer <;> rfl)

namespace Source

-- What a source answers that only lets through such values of another one as pass a test. What
-- ends the other one goes through as well. For a value that does not pass the answer is a rejection
-- of that value, and what the test raises is a failure for good.
structure Filters (src : Source) (host : Host σ) (base : Source) (pass : Value → Act σ Bool) :
    Prop where
  broken {s s' : σ} {f : Fault} : base.attempt host s = (.error f, s') →
    src.attempt host s = (.error f, s')
  failed {s s' : σ} {o : Outcome} : base.attempt host s = (.ok (.outcome o), s') →
    o.isSuccess = false → src.attempt host s = (.ok (.outcome o), s')
  accepted {s s₁ s' : σ} {v : Value} : base.attempt host s = (.ok (.outcome (.success v)), s₁) →
    pass v s₁ = (.ok true, s') → src.attempt host s = (.ok (.outcome (.success v)), s')
  rejected {s s₁ s' : σ} {v : Value} {shown : String} :
    base.attempt host s = (.ok (.outcome (.success v)), s₁) → pass v s₁ = (.ok false, s') →
    v.inspect = .ok shown →
    ∃ f, src.attempt host s = (.ok (.outcome (.retryable f .null)), s') ∧ f.Rejects v
  raised {s s₁ s₂ : σ} {v : Value} {e : Fault} {shown told : String} :
    base.attempt host s = (.ok (.outcome (.success v)), s₁) → pass v s₁ = (.error e, s₂) →
    e.isException = true → v.inspect = .ok shown → e.message = .ok told →
    (∀ entry, (host.log entry s₂).1 = .ok ()) →
    ∃ s', src.attempt host s = (.ok (.outcome (.terminal e .null)), s')
  interrupted {s s₁ s' : σ} {v : Value} {f : Fault} :
    base.attempt host s = (.ok (.outcome (.success v)), s₁) → pass v s₁ = (.error f, s') →
    f.isException = false → src.attempt host s = (.error f, s')

theorem filters_matching {mark : Nat} {test : Value} {description : Option String}
    {expected : String} (said : describeMatch test description = .ok expected) (host : Host σ)
    (base : Source) :
    (matching mark base test description).Filters host base (test.passes host) where
  broken based := by rw [attempt_matching, Act.bind_apply, based]
  failed based failed := by
    simp only [attempt_matching, Act.bind_apply, based, matchReply_failure failed, Act.pure_apply]
  accepted based passed := by
    simp only [attempt_matching, Act.bind_apply, based, matchReply_success, Act.caught_ok passed]
    rfl
  rejected based refused shown := by
    obtain ⟨f, made⟩ := Fault.exists_ofMismatch expected (matching mark base test description) shown
    refine ⟨f, ?_, _, _, made⟩
    simp only [attempt_matching, Act.bind_apply, based, matchReply_success, Act.caught_ok refused,
      judgeMatch, said, made, Act.of_apply, Act.pure_apply]
  raised based raised exception shown told logs := by
    simp only [attempt_matching, Act.bind_apply, based, matchReply_success,
      Act.caught_exception raised exception, judgeMatch, said, shown, told, Act.of_apply]
    split
    case h_1 => exact ⟨_, rfl⟩
    case h_2 refused =>
      have written := (congrArg Prod.fst refused).symm.trans (logs _)
      cases written
  interrupted based raised fatal := by
    simp only [attempt_matching, Act.bind_apply, based, matchReply_success,
      Act.caught_of_not_isException raised fatal]

theorem Filters.trans {src mid base : Source} {first second : Value → Act σ Bool}
    (outer : src.Filters host mid second) (inner : mid.Filters host base first) :
    src.Filters host base fun v => do if ← first v then second v else return false where
  broken based        := outer.broken (inner.broken based)
  failed based failed := outer.failed (inner.failed based failed) failed
  accepted based passed := by
    have ⟨answer, _, one, other⟩ := Act.bind_eq_ok_iff.mp passed
    cases answer
    case false => cases other
    case true  => exact outer.accepted (inner.accepted based one) other
  rejected based refused shown := by
    have ⟨answer, _, one, other⟩ := Act.bind_eq_ok_iff.mp refused
    -- What the first test holds for and the second one does not passes the inner match, and is
    -- rejected by the outer one; the inner match rejects the rest.
    cases answer
    case true => exact outer.rejected (inner.accepted based one) other shown
    case false =>
      cases other
      have ⟨f, answered, rejects⟩ := inner.rejected based one shown
      exact ⟨f, outer.failed answered rfl, rejects⟩
  raised based raised exception shown told logs := by
    cases Act.bind_eq_error_iff.mp raised
    case inl one =>
      have ⟨_, answered⟩ := inner.raised based one exception shown told logs
      exact ⟨_, outer.failed answered rfl⟩
    case inr later =>
      have ⟨answer, _, one, other⟩ := later
      cases answer
      case false => cases other
      case true  => exact outer.raised (inner.accepted based one) other exception shown told logs
  interrupted based raised fatal := by
    cases Act.bind_eq_error_iff.mp raised
    case inl one => exact outer.broken (inner.interrupted based one fatal)
    case inr later =>
      have ⟨answer, _, one, other⟩ := later
      cases answer
      case false => cases other
      case true  => exact outer.interrupted (inner.accepted based one) other fatal

variable {id : Nat} {p r : Predicate} {q : Value}

theorem filters_both (made : p.both id q = .ok r) (host : Host σ) (base : Source) :
    (base.matchingBoth r).Filters host base (Value.passesBoth host (.predicate p) q) := by
  rw [← funext (Predicate.passes_both made host)]
  exact filters_matching (describe_predicate r) host base

theorem filters_in_turn (made : p.both id q = .ok r) (host : Host σ) (base : Source) :
    (base.matchingInTurn p q).Filters host base (Value.passesBoth host (.predicate p) q) := by
  have ⟨_, (said : describeMatch q none = .ok _), _⟩ := Except.bind_eq_ok_iff.mp made
  exact (filters_matching said host _).trans (filters_matching (describe_predicate p) host base)

end Source

namespace Host.Indifferent

variable {self self' : Source} {test test' q : Value} {description description' : Option String}
         {expected expected' : String}

theorem judgeMatch (world : host.Indifferent E)
    (said : describeMatch test description = .ok expected)
    (said' : describeMatch test' description' = .ok expected') (reply value : Value)
    (result : Except Fault Bool) :
    Aligned E Value.Akin (Source.judgeMatch host self test description reply value result)
      (Source.judgeMatch host self' test' description' reply value result) := by
  have described : Aligned E (fun _ _ => True) (.of (describeMatch test description))
      (.of (describeMatch test' description')) := by
    rw [said, said']
    exact .of (.ok trivial)
  rcases result with e | _ | _
  case ok.true => exact .pure (.refl reply)
  case ok.false =>
    refine described.bind fun _ _ _ => ?_
    refine .bind (.of (Fault.alike_ofMismatch value _ _ _ _)) fun f g both => ?_
    exact .pure (.failures (.rejections value both.1 both.2))
  case error =>
    refine described.bind fun _ _ _ => ?_
    refine .bind (.of (.refl value.inspect)) fun _ _ _ => ?_
    refine .bind (.of (.refl e.message)) fun _ _ _ => ?_
    exact .bind (world.worded ⟨rfl, rfl, rfl⟩) fun _ _ _ => .pure (.refl _)

variable {id : Nat} {p r : Predicate} {base : Source}

theorem matchReply (world : host.Indifferent E) (made : p.both id q = .ok r) {reply : Value}
    (plain : ∀ o, reply ≠ .object o) (outer inner whole : Source) :
    Aligned E Value.Akin (Source.matchReply host whole (.predicate r) none reply) (do
      let answer ← Source.matchReply host inner (.predicate p) none reply
      Source.matchReply host outer q none answer) := by
  have ⟨expected, (said : describeMatch q none = .ok expected), _⟩ :=
    Except.bind_eq_ok_iff.mp made
  have saidWhole := Source.describe_predicate r
  have saidFirst := Source.describe_predicate p
  rcases Source.matchReply_cases plain host with ⟨f, fails⟩ | passes | ⟨v, tests⟩
  case inl =>
    rw [fails, fails]
    exact .of (.error f)
  case inr.inl =>
    rw [passes, passes, pure_bind, passes]
    exact .pure (.refl reply)
  case inr.inr =>
    rw [tests, tests, bind_assoc, Predicate.passes_both made, Value.passesBoth, Act.caught_bind,
      bind_assoc]
    refine .bind (world.caught (world.passes _ v)) fun first _ same => ?_
    subst same
    -- If the first test does not hold, its match answers with a failure, which the outer match
    -- hands on.
    rcases first with e | _ | _
    case error =>
      rw [Source.matchReply_judgeMatch (.error e) nofun, pure_bind]
      exact world.judgeMatch saidWhole saidFirst reply v _
    case ok.false =>
      rw [Source.matchReply_judgeMatch (.ok false) nofun]
      show Aligned E Value.Akin
        (Source.judgeMatch host whole (.predicate r) none reply v (.ok false)) _
      exact world.judgeMatch saidWhole saidFirst reply v _
    case ok.true =>
      have accepted : Source.judgeMatch host inner (.predicate p) none reply v (.ok true) =
          return reply := rfl
      rw [accepted, pure_bind, tests]
      refine .bind (world.caught (world.passes q v)) fun second _ same => ?_
      subst same
      exact world.judgeMatch saidWhole said reply v second

theorem attempt_both_in_turn (world : host.Indifferent E) (made : p.both id q = .ok r)
    (answered : ∀ s t, E s t → ∀ reply t', base.attempt host t = (.ok reply, t') →
      ∀ o, reply ≠ .object o) :
    Aligned E Value.Akin ((base.matchingBoth r).attempt host)
      ((base.matchingInTurn p q).attempt host) := by
  rw [Source.matchingBoth, Source.matchingInTurn, Source.attempt_matching,
    Source.attempt_matching, Source.attempt_matching, bind_assoc]
  refine ((world.attempt base).knowing answered).bind fun reply _ both => ?_
  have ⟨same, plain⟩ := both
  subst same
  exact world.matchReply made plain _ _ _

end Host.Indifferent

end BoundedWait
