import BoundedWait.Wait.Ensure

namespace BoundedWait

variable {σ : Type}

-- The rejections of an assertion are known by the mark of its match.
def Value.isMatch (mark : Nat) : Value → Bool
  | .source (.matching m _ _ _) => m == mark
  | _                           => false

def Fault.rejectedBy? (mark : Nat) (f : Fault) : Option Value :=
  match f.detail with
  | .mismatch value _ source _ =>
    if f.isA BuiltinClass.predicateMismatch && source.isMatch mark then some value else none
  | _ => none

theorem Fault.rejectedBy?_ofMismatch {value : Value} {expected : String} {mark : Nat}
    {base : Source} {test : Value} {description : Option String} {f : Fault}
    (h : ofMismatch value expected (.matching mark base test description) = .ok f) :
    f.rejectedBy? mark = some value := by
  simp only [ofMismatch, Detail.ofMismatch, Except.bind_eq_ok_iff] at h
  obtain ⟨_, ⟨_, _, _, _, made⟩, h⟩ := h
  cases made
  cases h
  simp [rejectedBy?, detail, Value.isMatch]
  rfl

def Value.rejectedBy? (mark : Nat) : Value → Option Value
  | .outcome o => o.cause?.bind (Fault.rejectedBy? mark)
  | _          => none

def Source.assertedTrial (host : Host σ) (mark : Nat) (s : Source) : Act σ Trial := do
  let reply ← s.resolve host
  return ⟨reply, reply.rejectedBy? mark⟩

-- An assertion looks at the cause of every answer before it shows the answer to the observer.
def Observer.watching (host : Host σ) (observe : Observer σ) : Observer σ :=
  fun n reply => do
    let _ ← host.causeOf reply
    observe n reply

def lastRejected? (trials : List Trial) : Option Value :=
  trials.findSome? (·.rejected)

theorem lastRejected?_cons (t : Trial) (trials : List Trial) :
    lastRejected? (t :: trials) = t.rejected.or (lastRejected? trials) := by
  simp [lastRejected?, List.findSome?]
  cases t.rejected <;> rfl

def unmetFault (base test : Value) (description : Option String) (cause : Fault)
    (attempts : Nat) (elapsed : Number) (rejected : Option Value) : Except Fault Fault := do
  let expected ← describeMatch test description
  let detail ← Detail.ofUnmet (.text expected) (.fault cause) (.int attempts) (.number elapsed)
    (.bool rejected.isSome) (rejected.getD .null) base
  return .mk 0 BuiltinClass.eventuallyAssertion detail none

def conclude (base : Source) (test : Value) (description : Option String) (finish : Finish Number)
    (trials : List Trial) : Except Fault Value :=
  let unmet (cause : Fault) : Except Fault Value := do
    let fault ← unmetFault (.source base) test description cause finish.attempts finish.elapsed
      (lastRejected? trials)
    throw (fault.raisedFrom cause)
  match finish.ending with
  | .resolved v => .ok v
  | .refused c  => unmet c
  | .expired c  => unmet c

def assertionPlan (host : Host σ) (timing : Timing σ) (observe : Observer σ) (policy : Policy)
    (mark : Nat) (asserted : Source) : Plan σ Number :=
  planFor host timing (observe.watching host) policy asserted (asserted.assertedTrial host mark)

-- Waits until a test holds for the value of a source and answers that value. Nothing else may have
-- the mark that the assertion is given for its match.
def assertEventually (host : Host σ) (timing : Timing σ) (observe : Observer σ) (fuel mark : Nat)
    (source test : Value) (description : Option String) (policy : Policy) :
    Act σ (Option Value) := do
  let base ← .of (Source.ofValue source)
  let asserted := Source.matching mark base test description
  match ← (assertionPlan host timing observe policy mark asserted).wait fuel with
  | some (finish, trials) =>
    return some (← .of (conclude base test description finish trials))
  | none => return none

def assertionRoutine (plan : Source → Plan σ Number) (mark : Nat) (source test : Value)
    (description : Option String) : Routine σ Number Value :=
  .enclosed <| .after (.of (Source.ofValue source)) fun base =>
    (plan (.matching mark base test description)).suspended.enclosed.awaiting
      fun (finish, trials) => .of (conclude base test description finish trials)

def assertEventuallySuspending (host : Host σ) (timing : Timing σ) (observe : Observer σ)
    (fuel mark : Nat) (source test : Value) (description : Option String) (policy : Policy) :
    Act σ (Option Value) :=
  (assertionRoutine (assertionPlan host timing observe policy mark) mark source test
    description).alone timing.pause fuel

end BoundedWait
