import BoundedWait.Proofs.Wait.Assertion
import BoundedWait.Proofs.Wait.Resilience
import BoundedWait.Wait.Routine

namespace BoundedWait

theorem Fault.leavingSuspended_leavingSuspended (f : Fault) :
    f.leavingSuspended.leavingSuspended = f.leavingSuspended := by
  cases ends : f.isA BuiltinClass.stopIteration
  case false => rw [leavingSuspended_of_not_isA ends, leavingSuspended_of_not_isA ends]
  case true =>
    rw [leavingSuspended_of_isA ends]
    exact leavingSuspended_of_not_isA rfl

namespace Act

variable {σ α β : Type} {border : Fault → Fault}

theorem leaving_bind (a : Act σ α) (k : α → Act σ β) :
    (a >>= k).leaving border = a.leaving border >>= fun x => (k x).leaving border := by
  funext s
  rw [bind_apply]
  rcases h : a s with ⟨f | x, s'⟩
  all_goals simp [leaving, h]

theorem leaving_guarded (a : Act σ α) : a.guarded.leaving border = a.guarded := rfl

theorem leaving_leaving (twice : ∀ f, border (border f) = border f) (a : Act σ α) :
    (a.leaving border).leaving border = a.leaving border := by
  funext s
  rcases h : a s with ⟨f | x, s'⟩
  all_goals simp [leaving, h, twice]

theorem guarded_bind {a : Act σ α} {k : Except Fault α → Act σ β}
    (raised : ∀ f, k (.error f) = .raise f) :
    a.guarded >>= k = a >>= fun x => k (.ok x) := by
  funext s
  simp only [bind_apply, guarded]
  rcases a s with ⟨f | x, s'⟩
  case error => simp only [raised]; rfl
  case ok    => rfl

end Act

namespace Routine

variable {σ τ α β γ : Type} (r : Routine σ τ α) (pause : τ → Act σ Unit)

theorem aloneFrom_enclosed (fuel : Nat) (place : r.Place) :
    r.enclosed.aloneFrom pause fuel place =
      (r.aloneFrom pause fuel place).leaving Fault.leavingSuspended := by
  induction fuel generalizing place
  case zero => rfl
  case succ fuel ih =>
    rw [r.aloneFrom_succ, r.enclosed.aloneFrom_succ pause fuel place, Act.leaving_bind]
    refine bind_congr fun turn => ?_
    cases turn
    case ended x => rfl
    case asleep delay place =>
      -- A fault of the pause is thrown into the routine, and what comes out of that crosses the
      -- border.
      rw [Act.leaving_bind, Act.leaving_guarded]
      refine bind_congr fun answer => ?_
      cases answer
      case ok    => exact ih place
      case error => rw [Act.leaving_bind]; rfl

theorem alone_enclosed (fuel : Nat) :
    r.enclosed.alone pause fuel = (r.alone pause fuel).leaving Fault.leavingSuspended :=
  r.aloneFrom_enclosed pause fuel r.start

theorem aloneFrom_awaiting (rest : α → Act σ β) (fuel : Nat) (place : r.Place) :
    (r.awaiting rest).aloneFrom pause fuel place = (do
      match ← r.aloneFrom pause fuel place with
      | some x => return some (← rest x)
      | none   => return none) := by
  induction fuel generalizing place
  case zero => rfl
  case succ fuel ih =>
    rw [r.aloneFrom_succ, (r.awaiting rest).aloneFrom_succ pause fuel place]
    simp only [awaiting, bind_assoc]
    refine bind_congr fun turn => ?_
    cases turn
    case ended x => simp
    case asleep delay place =>
      simp only [pure_bind, bind_assoc]
      refine bind_congr fun answer => ?_
      cases answer
      case ok    => exact ih place
      case error => simp

theorem alone_awaiting (rest : α → Act σ β) (fuel : Nat) :
    (r.awaiting rest).alone pause fuel = (do
      match ← r.alone pause fuel with
      | some x => return some (← rest x)
      | none   => return none) :=
  r.aloneFrom_awaiting pause rest fuel r.start

variable (setup : Act σ γ) (next : γ → Routine σ τ α)

theorem aloneFrom_after (fuel : Nat) (x : γ) (place : (next x).Place) :
    (after setup next).aloneFrom pause fuel (some ⟨x, place⟩) =
      (next x).aloneFrom pause fuel place := by
  induction fuel generalizing place
  case zero => rfl
  case succ fuel ih =>
    rw [(next x).aloneFrom_succ, (after setup next).aloneFrom_succ pause fuel (some ⟨x, place⟩)]
    simp only [after, bind_assoc, pure_bind]
    refine bind_congr fun turn => ?_
    cases turn
    case ended x => rfl
    case asleep delay place =>
      refine bind_congr fun answer => ?_
      cases answer
      case ok    => exact ih place
      case error => rfl

theorem alone_after (fuel : Nat) :
    (after setup next).alone pause (fuel + 1) = (do
      let x ← setup
      (next x).alone pause (fuel + 1)) := by
  rw [alone, (after setup next).aloneFrom_succ]
  simp only [after, bind_assoc, pure_bind]
  refine bind_congr fun x => ?_
  rw [alone, (next x).aloneFrom_succ]
  refine bind_congr fun turn => ?_
  cases turn
  case ended x => rfl
  case asleep delay place =>
    refine bind_congr fun answer => ?_
    cases answer
    case ok    => exact aloneFrom_after pause setup next fuel x place
    case error => rfl

end Routine

namespace Plan

variable {σ τ : Type} [Span τ] (p : Plan σ τ)

theorem aloneFrom_loop (first pending : Pending τ) (trials : List Trial) (fuel : Nat) :
    (p.loop first).aloneFrom p.pause fuel (pending, trials) = p.run fuel pending trials := by
  induction fuel generalizing pending trials
  case zero => rfl
  case succ fuel ih =>
    rw [run_succ, (p.loop first).aloneFrom_succ p.pause fuel (pending, trials)]
    simp only [loop, bind_assoc]
    refine bind_congr ?_
    rintro ⟨trial, progress⟩
    cases progress
    case done finish => simp
    case again delay pending =>
      simp only [pure_bind]
      rw [Act.guarded_bind fun f => rfl]
      exact bind_congr fun _ => ih pending (trial :: trials)

theorem alone_suspended (fuel : Nat) :
    p.suspended.alone p.pause (fuel + 1) = p.wait (fuel + 1) := by
  rw [suspended, Routine.alone_after, wait]
  exact bind_congr fun pending => p.aloneFrom_loop pending pending [] (fuel + 1)

end Plan

variable {σ α : Type}

def resultBy (plan : Source → Plan σ Number) (fuel : Nat) (source : Value) (policy : Policy) :
    Act σ (Option Report) := do
  let s ← .of (Source.ofValue source)
  let finish ← (plan s).wait fuel
  return finish.map fun (f, _) => Report.ofFinish s policy f

def valueBy (plan : Source → Plan σ Number) (fuel : Nat) (source : Value) (policy : Policy) :
    Act σ (Option Value) := do
  match ← resultBy plan fuel source policy with
  | some r => return some (← .of r.unwrap)
  | none   => return none

def assertionBy (plan : Source → Plan σ Number) (fuel mark : Nat) (source test : Value)
    (description : Option String) : Act σ (Option Value) := do
  let base ← .of (Source.ofValue source)
  match ← (plan (.matching mark base test description)).wait fuel with
  | some (finish, trials) => return some (← .of (conclude base test description finish trials))
  | none                  => return none

section

variable {plan : Source → Plan σ Number} {pause : Number → Act σ Unit}
         (paused : ∀ s, (plan s).pause = pause)
include paused

theorem alone_resultRoutine (fuel : Nat) (source : Value) (policy : Policy) :
    (resultRoutine plan source policy).alone pause (fuel + 1) =
      (resultBy plan (fuel + 1) source policy).leaving Fault.leavingSuspended := by
  rw [resultRoutine, Routine.alone_enclosed, Routine.alone_after, resultBy]
  refine congrArg _ (bind_congr fun s => ?_)
  rw [Routine.alone_awaiting, ← paused s, Plan.alone_suspended]
  refine bind_congr fun ended => ?_
  cases ended <;> rfl

theorem alone_valueRoutine (fuel : Nat) (source : Value) (policy : Policy) :
    (valueRoutine plan source policy).alone pause (fuel + 1) =
      (valueBy plan (fuel + 1) source policy).leaving Fault.leavingSuspended := by
  -- The routine that is awaited has a border of its own, and what leaves it does not change at a
  -- second one.
  rw [valueRoutine, Routine.alone_enclosed, Routine.alone_awaiting, alone_resultRoutine paused,
    Act.leaving_bind, Act.leaving_leaving Fault.leavingSuspended_leavingSuspended,
    ← Act.leaving_bind]
  refine congrArg _ (bind_congr fun report => ?_)
  cases report <;> rfl

theorem alone_assertionRoutine (fuel mark : Nat) (source test : Value)
    (description : Option String) :
    (assertionRoutine plan mark source test description).alone pause (fuel + 1) =
      (assertionBy plan (fuel + 1) mark source test description).leaving
        Fault.leavingSuspended := by
  rw [assertionRoutine, Routine.alone_enclosed, Routine.alone_after, assertionBy,
    Act.leaving_bind, Act.leaving_bind]
  refine bind_congr fun base => ?_
  rw [Routine.alone_awaiting, Routine.alone_enclosed, Act.leaving_bind,
    Act.leaving_leaving Fault.leavingSuspended_leavingSuspended, ← Act.leaving_bind, ← paused,
    Plan.alone_suspended]
  refine congrArg _ (bind_congr fun ended => ?_)
  cases ended <;> rfl

end

def Except.suspended : Except Fault α → Except Fault α
  | .ok x    => .ok x
  | .error f =>
    if f.isA BuiltinClass.stopIteration then
      .error ((Fault.saying .runtimeError "coroutine raised StopIteration").raisedFrom f)
    else .error f

theorem Act.leaving_apply (a : Act σ α) (s : σ) :
    a.leaving Fault.leavingSuspended s = (Except.suspended (a s).1, (a s).2) := by
  rcases h : a s with ⟨f | x, t⟩
  case ok    => simp [leaving, h, Except.suspended]
  case error =>
    cases ends : f.isA BuiltinClass.stopIteration
    case false => simp [leaving, h, Except.suspended, ends, Fault.leavingSuspended_of_not_isA ends]
    case true  => simp [leaving, h, Except.suspended, ends, Fault.leavingSuspended_of_isA ends]

-- The first computation, which is suspended during its pauses, asks for the same things in the same
-- order as the second one and gets the same answers; it leaves the same state, and ends as the
-- second one does. Beside both stands what they do if they keep a journal.
def InStep (suspended plain : Act σ α)
    (suspended' plain' : Act (σ × List (Plan.Event Number)) α) : Prop :=
  ∀ s, ∃ r t journal,
    plain s = (r, t) ∧ suspended s = (Except.suspended r, t) ∧
    plain' (s, []) = (r, (t, journal)) ∧ suspended' (s, []) = (Except.suspended r, (t, journal))

theorem InStep.of_leaving {suspended plain : Act σ α}
    {suspended' plain' : Act (σ × List (Plan.Event Number)) α} (mirrors : plain'.Mirrors plain)
    (h : suspended = plain.leaving Fault.leavingSuspended)
    (h' : suspended' = plain'.leaving Fault.leavingSuspended) :
    InStep suspended plain suspended' plain' := by
  intro s
  have recorded := mirrors.result_eq s []
  refine ⟨(plain s).1, (plain s).2, (plain' (s, [])).2.2, rfl, ?_, recorded, ?_⟩
  case refine_1 => rw [h, Act.leaving_apply]
  case refine_2 => rw [h', Act.leaving_apply, recorded]

variable (host : Host σ) (timing : Timing σ) (observe : Observer σ) (policy : Policy)

def Timing.noted (timing : Timing σ) : Timing (σ × List (Plan.Event Number)) where
  clock   := Act.noted .clock timing.clock
  pause d := (timing.pause d).noted (.pause d)

def ensureRecorded (fuel : Nat) (source : Value) :
    Act (σ × List (Plan.Event Number)) (Option Value) := do
  match ← ensureResultRecorded host timing observe fuel source policy with
  | some r => return some (← .of r.unwrap)
  | none   => return none

def recordedPlan (s : Source) : Plan (σ × List (Plan.Event Number)) Number :=
  (planFor host timing observe policy s (s.trial host)).recorded

def ensureResultSuspendingRecorded (fuel : Nat) (source : Value) :
    Act (σ × List (Plan.Event Number)) (Option Report) :=
  (resultRoutine (recordedPlan host timing observe policy) source policy).alone timing.noted.pause
    fuel

def ensureSuspendingRecorded (fuel : Nat) (source : Value) :
    Act (σ × List (Plan.Event Number)) (Option Value) :=
  (valueRoutine (recordedPlan host timing observe policy) source policy).alone timing.noted.pause
    fuel

def assertEventuallySuspendingRecorded (fuel mark : Nat) (source test : Value)
    (description : Option String) : Act (σ × List (Plan.Event Number)) (Option Value) :=
  (assertionRoutine (fun s => (assertionPlan host timing observe policy mark s).recorded) mark
    source test description).alone timing.noted.pause fuel

variable {host timing observe policy}

theorem ensureResult_inStep (fuel : Nat) (source : Value) :
    InStep (ensureResultSuspending host timing observe (fuel + 1) source policy)
      (ensureResult host timing observe (fuel + 1) source policy)
      (ensureResultSuspendingRecorded host timing observe policy (fuel + 1) source)
      (ensureResultRecorded host timing observe (fuel + 1) source policy) := by
  have paused (s : Source) :
      (planFor host timing observe policy s (s.trial host)).pause = timing.pause := rfl
  have paused' (s : Source) :
      (recordedPlan host timing observe policy s).pause = timing.noted.pause := rfl
  exact .of_leaving mirrors_ensureResult (alone_resultRoutine paused fuel source policy)
    (alone_resultRoutine paused' fuel source policy)

theorem ensure_inStep (fuel : Nat) (source : Value) :
    InStep (ensureSuspending host timing observe (fuel + 1) source policy)
      (ensure host timing observe (fuel + 1) source policy)
      (ensureSuspendingRecorded host timing observe policy (fuel + 1) source)
      (ensureRecorded host timing observe policy (fuel + 1) source) := by
  have mirrors : (ensureRecorded host timing observe policy (fuel + 1) source).Mirrors
      (ensure host timing observe (fuel + 1) source policy) := by
    refine .bind mirrors_ensureResult fun report => ?_
    cases report
    case none => exact .of_pure _
    case some => exact .bind (.of_of _) fun _ => .of_pure _
  have paused (s : Source) :
      (planFor host timing observe policy s (s.trial host)).pause = timing.pause := rfl
  have paused' (s : Source) :
      (recordedPlan host timing observe policy s).pause = timing.noted.pause := rfl
  exact .of_leaving mirrors (alone_valueRoutine paused fuel source policy)
    (alone_valueRoutine paused' fuel source policy)

theorem assertEventually_inStep (fuel mark : Nat) (source test : Value)
    (description : Option String) :
    InStep
      (assertEventuallySuspending host timing observe (fuel + 1) mark source test description
        policy)
      (assertEventually host timing observe (fuel + 1) mark source test description policy)
      (assertEventuallySuspendingRecorded host timing observe policy (fuel + 1) mark source test
        description)
      (assertEventuallyRecorded host timing observe (fuel + 1) mark source test description
        policy) := by
  have paused (s : Source) :
      (assertionPlan host timing observe policy mark s).pause = timing.pause := rfl
  have paused' (s : Source) :
      (assertionPlan host timing observe policy mark s).recorded.pause = timing.noted.pause := rfl
  exact .of_leaving mirrors_assertEventually
    (alone_assertionRoutine paused fuel mark source test description)
    (alone_assertionRoutine paused' fuel mark source test description)

-- A wait that is suspended during its pauses differs from one that blocks in nothing but the fault
-- that replaces one which would be taken for the end of a routine.
theorem suspending_keeps_step (host : Host σ) (timing : Timing σ) (observe : Observer σ)
    (policy : Policy) (fuel mark : Nat) (source test : Value) (description : Option String) :
    InStep (ensureResultSuspending host timing observe (fuel + 1) source policy)
      (ensureResult host timing observe (fuel + 1) source policy)
      (ensureResultSuspendingRecorded host timing observe policy (fuel + 1) source)
      (ensureResultRecorded host timing observe (fuel + 1) source policy) ∧
    InStep (ensureSuspending host timing observe (fuel + 1) source policy)
      (ensure host timing observe (fuel + 1) source policy)
      (ensureSuspendingRecorded host timing observe policy (fuel + 1) source)
      (ensureRecorded host timing observe policy (fuel + 1) source) ∧
    InStep
      (assertEventuallySuspending host timing observe (fuel + 1) mark source test description
        policy)
      (assertEventually host timing observe (fuel + 1) mark source test description policy)
      (assertEventuallySuspendingRecorded host timing observe policy (fuel + 1) mark source test
        description)
      (assertEventuallyRecorded host timing observe (fuel + 1) mark source test description
        policy) :=
  ⟨ensureResult_inStep fuel source, ensure_inStep fuel source,
    assertEventually_inStep fuel mark source test description⟩

def Fault.noMore : Fault :=
  .saying .stopIteration "no more"

def Observer.ending : Observer Unit :=
  fun _ _ => .raise .noMore

theorem suspending_replaces : ∃ f,
    (ensureResult .broken .still .ending 1 (.source (.direct .null)) .brief ()).1 =
      .error .noMore ∧
    (ensureResultSuspending .broken .still .ending 1 (.source (.direct .null)) .brief ()).1 =
      .error f ∧
    f.cls ≠ Fault.noMore.cls ∧ f.cause = some .noMore :=
  ⟨_, rfl, rfl, by decide, rfl⟩

end BoundedWait
