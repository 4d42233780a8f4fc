import BoundedWait.Fault.Misuse
import BoundedWait.Wait.Engine

namespace BoundedWait

namespace Fault

-- The fault that leaves a suspended computation. One that would be taken for its end is replaced.
def leavingSuspended (f : Fault) : Fault :=
  if f.isA BuiltinClass.stopIteration then
    (Fault.saying .runtimeError "coroutine raised StopIteration").raisedFrom f
  else f

theorem leavingSuspended_of_isA {f : Fault} (h : f.isA BuiltinClass.stopIteration = true) :
    f.leavingSuspended =
      (saying .runtimeError "coroutine raised StopIteration").raisedFrom f := by
  simp [leavingSuspended, h]

theorem leavingSuspended_of_not_isA {f : Fault} (h : f.isA BuiltinClass.stopIteration = false) :
    f.leavingSuspended = f := by
  simp [leavingSuspended, h]

end Fault

-- What running a routine up to its next pause has led to. It has ended, or it sleeps at some place.
inductive Turn (τ κ α : Type) where
  | ended (result : α)
  | asleep (delay : τ) (place : κ)

def Turn.within {τ κ ι α : Type} (place : κ → ι) : Turn τ κ α → Turn τ ι α
  | ended x    => .ended x
  | asleep d k => .asleep d (place k)

-- `resume` goes on from a place when the pause there is over, and `abandon` when it has failed
-- instead; a routine does not sleep again after that.
structure Routine (σ τ α : Type) where
  {Place : Type}
  start   : Place
  resume  : Place → Act σ (Turn τ Place α)
  abandon : Place → Fault → Act σ α

namespace Routine

variable {σ τ α β γ : Type}

def after (setup : Act σ γ) (next : γ → Routine σ τ α) : Routine σ τ α where
  Place := Option ((x : γ) × (next x).Place)
  start := none
  resume
    | none => do
      let x ← setup
      return (← (next x).resume (next x).start).within fun place => some ⟨x, place⟩
    | some ⟨x, place⟩ => do
      return (← (next x).resume place).within fun place => some ⟨x, place⟩
  abandon
    | none, f            => .raise f
    | some ⟨x, place⟩, f => (next x).abandon place f

def awaiting (r : Routine σ τ α) (rest : α → Act σ β) : Routine σ τ β where
  start := r.start
  resume place := do
    match ← r.resume place with
    | .ended x            => return .ended (← rest x)
    | .asleep delay place => return .asleep delay place
  abandon place f := do rest (← r.abandon place f)

def enclosed (r : Routine σ τ α) : Routine σ τ α where
  start           := r.start
  resume place    := (r.resume place).leaving Fault.leavingSuspended
  abandon place f := (r.abandon place f).leaving Fault.leavingSuspended

def aloneFrom (r : Routine σ τ α) (pause : τ → Act σ Unit) : Nat → r.Place → Act σ (Option α)
  | 0, _ => return none
  | fuel + 1, place => do
    match ← r.resume place with
    | .ended x            => return some x
    | .asleep delay place => do
      match ← (pause delay).guarded with
      | .ok ()   => r.aloneFrom pause fuel place
      | .error f => return some (← r.abandon place f)

def alone (r : Routine σ τ α) (pause : τ → Act σ Unit) (fuel : Nat) : Act σ (Option α) :=
  r.aloneFrom pause fuel r.start

theorem aloneFrom_succ (r : Routine σ τ α) (pause : τ → Act σ Unit) (fuel : Nat)
    (place : r.Place) :
    r.aloneFrom pause (fuel + 1) place = (do
      match ← r.resume place with
      | .ended x            => return some x
      | .asleep delay place => do
        match ← (pause delay).guarded with
        | .ok ()   => r.aloneFrom pause fuel place
        | .error f => return some (← r.abandon place f)) := rfl

end Routine

namespace Plan

variable {σ τ : Type} [Span τ]

-- The attempts of a wait, which sleeps between them. Nothing is done about a pause that fails.
def loop (p : Plan σ τ) (pending : Pending τ) : Routine σ τ (Finish τ × List Trial) where
  Place := Pending τ × List Trial
  start := (pending, [])
  resume
    | (pending, trials) => do
      let (trial, progress) ← p.step pending
      match progress with
      | .done finish         => return .ended (finish, trial :: trials)
      | .again delay pending => return .asleep delay (pending, trial :: trials)
  abandon _ f := .raise f

def suspended (p : Plan σ τ) : Routine σ τ (Finish τ × List Trial) :=
  .after p.begin p.loop

end Plan

end BoundedWait
