import BoundedWait.Wait.Ensure

namespace BoundedWait

variable {σ : Type}

structure Scheduler (σ : Type) where
  now    : Act σ Number
  moveTo : Number → Act σ Unit
  allow  : (sleeps : Nat) → Act σ Unit

structure Member (σ : Type) where
  source : Source
  policy : Policy
  plan   : Plan σ Number

-- A wait that has not started or that sleeps. `order` tells when it was put to sleep, and `resume`
-- is what it does on waking, before its next attempt.
structure Sleeper (σ : Type) where
  wake   : Number
  order  : Nat
  index  : Nat
  resume : Act σ (Member σ × Pending Number)

namespace Sleeper

def before (a b : Sleeper σ) : Bool :=
  a.wake.lt b.wake || (a.wake.eq b.wake && a.order < b.order)

-- A wait that has not started yet begins when it wakes first.
def starting (wake : Number) (index : Nat) (make : Act σ (Member σ)) : Sleeper σ where
  wake   := wake
  order  := index
  index  := index
  resume := do
    let m ← make
    return (m, ← m.plan.begin)

end Sleeper

def earliest? : List (Sleeper σ) → Option (Sleeper σ × List (Sleeper σ))
  | []      => none
  | s :: ss =>
    match earliest? ss with
    | none           => some (s, [])
    | some (t, rest) => if t.before s then some (t, s :: rest) else some (s, t :: rest)

theorem earliest?_eq_none_iff (ss : List (Sleeper σ)) : earliest? ss = none ↔ ss = [] := by
  cases ss
  case nil => simp [earliest?]
  case cons s ss =>
    simp only [earliest?, reduceCtorEq, iff_false]
    split
    case h_1 => simp
    case h_2 => split <;> simp

-- Runs the sleepers until none is left, for at most `fuel` rounds, and collects their reports.
-- `order` numbers the sleeps.
def interleave (clock : Scheduler σ) :
    Nat → Nat → List (Sleeper σ) → List (Nat × Report) → Act σ (Option (List (Nat × Report)))
  | 0, _, _, _ => return none
  | fuel + 1, order, sleepers, reports =>
    match earliest? sleepers with
    | none => return some reports
    | some (sleeper, rest) => do
      let now ← clock.now
      clock.moveTo (if now.lt sleeper.wake then sleeper.wake else now)
      clock.allow order
      let round : Act σ (Member σ × Progress Number) := do
        let (member, pending) ← sleeper.resume
        return (member, (← member.plan.step pending).2)
      match ← round.leaving Fault.leavingSuspended with
      | (member, .done finish) =>
        let report := Report.ofFinish member.source member.policy finish
        interleave clock fuel order rest ((sleeper.index, report) :: reports)
      | (member, .again delay pending) => do
        let wake ← .of (Number.checked ((← clock.now).add delay))
        let asleep := ⟨wake, order, sleeper.index, pure (member, pending)⟩
        interleave clock fuel (order + 1) (asleep :: rest) reports

end BoundedWait
