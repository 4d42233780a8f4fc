import BoundedWait.Outcome

namespace BoundedWait

-- What a wait needs to know about time. `sub` is the time that passed, `spent` says that no time is
-- left, and `shorter` is the first of two times unless the second is shorter.
class Span (τ : Type) where
  sub     : τ → τ → Except Fault τ
  spent   : τ → Bool
  shorter : τ → τ → τ

inductive Judgement where
  | resolved
  | failed (kind : OutcomeKind) (cause : Fault)

-- One attempt, with the value that an asserted test rejected in it, if it did.
structure Trial where
  reply    : Value
  rejected : Option Value

structure Round (τ : Type) where
  trial   : Trial
  reading : τ
  elapsed : τ

inductive Note (τ : Type) where
  | resolved (attempts : Nat) (elapsed : τ)
  | givingUp (attempts : Nat) (elapsed : τ) (kind : OutcomeKind) (cause : Fault)
  | expired (attempts : Nat) (elapsed maxWait : τ) (cause : Fault)
  | retrying (attempt : Nat) (delay remaining : τ) (cause : Fault)

structure Plan (σ τ : Type) where
  maxWait  : τ
  retries  : OutcomeKind → Bool
  interval : Nat → Act σ τ
  clock    : Act σ τ
  pause    : τ → Act σ Unit
  attempt  : Act σ Trial
  judge    : Value → Act σ Judgement
  valueOf  : Value → Act σ Value
  observe  : Nat → Value → Act σ Unit
  report   : Note τ → Act σ Unit

inductive Ending where
  | resolved (value : Value)
  | refused (cause : Fault)
  | expired (cause : Fault)

structure Finish (τ : Type) where
  ending   : Ending
  attempts : Nat
  elapsed  : τ

structure Pending (τ : Type) where
  start    : τ
  attempts : Nat

inductive Progress (τ : Type) where
  | done (finish : Finish τ)
  | again (delay : τ) (pending : Pending τ)

namespace Plan

variable {σ τ : Type} [Span τ]

def begin (p : Plan σ τ) : Act σ (Pending τ) := do
  return ⟨← p.clock, 0⟩

def look (p : Plan σ τ) (start : τ) (count : Nat) : Act σ (Round τ × Judgement) := do
  let trial   ← p.attempt
  let reading ← p.clock
  let elapsed ← .of (Span.sub reading start)
  p.observe count trial.reply
  return (⟨trial, reading, elapsed⟩, ← p.judge trial.reply)

-- A success is worth a line in the log if it took more than one attempt.
def announce (p : Plan σ τ) (count : Nat) (elapsed : τ) : Act σ Unit :=
  if 1 < count then p.report (.resolved count elapsed) else pure ()

def afterSuccess (p : Plan σ τ) (count : Nat) (r : Round τ) : Act σ (Progress τ) := do
  p.announce count r.elapsed
  return .done ⟨.resolved (← p.valueOf r.trial.reply), count, r.elapsed⟩

def afterFailure (p : Plan σ τ) (pending : Pending τ) (elapsed : τ) (kind : OutcomeKind)
    (cause : Fault) : Act σ (Progress τ) := do
  if !p.retries kind then
    p.report (.givingUp pending.attempts elapsed kind cause)
    return .done ⟨.refused cause, pending.attempts, elapsed⟩
  let remaining ← .of (Span.sub p.maxWait elapsed)
  if Span.spent remaining then
    p.report (.expired pending.attempts elapsed p.maxWait cause)
    return .done ⟨.expired cause, pending.attempts, elapsed⟩
  let delay := Span.shorter (← p.interval pending.attempts) remaining
  p.report (.retrying pending.attempts delay remaining cause)
  return .again delay pending

def settle (p : Plan σ τ) (pending : Pending τ) (r : Round τ) : Judgement → Act σ (Progress τ)
  | .resolved          => p.afterSuccess pending.attempts r
  | .failed kind cause => p.afterFailure pending r.elapsed kind cause

def step (p : Plan σ τ) (pending : Pending τ) : Act σ (Trial × Progress τ) := do
  let count := pending.attempts + 1
  let (round, judgement) ← p.look pending.start count
  return (round.trial, ← p.settle ⟨pending.start, count⟩ round judgement)

-- Attempts and pauses in turn, for at most `fuel` attempts. The trials made so far come before the
-- new ones, the latest first. There is no result if the wait is not over by then.
def run (p : Plan σ τ) : Nat → Pending τ → List Trial → Act σ (Option (Finish τ × List Trial))
  | 0, _, _ => return none
  | fuel + 1, pending, trials => do
    let (trial, progress) ← p.step pending
    match progress with
    | .done finish         => return some (finish, trial :: trials)
    | .again delay pending => do
      p.pause delay
      p.run fuel pending (trial :: trials)

def wait (p : Plan σ τ) (fuel : Nat) : Act σ (Option (Finish τ × List Trial)) := do
  p.run fuel (← p.begin) []

theorem run_zero (p : Plan σ τ) (pending : Pending τ) (trials : List Trial) :
    p.run 0 pending trials = return none := rfl

theorem run_succ (p : Plan σ τ) (fuel : Nat) (pending : Pending τ) (trials : List Trial) :
    p.run (fuel + 1) pending trials = (do
      let (trial, progress) ← p.step pending
      match progress with
      | .done finish         => return some (finish, trial :: trials)
      | .again delay pending => do
        p.pause delay
        p.run fuel pending (trial :: trials)) := rfl

end Plan

end BoundedWait
