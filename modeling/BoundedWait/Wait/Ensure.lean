import BoundedWait.Wait.Routine
import BoundedWait.Policy.Basic
import BoundedWait.Source.Basic

namespace BoundedWait

instance : Span Number where
  sub a b := Number.checked (a.sub b)
  spent n := n.le .zero
  shorter := Number.min

structure Timing (σ : Type) where
  clock : Act σ Number
  pause : Number → Act σ Unit

abbrev Observer (σ : Type) := Nat → Value → Act σ Unit

def Observer.silent {σ : Type} : Observer σ :=
  fun _ _ => pure ()

def waitLog : String := "deferred.core.ensure"

namespace Note

-- The line for the log. Making it fails when the source, the cause or a number cannot be shown.
def entry (source : Source) : Note Number → Except Fault LogEntry
  | resolved attempts elapsed => do
    let shown ← source.inspect
    let count ← (Value.int attempts).display
    let time  ← (Value.number elapsed).toMilliseconds
    return ⟨.debug, waitLog,
      "Resolved " ++ shown ++ " after " ++ count ++ " attempts in " ++ time ++ "s",
      [("attempts", .int attempts), ("elapsed", .number elapsed)]⟩
  | givingUp attempts elapsed kind cause => do
    let shown  ← source.inspect
    let count  ← (Value.int attempts).display
    let reason ← cause.message
    return ⟨.info, waitLog,
      "Giving up on " ++ shown ++ " after attempt " ++ count ++ ": " ++ kind.name ++
        " failure: " ++ reason,
      [("attempts", .int attempts), ("elapsed", .number elapsed), ("kind", .text kind.name)]⟩
  | expired attempts elapsed maxWait cause => do
    let limit  ← (Value.number maxWait).display
    let shown  ← source.inspect
    let count  ← (Value.int attempts).display
    let reason ← cause.message
    return ⟨.warning, waitLog,
      "Deadline of " ++ limit ++ "s exceeded waiting for " ++ shown ++ " after " ++ count ++
        " attempts: " ++ reason,
      [("attempts", .int attempts), ("elapsed", .number elapsed), ("max_wait", .number maxWait)]⟩
  | retrying attempt delay remaining cause => do
    let shown  ← source.inspect
    let count  ← (Value.int attempt).display
    let time   ← (Value.number delay).toMilliseconds
    let reason ← cause.message
    return ⟨.debug, waitLog,
      shown ++ " unavailable (attempt " ++ count ++ "), retrying in " ++ time ++ "s: " ++ reason,
      [("attempt", .int attempt), ("next_delay", .number delay),
       ("remaining", .number remaining)]⟩

end Note

variable {σ : Type}

namespace Host

-- How an answer looks to a wait. An answer that is no outcome has no kind either.
def judge (host : Host σ) (reply : Value) : Act σ Judgement := do
  if ← host.succeeded reply then return .resolved
  match reply with
  | .outcome (.success _)     => return .resolved
  | .outcome (.retryable c _) => return .failed .retryable c
  | .outcome (.terminal c _)  => return .failed .terminal c
  | v => do
    let kind ← host.member v "kind"
    let _    ← .of kind.digest
    .raise (Misuse.noAttribute kind.typeName "value").fault

end Host

def planFor (host : Host σ) (timing : Timing σ) (observe : Observer σ) (policy : Policy)
    (source : Source) (attempt : Act σ Trial) : Plan σ Number where
  maxWait    := policy.maxWait
  retries    := policy.shouldRetry
  interval n := policy.intervalFor host n
  clock      := timing.clock
  pause      := timing.pause
  attempt    := attempt
  judge      := host.judge
  valueOf    := host.valueOf
  observe    := observe
  report n   := do host.log (← .of (n.entry source))

def Source.trial (host : Host σ) (s : Source) : Act σ Trial := do
  return ⟨← s.resolve host, none⟩

structure Report where
  ending   : Ending
  attempts : Nat
  elapsed  : Number
  source   : Source
  maxWait  : Number

namespace Report

def ofFinish (source : Source) (policy : Policy) (f : Finish Number) : Report :=
  ⟨f.ending, f.attempts, f.elapsed, source, policy.maxWait⟩

def succeeded (r : Report) : Bool :=
  match r.ending with
  | .resolved _ => true
  | _           => false

def value (r : Report) : Value :=
  match r.ending with
  | .resolved v => v
  | _           => .null

def lastCause? (r : Report) : Option Fault :=
  match r.ending with
  | .resolved _ => none
  | .refused c  => some c
  | .expired c  => some c

def deadlineExceeded (r : Report) : Bool :=
  match r.ending with
  | .expired _ => true
  | _          => false

def error (r : Report) : Except Fault Fault :=
  match r.ending with
  | .resolved _ => .error (Fault.saying .valueError "A successful ensure result has no error")
  | .refused c => do
    let detail ← Detail.ofFailure (.fault c) (.int r.attempts) (.number r.elapsed)
      (.source r.source) .null
    return .mk 0 BuiltinClass.ensureFailed detail none
  | .expired c => do
    let detail ← Detail.ofDeadline (.fault c) (.int r.attempts) (.number r.elapsed)
      (.source r.source) (.number r.maxWait)
    return .mk 0 BuiltinClass.deadlineExceeded detail none

def unwrap (r : Report) : Except Fault Value :=
  match r.lastCause? with
  | none   => .ok r.value
  | some c => do throw ((← r.error).raisedFrom c)

theorem unwrap_resolved (r : Report) (v : Value) (h : r.ending = .resolved v) :
    r.unwrap = .ok v := by
  simp [unwrap, lastCause?, value, h]

theorem error_resolved (r : Report) (v : Value) (h : r.ending = .resolved v) :
    r.error = .error (Fault.saying .valueError "A successful ensure result has no error") := by
  simp [error, h]

end Report

-- Waits for a source and reports how it went. There is no report if the wait takes more than
-- `fuel` attempts.
def ensureResult (host : Host σ) (timing : Timing σ) (observe : Observer σ) (fuel : Nat)
    (source : Value) (policy : Policy) : Act σ (Option Report) := do
  let s ← .of (Source.ofValue source)
  let finish ← (planFor host timing observe policy s (s.trial host)).wait fuel
  return finish.map fun (f, _) => Report.ofFinish s policy f

def ensure (host : Host σ) (timing : Timing σ) (observe : Observer σ) (fuel : Nat)
    (source : Value) (policy : Policy) : Act σ (Option Value) := do
  match ← ensureResult host timing observe fuel source policy with
  | some r => return some (← .of r.unwrap)
  | none   => return none

def ensuredSource (accessor : Value) (retryOn : List FaultClass) (noneIsRetryable : Bool) :
    Source :=
  .accessor accessor none retryOn noneIsRetryable none

-- The same waits, run as routines that are suspended during their pauses. Each of them awaits the
-- one that it is built on.

def resultRoutine (plan : Source → Plan σ Number) (source : Value) (policy : Policy) :
    Routine σ Number Report :=
  .enclosed <| .after (.of (Source.ofValue source)) fun s =>
    (plan s).suspended.awaiting fun (f, _) => return Report.ofFinish s policy f

def valueRoutine (plan : Source → Plan σ Number) (source : Value) (policy : Policy) :
    Routine σ Number Value :=
  .enclosed <| (resultRoutine plan source policy).awaiting fun r => .of r.unwrap

def ensureResultSuspending (host : Host σ) (timing : Timing σ) (observe : Observer σ) (fuel : Nat)
    (source : Value) (policy : Policy) : Act σ (Option Report) :=
  (resultRoutine (fun s => planFor host timing observe policy s (s.trial host)) source
    policy).alone timing.pause fuel

def ensureSuspending (host : Host σ) (timing : Timing σ) (observe : Observer σ) (fuel : Nat)
    (source : Value) (policy : Policy) : Act σ (Option Value) :=
  (valueRoutine (fun s => planFor host timing observe policy s (s.trial host)) source
    policy).alone timing.pause fuel

end BoundedWait
