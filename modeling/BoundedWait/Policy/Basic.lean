import BoundedWait.Policy.Growth
import BoundedWait.Outcome
import BoundedWait.Value.Call

namespace BoundedWait

inductive PolicyError where
  | fixedNotPositive
  | initialNotPositive
  | multiplierBelowOne
  | capBelowInitial
  | negativeWait
  | pollNotPositive
  | pollNotUsable
  | retriesSuccess
  | intervalNotPositive (delay : Float) (attempt : Int)

namespace PolicyError

def cls : PolicyError → BuiltinClass
  | pollNotUsable => .typeError
  | _             => .valueError

def message : PolicyError → String
  | fixedNotPositive   => "seconds must be > 0"
  | initialNotPositive => "initial must be > 0"
  | multiplierBelowOne => "multiplier must be >= 1.0"
  | capBelowInitial    => "max_interval must be >= initial"
  | negativeWait       => "max_wait must be >= 0"
  | pollNotPositive    => "poll_interval must be > 0 when max_wait > 0"
  | pollNotUsable      => "poll_interval must be a number of seconds or a backoff callable"
  | retriesSuccess     => "retry_on cannot contain OutcomeKind.SUCCESS"
  | intervalNotPositive delay attempt =>
    "Backoff returned a non-positive interval (" ++ Decimal.ofFloat delay ++ ") for attempt " ++
      toString attempt

def fault (e : PolicyError) : Fault :=
  Fault.saying e.cls e.message

end PolicyError

inductive Interval where
  | seconds (n : Number)
  | fixed (n : Number)
  | exponential (b : Backoff Number)
  | custom (f : Value)

structure RetryKinds where
  retryable : Bool
  terminal  : Bool
deriving DecidableEq, Repr

namespace RetryKinds

def has (r : RetryKinds) : OutcomeKind → Bool
  | .success   => false
  | .retryable => r.retryable
  | .terminal  => r.terminal

def ofList (kinds : List OutcomeKind) : Except Fault RetryKinds :=
  if kinds.contains .success then .error PolicyError.retriesSuccess.fault
  else .ok ⟨kinds.contains .retryable, kinds.contains .terminal⟩

def toList (r : RetryKinds) : List OutcomeKind :=
  OutcomeKind.all.filter r.has

theorem has_success (r : RetryKinds) : r.has .success = false := rfl

theorem has_ofList {kinds : List OutcomeKind} {r : RetryKinds} (h : ofList kinds = .ok r)
    (k : OutcomeKind) : r.has k = kinds.contains k := by
  unfold ofList at h
  split at h
  case isTrue => cases h
  case isFalse hs =>
    cases h
    cases k <;> simp_all [has]

end RetryKinds

def Value.comparable (r : Relation) (bound : Number) : Value → Except Fault Number
  | .number n => .ok n
  | v         => .error (Misuse.unordered r.symbol v.typeName bound.typeName).fault

namespace Interval

def one : Number := .float 1 0

def ofFixed (seconds : Value) : Except Fault Interval := do
  let n ← seconds.comparable .le .zero
  if n.le .zero then throw PolicyError.fixedNotPositive.fault
  return fixed n

def ofExponential (initial multiplier cap : Value) : Except Fault Interval := do
  let first ← initial.comparable .le .zero
  if first.le .zero then throw PolicyError.initialNotPositive.fault
  let factor ← multiplier.comparable .lt one
  if factor.lt one then throw PolicyError.multiplierBelowOne.fault
  if cap.isNull then return exponential ⟨first, factor, none⟩
  let limit ← cap.comparable .lt first
  if limit.lt first then throw PolicyError.capBelowInitial.fault
  return exponential ⟨first, factor, some limit⟩

def ofValue (v : Value) : Except Fault Interval :=
  match v with
  | .number n => .ok (seconds n)
  | v         => if v.isCallable then .ok (custom v) else .error PolicyError.pollNotUsable.fault

def check (poll : Interval) (maxWait : Number) : Except Fault Unit :=
  match poll with
  | seconds n =>
    if Number.zero.lt maxWait && n.le .zero then .error PolicyError.pollNotPositive.fault
    else .ok ()
  | _ => .ok ()

def equals : Interval → Interval → Bool
  | seconds a, seconds b         => a.eq b || a.same b
  | fixed a, fixed b             => a.eq b || a.same b
  | exponential a, exponential b =>
    let numbersAgree (m n : Number) := m.eq n || m.same n
    numbersAgree a.initial b.initial && numbersAgree a.multiplier b.multiplier &&
      (match a.cap, b.cap with
      | none, none     => true
      | some m, some n => numbersAgree m n
      | _, _           => false)
  | custom f, custom g           => f.agrees g
  | _, _                         => false

end Interval

structure Policy where
  maxWait : Number
  poll    : Interval
  retryOn : RetryKinds

-- The parts of a policy that somebody has given; the pause is a value or a finished backoff.
structure PolicyFields where
  maxWait : Option Value
  poll    : Option (Value ⊕ Interval)
  retryOn : Option (List OutcomeKind)

namespace Policy

def defaultMaxWait : Number := .float 60 0

def defaultPoll : Number := .float 0.25 0

def defaultRetryOn : RetryKinds := ⟨true, false⟩

def make (maxWait : Value) (poll : Value ⊕ Interval) (retryOn : List OutcomeKind) :
    Except Fault Policy := do
  let limit ← maxWait.comparable .lt .zero
  if limit.lt .zero then throw PolicyError.negativeWait.fault
  let pause ← match poll with
    | .inl v => Interval.ofValue v
    | .inr i => pure i
  pause.check limit
  return ⟨limit, pause, ← RetryKinds.ofList retryOn⟩

def default : Policy :=
  ⟨defaultMaxWait, .seconds defaultPoll, defaultRetryOn⟩

def replace (p : Policy) (fields : PolicyFields) : Except Fault Policy :=
  make (fields.maxWait.getD (.number p.maxWait)) (fields.poll.getD (.inr p.poll))
    (fields.retryOn.getD p.retryOn.toList)

def ofFields (fields : PolicyFields) : Except Fault Policy :=
  default.replace fields

def noRetry : Except Fault Policy :=
  ofFields ⟨some (.float 0), none, none⟩

def within (seconds : Value) (poll : Option (Value ⊕ Interval)) : Except Fault Policy :=
  ofFields ⟨some seconds, poll, none⟩

def shouldRetry (p : Policy) (kind : OutcomeKind) : Bool :=
  p.retryOn.has kind

theorem not_shouldRetry_success (p : Policy) : p.shouldRetry .success = false := rfl

-- What a backoff returns has to be a positive number, or at least not one that is zero or less.
def positive (attempt : Int) (delay : Float) : Except Fault Number :=
  let n := Number.ofFloat delay
  if n.le .zero then .error (PolicyError.intervalNotPositive delay attempt).fault else .ok n

def intervalFor {σ : Type} [Elementary] (host : Host σ) (p : Policy) (attempt : Int) :
    Act σ Number :=
  match p.poll with
  | .seconds n     => .of (do return .ofFloat (← Number.checked n.toFloat))
  | .fixed n       => .of (do positive attempt (← Number.checked n.toFloat))
  | .exponential b => .of (do
      let delay ← b.delay attempt
      positive attempt (← Number.checked delay.toFloat))
  | .custom f      => do
    let result ← f.call host [.int attempt] []
    .of (do positive attempt (← result.toFloat))

def equals (p q : Policy) : Bool :=
  (p.maxWait.eq q.maxWait || p.maxWait.same q.maxWait) && p.poll.equals q.poll &&
    p.retryOn == q.retryOn

end Policy

def Interval.callDirectly {σ : Type} [Elementary] (host : Host σ) (i : Interval)
    (attempt : Int) : Act σ Value :=
  match i with
  | .seconds n     => .raise (Misuse.notCallable n.typeName).fault
  | .fixed n       => pure (.number n)
  | .exponential b => .of (do return .number (← b.delay attempt))
  | .custom f      => f.call host [.int attempt] []

end BoundedWait
