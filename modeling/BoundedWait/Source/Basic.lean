import BoundedWait.Source.Attempt

namespace BoundedWait

variable {σ : Type}

namespace Source

def declaredType? : Source → Option String
  | direct v              => if v.isNull then none else some v.typeName
  | absent type           => type
  | accessor _ type _ _ _ => type
  | invoking _ _          => none
  | reading _ _ type      => type
  | matching _ base _ _   => base.declaredType?
  | custom _ _            => none

theorem declaredType?_matching (mark : Nat) (base : Source) (test : Value)
    (description : Option String) :
    (matching mark base test description).declaredType? = base.declaredType? := by
  rw [declaredType?]

def ofValue (v : Value) : Except Fault Source :=
  match v with
  | .source s => .ok s
  | v =>
    if v.isCallable then .ok (.accessor v none [] false none)
    else .error (Fault.saying .typeError
      ("Expected a DeferredSource or a zero-argument callable, got " ++ v.typeName))

-- Runs an attempt at a source. An exception that escapes from it is logged and replaced.
def guardAttempt {α : Type} (host : Host σ) (self : Value) (replacement : Fault → α)
    (attempt : Act σ α) : Act σ α := do
  match ← attempt.caught with
  | .ok reply => return reply
  | .error e => do
    let shown   ← .of self.inspect
    let message ← .of e.message
    host.log ⟨.error, sourcesLog,
      shown ++ " raised from attempt_resolve instead of returning an outcome: " ++ message, []⟩
    return replacement e

end Source

namespace Value

def attempt (host : Host σ) (v : Value) : Act σ Value :=
  match v with
  | .source s => s.attempt host
  | v         => do (← host.member v "attempt_resolve").call host [] []

def resolve (host : Host σ) (v : Value) : Act σ Value :=
  Source.guardAttempt host v (fun e => .outcome (.terminal e .null)) (v.attempt host)

theorem resolve_direct (host : Host σ) (v : Value) :
    (Value.source (.direct v)).resolve host = return .outcome (.success v) := rfl

end Value

namespace Source

def resolve (host : Host σ) (s : Source) : Act σ Value :=
  (Value.source s).resolve host

end Source

end BoundedWait
