import BoundedWait.Invocation
import BoundedWait.Outcome

namespace BoundedWait

variable {σ : Type}

namespace Host

def succeeded (host : Host σ) (reply : Value) : Act σ Bool :=
  match reply with
  | .outcome o => pure o.isSuccess
  | v          => do .of (← host.member v "is_success").truth

def valueOf (host : Host σ) (reply : Value) : Act σ Value :=
  match reply with
  | .outcome o => pure o.value
  | v          => host.member v "value"

def causeOf (host : Host σ) (reply : Value) : Act σ Value :=
  match reply with
  | .outcome o => pure (.ofOption (o.cause?.map .fault))
  | v          => host.member v "cause"

end Host

def sourcesLog : String := "deferred.core.sources"

namespace Source

-- The declared type if a value is of another one. The check may raise, and nothing catches that.
def mistyped (host : Host σ) (type : Option String) (v : Value) : Except Fault (Option String) :=
  match type with
  | some t => do return if ← host.isOf v t then none else some t
  | none   => .ok none

def judgeAccess (host : Host σ) (self : Source) (type : Option String)
    (retryOn : List FaultClass) (noneIsRetryable : Bool) (result : Except Fault Value) :
    Except Fault Outcome :=
  match result with
  | .error e => .ok (classify e retryOn)
  | .ok v =>
    if v.isNull then
      if noneIsRetryable then do
        let shown ← self.inspect
        return .retryable (Fault.temporarily (shown ++ " returned None") self) .null
      else .ok (.success v)
    else do
      match ← mistyped host type v with
      | some t => do
        let shown ← self.inspect
        return .terminal (Fault.permanently
          (shown ++ " produced " ++ v.typeName ++ ", expected " ++ t) (.source self)) .null
      | none => return .success v

-- The entry of a dictionary, or the member of anything else.
def read (host : Host σ) (target : Value) (name : String) : Act σ Value :=
  match target with
  | .dict entries =>
    match Value.lookup? entries (.text name) with
    | some v => pure v
    | none   => .raise (Fault.missingKey (.text name))
  | v => host.member v name

def judgeRead (host : Host σ) (self : Source) (target : Value) (name : String)
    (type : Option String) (result : Except Fault Value) : Except Fault Outcome :=
  match result with
  | .error e =>
    if e.isA BuiltinClass.keyError || e.isA BuiltinClass.attributeError then do
      let shown ← target.inspect
      let cause := Fault.temporarily (Text.quoted name ++ " is not available on " ++ shown) self
      return .retryable (cause.raisedFrom e) .null
    else .ok (classify e [])
  | .ok v =>
    if v.isNull then .ok (.success v)
    else do
      match ← mistyped host type v with
      | some t =>
        return .terminal (Fault.permanently
          (Text.quoted name ++ " is " ++ v.typeName ++ ", expected " ++ t) (.source self)) .null
      | none => return .success v

-- What becomes of a value that a match has tested. A test that fails ends the attempt for good; its
-- failure is logged.
def judgeMatch (host : Host σ) (self : Source) (test : Value) (description : Option String)
    (reply value : Value) (result : Except Fault Bool) : Act σ Value :=
  match result with
  | .error e => do
    let expected ← .of (describeMatch test description)
    let shown    ← .of value.inspect
    let message  ← .of e.message
    host.log ⟨.debug, sourcesLog, "Predicate " ++ expected ++ " raised for " ++ shown ++ ": " ++
      message, []⟩
    return .outcome (.terminal e .null)
  | .ok true => return reply
  | .ok false => do
    let expected ← .of (describeMatch test description)
    let cause    ← .of (Fault.ofMismatch value expected self)
    return .outcome (.retryable cause .null)

def matchReply (host : Host σ) (self : Source) (test : Value) (description : Option String)
    (reply : Value) : Act σ Value := do
  if !(← host.succeeded reply) then return reply
  let value  ← host.valueOf reply
  let result ← (test.passes host value).caught
  judgeMatch host self test description reply value result

-- An operation may answer with an outcome or with a source, which is attempted in turn.
def followResult (follow : Source → Act σ Value) (invocation : Invocation)
    (result : Except Fault Value) : Act σ Value :=
  match result with
  | .error e         => return .outcome (classify e invocation.retryOn)
  | .ok (.outcome o) => return .outcome o
  | .ok (.source s)  => follow s
  | .ok v            => return .outcome (.success v)

-- One attempt, where `follow` attempts the sources that operations hand out.
def attemptWith (host : Host σ) (follow : Source → Act σ Value) : Source → Act σ Value
  | .direct v => return .outcome (.success v)
  | .absent _ => return .outcome (.success .null)
  | .accessor f type retryOn noneIsRetryable description => do
    let result ← (f.call host [] []).caught
    return .outcome (← .of (judgeAccess host
      (.accessor f type retryOn noneIsRetryable description) type retryOn noneIsRetryable result))
  | .invoking base invocation => do
    let reply ← base.attemptWith host follow
    if !(← host.succeeded reply) then return reply
    let result ← (do invocation.apply host (← host.valueOf reply) : Act σ Value).caught
    followResult follow invocation result
  | .reading base name type => do
    let reply ← base.attemptWith host follow
    if !(← host.succeeded reply) then return reply
    let target ← host.valueOf reply
    if target.isNull then
      let shown ← .of base.inspect
      return .outcome (.retryable
        (Fault.temporarily (shown ++ " resolved to None") (.reading base name type)) .null)
    let result ← (read host target name).caught
    return .outcome (← .of (judgeRead host (.reading base name type) target name type result))
  | .matching mark base test description => do
    let reply ← base.attemptWith host follow
    matchReply host (.matching mark base test description) test description reply
  | .custom id _ => host.attempt id

def attemptTo (host : Host σ) : Nat → Source → Act σ Value
  | 0         => fun _ => .raise Misuse.nestedTooDeep.fault
  | depth + 1 => attemptWith host (attemptTo host depth)

def attempt (host : Host σ) (s : Source) : Act σ Value :=
  s.attemptTo host (host.depth + 1)

theorem attempt_matching (host : Host σ) (mark : Nat) (base : Source) (test : Value)
    (description : Option String) :
    (Source.matching mark base test description).attempt host = (do
      let reply ← base.attempt host
      matchReply host (.matching mark base test description) test description reply) := by
  rw [attempt, attemptTo, attemptWith]
  rfl

theorem attempt_direct (host : Host σ) (v : Value) :
    (Source.direct v).attempt host = return .outcome (.success v) := rfl

theorem attempt_absent (host : Host σ) (type : Option String) :
    (Source.absent type).attempt host = return .outcome (.success .null) := rfl

end Source

end BoundedWait
