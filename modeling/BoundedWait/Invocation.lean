import BoundedWait.Value.Call
import BoundedWait.Fault.Report
import BoundedWait.Text.Identifier

namespace BoundedWait

namespace Invocation

-- Sets a named argument; the last one of a name wins and keeps the place of the first.
def named (keywords : List (String × Value)) : List (String × Value) :=
  keywords.foldl (fun acc (k, v) =>
    if acc.any (·.1 == k) then acc.map fun (k', v') => if k' == k then (k', v) else (k', v')
    else acc ++ [(k, v)]) []

def make (selector : Value) (args : List Value) (keywords : List (String × Value))
    (retryOn : List FaultClass) : Except Fault Invocation := do
  match selector with
  | .text name =>
    if Text.isIdentifier name then return mk (.member name) args (named keywords) retryOn
    else throw (Fault.saying .valueError ("Invalid selector name: " ++ Text.quoted name))
  | f =>
    if f.isCallable then return mk (.operation f) args (named keywords) retryOn
    else throw (Fault.saying .typeError
      ("Selector must be a name or a callable, got " ++ f.typeName))

theorem make_member (name : String) (args : List Value) (keywords : List (String × Value))
    (retryOn : List FaultClass) :
    (∃ i, make (.text name) args keywords retryOn = .ok i) ↔ Text.isIdentifier name = true := by
  unfold make
  split
  case h_1 n h =>
    cases h
    split <;> simp_all [pure, Except.pure, throw, throwThe, MonadExceptOf.throw]
  case h_2 h => exact absurd rfl (h name)

variable {σ : Type}

-- What is missing is malformed, and stays so.
def missingMember (target : Value) (name : String) (cause : Fault) : Fault :=
  (Fault.permanently (target.typeName ++ " has no attribute " ++ Text.quoted name)
    .null).raisedFrom cause

def notOperation (target : Value) (name : String) : Fault :=
  Fault.permanently
    (target.typeName ++ "." ++ name ++ " is not callable but arguments were given") .null

-- Applies the operation to a value. A member that is no operation is the result itself, provided
-- that there are no arguments.
def apply (host : Host σ) (i : Invocation) (target : Value) : Act σ Value :=
  match i.selector with
  | .operation f => f.call host (target :: i.args) i.keywords
  | .member name => do
    match ← (host.member target name).caught with
    | .error e =>
      if e.isA BuiltinClass.attributeError then .raise (missingMember target name e) else .raise e
    | .ok m =>
      if m.isCallable then m.call host i.args i.keywords
      else if i.args.isEmpty && i.keywords.isEmpty then return m
      else .raise (notOperation target name)

end Invocation

end BoundedWait
