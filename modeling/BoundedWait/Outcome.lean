import BoundedWait.Act
import BoundedWait.Fault.Misuse
import BoundedWait.Value.Equality

namespace BoundedWait

inductive OutcomeKind where
  | success
  | retryable
  | terminal
deriving DecidableEq, Repr

namespace OutcomeKind

def name : OutcomeKind → String
  | success   => "success"
  | retryable => "retryable"
  | terminal  => "terminal"

def all : List OutcomeKind :=
  [success, retryable, terminal]

def ofName? (s : String) : Option OutcomeKind :=
  all.find? (·.name == s)

end OutcomeKind

def Value.outcome? : Value → Option Outcome
  | .outcome o => some o
  | _          => none

theorem Value.outcome?_eq_some_iff {v : Value} {o : Outcome} :
    v.outcome? = some o ↔ v = .outcome o := by
  cases v <;> simp [outcome?]

namespace Outcome

def kind : Outcome → OutcomeKind
  | success _     => .success
  | retryable _ _ => .retryable
  | terminal _ _  => .terminal

def value : Outcome → Value
  | success v     => v
  | retryable _ v => v
  | terminal _ v  => v

def cause? : Outcome → Option Fault
  | success _     => none
  | retryable c _ => some c
  | terminal c _  => some c

def isSuccess (o : Outcome) : Bool :=
  o.kind = .success

theorem isSuccess_iff (o : Outcome) : o.isSuccess = true ↔ o.cause? = none := by
  cases o <;> simp [isSuccess, kind, cause?]

def make (kind : OutcomeKind) (value : Value) (cause? : Option Fault) : Except Fault Outcome :=
  match kind, cause? with
  | .success, none      => .ok (success value)
  | .success, some _    =>
    .error (Fault.saying .valueError "A successful outcome cannot carry a cause")
  | .retryable, some c  => .ok (retryable c value)
  | .terminal, some c   => .ok (terminal c value)
  | kind, none          =>
    .error (Fault.saying .valueError ("A " ++ kind.name ++ " outcome requires a cause"))

theorem make_parts {kind : OutcomeKind} {value : Value} {cause? : Option Fault} {o : Outcome}
    (h : make kind value cause? = .ok o) :
    o.kind = kind ∧ o.value = value ∧ o.cause? = cause? := by
  cases kind <;> cases cause? <;> simp [make] at h <;> subst h <;> exact ⟨rfl, rfl, rfl⟩

def unwrap (o : Outcome) : Except Fault Value :=
  match o.cause? with
  | some c => .error c
  | none   => .ok o.value

end Outcome

-- Which failure an exception stands for: what is permanently unavailable is never retried, what is
-- temporarily unavailable always, and other exceptions only if they are listed.
def classify (f : Fault) (retryOn : List FaultClass) : Outcome :=
  if f.isA BuiltinClass.permanentlyUnavailable then .terminal f .null
  else if f.isA BuiltinClass.temporarilyUnavailable then .retryable f .null
  else if f.isAny retryOn then .retryable f .null
  else .terminal f .null

theorem classify_cause (f : Fault) (retryOn : List FaultClass) :
    (classify f retryOn).cause? = some f := by
  unfold classify
  repeat' split
  all_goals rfl

theorem classify_kind (f : Fault) (retryOn : List FaultClass) :
    (classify f retryOn).kind = .retryable ↔
      f.isA BuiltinClass.permanentlyUnavailable = false ∧
      (f.isA BuiltinClass.temporarilyUnavailable = true ∨ f.isAny retryOn = true) := by
  unfold classify
  repeat' split
  all_goals simp_all [Outcome.kind]

-- Applies a function to the value of a success. An exception that the function raises makes a
-- failure, and failures pass through.
def Outcome.map {σ : Type} (f : Value → Act σ Value) : Outcome → Act σ Outcome
  | .success v => do
    match ← (f v).caught with
    | .ok w    => return .success w
    | .error e => return classify e []
  | o => pure o

theorem Outcome.map_eq_self {σ : Type} (f : Value → Act σ Value) {o : Outcome}
    (h : o.isSuccess = false) : o.map f = pure o := by
  cases o
  case success => simp [isSuccess, kind] at h
  all_goals rfl

end BoundedWait
