import BoundedWait.Proofs.Source.Guard
import BoundedWait.Proofs.Source.Stack

namespace BoundedWait

structure Outcome.Classified (o : Outcome) (e : Fault) (retryOn : List FaultClass) : Prop where
  cause     : o.cause? = some e
  retryable : o.kind = .retryable ↔ e.isA BuiltinClass.permanentlyUnavailable = false ∧
    (e.isA BuiltinClass.temporarilyUnavailable = true ∨ e.isAny retryOn = true)
  terminal  : o.kind = .terminal ↔ o.kind ≠ .retryable

theorem classified (e : Fault) (retryOn : List FaultClass) :
    (classify e retryOn).Classified e retryOn where
  cause     := classify_cause e retryOn
  retryable := classify_kind e retryOn
  terminal  := by
    unfold classify
    repeat' split
    all_goals simp [Outcome.kind]

theorem classify_of_permanent {e : Fault} (h : e.isA BuiltinClass.permanentlyUnavailable = true)
    (retryOn : List FaultClass) : classify e retryOn = .terminal e .null := by
  simp [classify, h]

variable {σ : Type} {host : Host σ} {s s' s₁ : σ} {e : Fault} {v : Value} {base : Source}
         {i : Invocation} {name : String}

theorem Outcome.map_of_error {f : Value → Act σ Value} (raised : f v s = (.error e, s'))
    (exception : e.isException = true) :
    (Outcome.success v).map f s = (.ok (classify e []), s') := by
  simp [Outcome.map, Act.caught_exception raised exception]

namespace Invocation

theorem apply_operation {f : Value} (selected : i.selector = .operation f) :
    i.apply host v s = f.call host (v :: i.args) i.keywords s := by
  simp [apply, selected]

theorem apply_unread (selected : i.selector = .member name)
    (unread : host.member v name s = (.error e, s')) (exception : e.isException = true) :
    i.apply host v s =
      (.error (if e.isA BuiltinClass.attributeError then missingMember v name e else e), s') := by
  simp only [apply, selected, Act.bind_apply, Act.caught_exception unread exception]
  split <;> rfl

theorem apply_method {m : Value} (selected : i.selector = .member name)
    (found : host.member v name s = (.ok m, s')) (callable : m.isCallable = true) :
    i.apply host v s = m.call host i.args i.keywords s' := by
  simp [apply, selected, Act.caught_ok found, callable]

theorem apply_uncallable {m : Value} (selected : i.selector = .member name)
    (found : host.member v name s = (.ok m, s')) (callable : m.isCallable = false)
    (arguments : i.args ≠ [] ∨ i.keywords ≠ []) :
    i.apply host v s = (.error (notOperation v name), s') := by
  have bare : (i.args.isEmpty && i.keywords.isEmpty) = false := by
    cases arguments
    case inl h => simp [h]
    case inr h => simp [h]
  simp only [apply, selected, Act.bind_apply, Act.caught_ok found, callable, bare,
    Bool.false_eq_true, if_false]
  rfl

end Invocation

namespace Source

def Gives (host : Host σ) (src : Source) (s : σ) (v : Value) (s' : σ) : Prop :=
  ∃ reply s₁ s₂, src.attempt host s = (.ok reply, s₁) ∧
    host.succeeded reply s₁ = (.ok true, s₂) ∧ host.valueOf reply s₂ = (.ok v, s')

theorem gives_of_success {src : Source}
    (h : src.attempt host s = (.ok (.outcome (.success v)), s')) : src.Gives host s v s' :=
  ⟨_, _, _, h, rfl, rfl⟩

theorem Gives.attempt_on (given : base.Gives host s v s₁) (layer : Layer) :
    ∃ reply, (layer.on base).attempt host s = layer.work host base reply v s₁ := by
  have ⟨reply, t, u, answered, succeeded, valued⟩ := given
  refine ⟨reply, ?_⟩
  rw [Layer.attempt_on, Act.bind_apply, answered]
  cases layer
  case invoking i => simp [Layer.receive, Layer.work, succeeded, Act.caught, valued]
  all_goals simp [Layer.receive, succeeded, valued]

theorem Gives.attempt_invoking (given : base.Gives host s v s₁)
    (applied : i.apply host v s₁ = (.error e, s')) (exception : e.isException = true) :
    (Source.invoking base i).attempt host s = (.ok (.outcome (classify e i.retryOn)), s') := by
  have ⟨_, worked⟩ := given.attempt_on (.invoking i)
  refine worked.trans ?_
  simp [Layer.work, Act.caught_exception applied exception, followResult]

theorem Gives.attempt_reading {type : Option String} (given : base.Gives host s v s₁)
    (owned : v.isNull = false) (unread : read host v name s₁ = (.error e, s'))
    (exception : e.isException = true) :
    (Source.reading base name type).attempt host s =
      ((judgeRead host (.reading base name type) v name type (.error e)).map Value.outcome,
        s') := by
  have ⟨_, worked⟩ := given.attempt_on (.reading name type)
  refine worked.trans ?_
  simp only [Layer.work, owned, Bool.false_eq_true, if_false, Act.bind_apply,
    Act.caught_exception unread exception]
  cases judgeRead host (.reading base name type) v name type (.error e) <;> rfl

theorem Gives.attempt_matching {mark : Nat} {test : Value} {description : Option String}
    (given : base.Gives host s v s₁) (raised : test.passes host v s₁ = (.error e, s'))
    (exception : e.isException = true) :
    ∃ reply, (Source.matching mark base test description).attempt host s =
      judgeMatch host (.matching mark base test description) test description reply v (.error e)
        s' := by
  have ⟨reply, t, u, answered, succeeded, valued⟩ := given
  refine ⟨reply, ?_⟩
  rw [Source.attempt_matching, Act.bind_apply, answered]
  simp [matchReply, succeeded, valued, Act.caught_exception raised exception]

-- An exception is raised in the own part of an attempt, in a place where the rule for all
-- exceptions decides, with what that place lists as worth a retry.
inductive Raises (host : Host σ) : Source → List FaultClass → σ → Fault → σ → Prop
  | accessor {f : Value} {type : Option String} {retryOn : List FaultClass}
      {noneIsRetryable : Bool} {description : Option String} {s s' : σ} {e : Fault}
      (called : f.call host [] [] s = (.error e, s')) :
      Raises host (.accessor f type retryOn noneIsRetryable description) retryOn s e s'
  | operation {base : Source} {i : Invocation} {v f : Value} {s s₁ s' : σ} {e : Fault}
      (given : base.Gives host s v s₁) (selected : i.selector = .operation f)
      (called : f.call host (v :: i.args) i.keywords s₁ = (.error e, s')) :
      Raises host (.invoking base i) i.retryOn s e s'
  | method {base : Source} {i : Invocation} {name : String} {v m : Value} {s s₁ s₂ s' : σ}
      {e : Fault} (given : base.Gives host s v s₁) (selected : i.selector = .member name)
      (found : host.member v name s₁ = (.ok m, s₂)) (callable : m.isCallable = true)
      (called : m.call host i.args i.keywords s₂ = (.error e, s')) :
      Raises host (.invoking base i) i.retryOn s e s'
  | member {base : Source} {i : Invocation} {name : String} {v : Value} {s s₁ s' : σ} {e : Fault}
      (given : base.Gives host s v s₁) (selected : i.selector = .member name)
      (unread : host.member v name s₁ = (.error e, s'))
      (other : e.isA BuiltinClass.attributeError = false) :
      Raises host (.invoking base i) i.retryOn s e s'
  | reading {base : Source} {name : String} {type : Option String} {v : Value} {s s₁ s' : σ}
      {e : Fault} (given : base.Gives host s v s₁) (owned : v.isNull = false)
      (unread : read host v name s₁ = (.error e, s'))
      (noKey : e.isA BuiltinClass.keyError = false)
      (other : e.isA BuiltinClass.attributeError = false) :
      Raises host (.reading base name type) [] s e s'

theorem attempt_of_raises {src : Source} {retryOn : List FaultClass}
    (raises : src.Raises host retryOn s e s') (exception : e.isException = true) :
    src.attempt host s = (.ok (.outcome (classify e retryOn)), s') := by
  match raises with
  | .accessor called =>
    rw [attempt, attemptTo, attemptWith, Act.bind_apply, Act.caught_exception called exception]
    rfl
  | .operation given selected called =>
    exact given.attempt_invoking ((Invocation.apply_operation selected).trans called) exception
  | .method given selected found callable called =>
    exact given.attempt_invoking
      ((Invocation.apply_method selected found callable).trans called) exception
  | .member given selected unread other =>
    have applied := Invocation.apply_unread selected unread exception
    -- Of what reading a member raises, only a missing one has a rule of its own.
    simp only [other, Bool.false_eq_true, if_false] at applied
    exact given.attempt_invoking applied exception
  | .reading given owned unread noKey other =>
    rw [given.attempt_reading owned unread exception]
    simp [judgeRead, noKey, other, Except.map]

theorem attempt_of_missing (given : base.Gives host s v s₁) (selected : i.selector = .member name)
    (unread : host.member v name s₁ = (.error e, s')) (exception : e.isException = true)
    (missing : e.isA BuiltinClass.attributeError = true) :
    (Source.invoking base i).attempt host s =
      (.ok (.outcome (.terminal (Invocation.missingMember v name e) .null)), s') := by
  have applied := Invocation.apply_unread selected unread exception
  simp only [missing, if_true] at applied
  -- The failure that takes the place of the exception is permanent, whatever the operation lists.
  rw [given.attempt_invoking applied rfl, classify_of_permanent rfl]

theorem attempt_of_uncallable {m : Value} (given : base.Gives host s v s₁)
    (selected : i.selector = .member name) (found : host.member v name s₁ = (.ok m, s'))
    (callable : m.isCallable = false) (arguments : i.args ≠ [] ∨ i.keywords ≠ []) :
    (Source.invoking base i).attempt host s =
      (.ok (.outcome (.terminal (Invocation.notOperation v name) .null)), s') := by
  have applied := Invocation.apply_uncallable selected found callable arguments
  rw [given.attempt_invoking applied rfl, classify_of_permanent rfl]

theorem attempt_of_unavailable {type : Option String} (given : base.Gives host s v s₁)
    (owned : v.isNull = false) (unread : read host v name s₁ = (.error e, s'))
    (exception : e.isException = true)
    (missing : e.isA BuiltinClass.keyError = true ∨ e.isA BuiltinClass.attributeError = true) :
    (Source.reading base name type).attempt host s =
      (v.inspect.map fun shown => .outcome (.retryable
        ((Fault.temporarily (Text.quoted name ++ " is not available on " ++ shown)
          (.reading base name type)).raisedFrom e) .null), s') := by
  have missing : (e.isA BuiltinClass.keyError || e.isA BuiltinClass.attributeError) = true := by
    simpa using missing
  rw [given.attempt_reading owned unread exception]
  simp only [judgeRead, missing, if_true]
  cases v.inspect <;> rfl

theorem attempt_of_ownerless {type : Option String} (given : base.Gives host s .null s₁) :
    (Source.reading base name type).attempt host s =
      (base.inspect.map fun shown => .outcome (.retryable
        (Fault.temporarily (shown ++ " resolved to None") (.reading base name type)) .null),
        s₁) := by
  have ⟨_, worked⟩ := given.attempt_on (.reading name type)
  refine worked.trans ?_
  simp only [Layer.work, Value.isNull]
  cases base.inspect <;> rfl

def raisedTestLine (test v : Value) (description : Option String) (e : Fault) :
    Except Fault String := do
  let expected ← describeMatch test description
  let shown    ← v.inspect
  let message  ← e.message
  return "Predicate " ++ expected ++ " raised for " ++ shown ++ ": " ++ message

theorem attempt_of_raisedTest (quiet : ∀ entry, (host.log entry).Returns) {mark : Nat}
    {test : Value} {description : Option String} (given : base.Gives host s v s₁)
    (raised : test.passes host v s₁ = (.error e, s')) (exception : e.isException = true) :
    match raisedTestLine test v description e with
    | .ok _    => ∃ s₂, (Source.matching mark base test description).attempt host s =
        (.ok (.outcome (.terminal e .null)), s₂)
    | .error f => (Source.matching mark base test description).attempt host s = (.error f, s') := by
  obtain ⟨_, judged⟩ := given.attempt_matching raised exception
  rw [judged]
  simp only [judgeMatch, raisedTestLine]
  cases describeMatch test description
  case error => rfl
  case ok expected =>
    cases v.inspect
    case error => rfl
    case ok shown =>
      cases e.message
      case error => rfl
      case ok message =>
        obtain ⟨_, s₂, written, _⟩ := quiet ⟨.debug, sourcesLog, "Predicate " ++ expected ++
          " raised for " ++ shown ++ ": " ++ message, []⟩ s'
        exact ⟨s₂, by simp [written]⟩

end Source

structure Host.Classifies (host : Host σ) : Prop where
  raised {src : Source} {retryOn : List FaultClass} {s s' : σ} {e : Fault}
    (raises : src.Raises host retryOn s e s') (exception : e.isException = true) :
    ∃ o, src.attempt host s = (.ok (.outcome o), s') ∧ o.Classified e retryOn
  mapped {f : Value → Act σ Value} {v : Value} {s s' : σ} {e : Fault}
    (raised : f v s = (.error e, s')) (exception : e.isException = true) :
    ∃ o, (Outcome.success v).map f s = (.ok o, s') ∧ o.Classified e []
  missing {base : Source} {i : Invocation} {name : String} {v : Value} {s s₁ s' : σ} {e : Fault}
    (given : base.Gives host s v s₁) (selected : i.selector = .member name)
    (unread : host.member v name s₁ = (.error e, s')) (exception : e.isException = true)
    (missing : e.isA BuiltinClass.attributeError = true) :
    ∃ f, (Source.invoking base i).attempt host s = (.ok (.outcome (.terminal f .null)), s') ∧
      f.isA BuiltinClass.permanentlyUnavailable = true ∧ f.cause = some e ∧ f ≠ e
  uncallable {base : Source} {i : Invocation} {name : String} {v m : Value} {s s₁ s' : σ}
    (given : base.Gives host s v s₁) (selected : i.selector = .member name)
    (found : host.member v name s₁ = (.ok m, s')) (callable : m.isCallable = false)
    (arguments : i.args ≠ [] ∨ i.keywords ≠ []) :
    ∃ f, (Source.invoking base i).attempt host s = (.ok (.outcome (.terminal f .null)), s') ∧
      f.isA BuiltinClass.permanentlyUnavailable = true ∧ f.cause = none
  unavailable {base : Source} {name : String} {type : Option String} {v : Value} {s s₁ s' : σ}
    {e : Fault} (given : base.Gives host s v s₁) (owned : v.isNull = false)
    (unread : Source.read host v name s₁ = (.error e, s')) (exception : e.isException = true)
    (missing : e.isA BuiltinClass.keyError = true ∨ e.isA BuiltinClass.attributeError = true) :
    match v.inspect with
    | .ok _    => ∃ f, (Source.reading base name type).attempt host s =
        (.ok (.outcome (.retryable f .null)), s') ∧
        f.isA BuiltinClass.temporarilyUnavailable = true ∧ f.cause = some e ∧ f ≠ e
    | .error f => (Source.reading base name type).attempt host s = (.error f, s')
  ownerless {base : Source} {name : String} {type : Option String} {s s₁ : σ}
    (given : base.Gives host s .null s₁) :
    match base.inspect with
    | .ok _    => ∃ f, (Source.reading base name type).attempt host s =
        (.ok (.outcome (.retryable f .null)), s₁) ∧
        f.isA BuiltinClass.temporarilyUnavailable = true ∧ f.cause = none
    | .error f => (Source.reading base name type).attempt host s = (.error f, s₁)
  raisedTest (mark : Nat) (description : Option String) {base : Source} {test v : Value}
    {s s₁ s' : σ} {e : Fault} (given : base.Gives host s v s₁)
    (raised : test.passes host v s₁ = (.error e, s')) (exception : e.isException = true) :
    match Source.raisedTestLine test v description e with
    | .ok _    => ∃ s₂, (Source.matching mark base test description).attempt host s =
        (.ok (.outcome (.terminal e .null)), s₂)
    | .error f => (Source.matching mark base test description).attempt host s = (.error f, s')

-- The same rule classifies the exceptions of all operations. Where an attempt has to show something
-- first, it answers as soon as that can be shown.
theorem classification_uniform (quiet : ∀ entry, (host.log entry).Returns) : host.Classifies where
  raised raises exception :=
    ⟨_, Source.attempt_of_raises raises exception, classified _ _⟩
  mapped raised exception := ⟨_, Outcome.map_of_error raised exception, classified _ _⟩
  missing given selected unread exception missing :=
    ⟨_, Source.attempt_of_missing given selected unread exception missing, rfl, rfl,
      Fault.raisedFrom_ne _ _⟩
  uncallable given selected found callable arguments :=
    ⟨_, Source.attempt_of_uncallable given selected found callable arguments, rfl, rfl⟩
  unavailable given owned unread exception missing := by
    rw [Source.attempt_of_unavailable given owned unread exception missing]
    split
    case h_1 shown =>
      rw [shown]
      exact ⟨_, rfl, rfl, rfl, Fault.raisedFrom_ne _ _⟩
    case h_2 unshown =>
      rw [unshown]
      rfl
  ownerless given := by
    rw [Source.attempt_of_ownerless given]
    split
    case h_1 shown =>
      rw [shown]
      exact ⟨_, rfl, rfl, rfl⟩
    case h_2 unshown =>
      rw [unshown]
      rfl
  raisedTest _ _ := Source.attempt_of_raisedTest quiet

def Value.breaking : Value :=
  .callable (.mk 0 "<break>" none none none)

theorem call_breaking (args : List Value) :
    Value.breaking.call .broken args [] () = (.error .broken, ()) := by
  simp only [Value.breaking, Value.call]
  rfl

theorem classification_uniform_broken :
    (∃ o, (Source.accessor .breaking none [BuiltinClass.runtimeError] false none).attempt .broken
        () = (.ok (.outcome o), ()) ∧ o.Classified .broken [BuiltinClass.runtimeError]) ∧
    ∃ s, (Source.matching 0 (.direct .null) .breaking (some "it")).attempt .broken () =
      (.ok (.outcome (.terminal .broken .null)), s) := by
  have quiet (entry : LogEntry) : (Host.broken.log entry).Returns := .pure trivial
  have uniform := classification_uniform quiet
  have tested : Value.breaking.passes .broken .null () = (.error .broken, ()) := by
    simp [Value.passes, call_breaking]
  exact ⟨uniform.raised (.accessor (call_breaking [])) rfl,
    uniform.raisedTest 0 (some "it") (Source.gives_of_success rfl) tested rfl⟩

theorem Source.attempt_escapes : ∃ v e,
    (Source.direct v).attempt .broken () = (.ok (.outcome (.success v)), ()) ∧
    read .broken v "real" () = (.error e, ()) ∧ e.isA BuiltinClass.attributeError = true ∧
    (Source.reading (.direct v) "real" none).attempt .broken () = (.error .noText, ()) :=
  ⟨.object (.plain 0 "Bad" (.error .noText)), _, rfl, rfl, rfl, rfl⟩

end BoundedWait
