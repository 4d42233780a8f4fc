import BoundedWait.Simulation.World
import BoundedWait.Predicate
import BoundedWait.Invocation
import BoundedWait.Source.Basic

namespace BoundedWait

namespace Simulation

open World

def fresh : Act World Nat :=
  settle .other

namespace FaultParameters

structure Bound where
  required : List Value
  optional : List (Option Value)

def plural (n : Nat) (word : String) : String :=
  toString n ++ " " ++ word ++ (if n = 1 then "" else "s")

def wrongArguments (cls : FaultClass) (what : String) : Fault :=
  Fault.saying .typeError (cls.name ++ ".__init__() " ++ what)

def bind (cls : FaultClass) (required optional : List String) (args : List Value)
    (keywords : List (String × Value)) : Except Fault Bound := do
  let names := required ++ optional
  if names.length < args.length then
    throw (wrongArguments cls ("takes from " ++ toString (required.length + 1) ++ " to " ++
      plural (names.length + 1) "positional argument" ++ " but " ++ toString (args.length + 1) ++
      " were given"))
  let given := names.take args.length
  match keywords.find? fun (k, _) => !names.contains k with
  | some (k, _) => throw (wrongArguments cls ("got an unexpected keyword argument '" ++ k ++ "'"))
  | none => pure ()
  match keywords.find? fun (k, _) => given.contains k with
  | some (k, _) => throw (wrongArguments cls ("got multiple values for argument '" ++ k ++ "'"))
  | none => pure ()
  let all := given.zip args ++ keywords
  let find (name : String) : Option Value := (all.find? (·.1 == name)).map (·.2)
  let missing := required.filter fun name => (find name).isNone
  if !missing.isEmpty then
    throw (wrongArguments cls ("missing " ++ plural missing.length "required positional argument" ++
      ": " ++ " and ".intercalate (missing.map fun n => "'" ++ n ++ "'")))
  return ⟨required.map fun n => (find n).getD .null, optional.map find⟩

end FaultParameters

open FaultParameters (Bound)

def unavailableMessage (cls : FaultClass) : String :=
  if cls.isA BuiltinClass.temporarilyUnavailable then "Resource is temporarily unavailable"
  else "Resource is permanently unavailable"

def systemClass (number : Value) : BuiltinClass :=
  match number.integral? with
  | some 1   => .permission
  | some 2   => .fileNotFound
  | some 3   => .processLookup
  | some 4   => .interrupted
  | some 10  => .childProcess
  | some 11  => .blockingIo
  | some 13  => .permission
  | some 17  => .fileExists
  | some 20  => .notADirectory
  | some 21  => .isADirectory
  | some 32  => .brokenPipe
  | some 103 => .connectionAborted
  | some 104 => .connectionReset
  | some 108 => .brokenPipe
  | some 110 => .timeoutError
  | some 111 => .connectionRefused
  | _        => .osError

def specialised (cls : FaultClass) (args : List Value) : FaultClass :=
  if cls = .builtin .osError && 2 ≤ args.length && args.length ≤ 5 then
    .builtin (systemClass (args.headD .null))
  else cls

def detailOf (cls : FaultClass) (args : List Value) (keywords : List (String × Value)) :
    Except Fault Detail := do
  let bind := FaultParameters.bind cls
  let temporary := cls.isA BuiltinClass.temporarilyUnavailable
  let permanent := cls.isA BuiltinClass.permanentlyUnavailable
  if cls.isA BuiltinClass.predicateMismatch then
    match ← bind ["value", "description"] ["source"] args keywords with
    | ⟨[value, description], [source]⟩ => Detail.ofMismatch value description (.ofOption source)
    | _ => return .plain args
  else if temporary || permanent then
    match ← bind [] ["message", "source"] args keywords with
    | ⟨_, [message, source]⟩ =>
      return .unavailable (message.getD (.text (unavailableMessage cls)))
        (if temporary && permanent then .null else .ofOption source)
    | _ => return .plain args
  else if cls.isA BuiltinClass.deadlineExceeded then
    match ← bind ["last_cause", "attempts", "elapsed"] ["source", "max_wait"] args keywords with
    | ⟨[cause, attempts, elapsed], [source, maxWait]⟩ =>
      Detail.ofDeadline cause attempts elapsed (.ofOption source) (.ofOption maxWait)
    | _ => return .plain args
  else if cls.isA BuiltinClass.ensureFailed then
    match ← bind ["last_cause", "attempts", "elapsed"] ["source", "message"] args keywords with
    | ⟨[cause, attempts, elapsed], [source, message]⟩ =>
      Detail.ofFailure cause attempts elapsed (.ofOption source) (.ofOption message)
    | _ => return .plain args
  else if cls.isA BuiltinClass.eventuallyAssertion then
    match ← bind ["description", "last_cause", "attempts", "elapsed"]
        ["has_value", "last_value", "source"] args keywords with
    | ⟨[description, cause, attempts, elapsed], [hasValue, lastValue, source]⟩ =>
      Detail.ofUnmet description cause attempts elapsed (hasValue.getD (.bool false))
        (.ofOption lastValue) (.ofOption source)
    | _ => return .plain args
  else return .plain args

def notOperand (symbol : String) (a b : Value) : Fault :=
  (Misuse.unsupported symbol a.typeName b.typeName).fault

def notInvertible (a : Value) : Fault :=
  Fault.saying .typeError ("bad operand type for unary ~: '" ++ a.typeName ++ "'")

-- Combines two tests. Only a test that is a predicate itself can be on the left.
def combined (symbol : String) (make : Nat → Predicate → Value → Except Fault Predicate)
    (a b : Value) : Act World Value := do
  match a with
  | .predicate p => do
    let id ← fresh
    return .predicate (← .of (make id p b))
  | a => .raise (notOperand symbol a b)

def asBase (operation : String) (v : Value) : Except Fault Source :=
  match v with
  | .source s => .ok s
  | v         => .error (Misuse.noAttribute v.typeName operation).fault

def repeatedValue (v : Value) (times : Nat) : Value :=
  match v with
  | .text s => .text (String.ofList (Value.repeated s.toList times))
  | v       => .list (List.replicate times v)

def nestedValue (v : Value) : Nat → Value
  | 0         => v
  | depth + 1 => .list [nestedValue v depth]

mutual

def Recipe.build : Recipe → Act World Value
  | .null         => return .null
  | .number n     =>
    match n with
    | .float x _ => do
      if x.isNaN then return .number (.float x (← fresh)) else return .number n
    | _ => return .number n
  | .text s        => return .text s
  | .bytes octets  => return .bytes octets
  | .list items    => do return .list (← Recipe.buildAll items)
  | .tuple items   => do return .tuple (← Recipe.buildAll items)
  | .dict entries  => do return .dict (← Recipe.buildEntries entries [])
  | .type name     => return .type name
  | .object className members failures shown => do
    let members ← Recipe.buildNamed members
    let id      ← settle (.object className members failures)
    return .object (.plain id className (← shown.build className))
  | .operation f  => f.build
  | .source s     => s.build
  | .outcome o    => do return .outcome (← o.build)
  | .fault f      => do return .fault (← f.build)
  | .nested v depth   => do return nestedValue (← v.build) depth
  | .repeated v times => do return repeatedValue (← v.build) times

def Recipe.buildAll : List Recipe → Act World (List Value)
  | []      => return []
  | r :: rs => do
    let v ← r.build
    return v :: (← Recipe.buildAll rs)

def Recipe.buildEntries :
    List (Recipe × Recipe) → List (Value × Value) → Act World (List (Value × Value))
  | [], acc           => return acc
  | (k, v) :: es, acc => do
    let key   ← k.build
    let value ← v.build
    let _     ← .of key.digest
    Recipe.buildEntries es (Value.insert acc key value)

def Recipe.buildNamed : List (String × Recipe) → Act World (List (String × Value))
  | []           => return []
  | (k, v) :: es => do
    let value ← v.build
    return (k, value) :: (← Recipe.buildNamed es)

def Shown.build (className : String) : Shown → Act World (Except Fault String)
  | .byClass   => return .ok ("<" ++ className ++ ">")
  | .text s    => return .ok s
  | .failure f => do return .error (← f.build)

def FaultRecipe.build : FaultRecipe → Act World Fault
  | .mk cls args keywords cause => do
    let args   ← Recipe.buildAll args
    let keywords ← Recipe.buildNamed keywords
    let detail ← .of (detailOf cls args keywords)
    let id     ← fresh
    return .mk id (specialised cls args) detail (← FaultRecipe.buildOption cause)

def FaultRecipe.buildOption : Option FaultRecipe → Act World (Option Fault)
  | none   => return none
  | some f => do return some (← f.build)

def OutcomeRecipe.build : OutcomeRecipe → Act World Outcome
  | .mk kind raw value cause => do
    let v ← value.build
    let c ← FaultRecipe.buildOption cause
    if raw then .of (Outcome.make kind v c)
    else
      match kind with
      | .success => return .success v
      | kind     => .of (Outcome.make kind .null c)

def OperationRecipe.build : OperationRecipe → Act World Value
  | .mk behaviour label name qualifiedName shown description => do
    let d  ← Recipe.buildOption description
    let id ← settle (.operation (.mk behaviour label name qualifiedName shown description) 0)
    return .callable (.mk id (shown.getD "<fn>") name qualifiedName d)

def Recipe.buildOption : Option Recipe → Act World (Option Value)
  | none   => return none
  | some r => do return some (← r.build)

def SourceRecipe.build : SourceRecipe → Act World Value
  | .direct v => do return .source (.direct (← v.build))
  | .absent type => return .source (.absent type)
  | .accessor f type retryOn noneIsRetryable description => do
    return .source (.accessor (← f.build) type retryOn noneIsRetryable description)
  | .invoking base selector args keywords retryOn => do
    let b ← base.build
    let s ← .of (asBase "invoking" b)
    let selector ← selector.build
    let args     ← Recipe.buildAll args
    let keywords   ← Recipe.buildNamed keywords
    return .source (.invoking s (← .of (Invocation.make selector args keywords retryOn)))
  | .reading base name type => do
    let b ← base.build
    let s ← .of (asBase "attribute" b)
    return .source (.reading s name type)
  | .matching base test description => do
    let b ← base.build
    let s ← .of (asBase "matching" b)
    return .source (.matching 0 s (← test.build) description)
  | .custom steps shown label => do
    let id ← settle (.custom steps label 0)
    return .source (.custom id (.ok (shown.getD "<custom>")))
  | .bare f       => f.build
  | .plain v      => v.build
  | .adapted base => do
    let v ← base.build
    return .source (← .of (Source.ofValue v))
  | .named name => do
    let w ← Act.get
    match w.names.find? (·.1 == name) with
    | some (_, v) => return v
    | none        => .raise (Fault.missingKey (.text name))

def TestRecipe.build : TestRecipe → Act World Value
  | .equalTo v => do
    let value ← v.build
    return .predicate (← .of (Predicate.equalTo (← fresh) value))
  | .greaterThan v => do
    let value ← v.build
    return .predicate (← .of (Predicate.greaterThan (← fresh) value))
  | .atLeast v => do
    let value ← v.build
    return .predicate (← .of (Predicate.atLeast (← fresh) value))
  | .contains v => do
    let value ← v.build
    return .predicate (← .of (Predicate.contains (← fresh) value))
  | .isNotNone => do return .predicate (Predicate.isNotNone (← fresh))
  | .satisfies f description => do
    let operation ← f.build
    return .predicate (Predicate.satisfies (← fresh) operation description)
  | .both p q => do
    let a ← p.build
    combined "&" Predicate.both a (← q.build)
  | .either p q => do
    let a ← p.build
    combined "|" Predicate.either a (← q.build)
  | .negation p => do
    match ← p.build with
    | .predicate p => return .predicate (p.negation (← fresh))
    | v            => .raise (notInvertible v)
  | .bare f => f.build

end

def IntervalRecipe.build : IntervalRecipe → Act World (Value ⊕ Interval)
  | .value v       => do return .inl (← v.build)
  | .fixed seconds => do
    let v ← seconds.build
    return .inr (← .of (Interval.ofFixed v))
  | .exponential initial multiplier cap => do
    let first  ← initial.build
    let factor ← Recipe.buildOption multiplier
    let limit  ← Recipe.buildOption cap
    return .inr (← .of (Interval.ofExponential first (factor.getD (.float 2)) (.ofOption limit)))

def buildPoll : Option IntervalRecipe → Act World (Option (Value ⊕ Interval))
  | none   => return none
  | some i => do return some (← i.build)

def PolicyFieldsRecipe.build (f : PolicyFieldsRecipe) : Act World PolicyFields := do
  let maxWait ← Recipe.buildOption f.maxWait
  return ⟨maxWait, ← buildPoll f.poll, f.retryOn⟩

def PolicyBase.build : PolicyBase → Act World Policy
  | .named name => do
    let w ← Act.get
    match w.policies.find? (·.1 == name) with
    | some (_, p) => return p
    | none        => .raise (Fault.missingKey (.text name))
  | .noRetry => .of Policy.noRetry
  | .within seconds poll => do
    let v ← seconds.build
    let i ← buildPoll poll
    .of (Policy.within v i)
  | .fields parts => do
    let f ← parts.build
    .of (Policy.ofFields f)

def PolicyRecipe.build (p : PolicyRecipe) : Act World Policy := do
  let base ← p.base.build
  p.replaced.foldlM (fun policy fields => do
    let f ← fields.build
    .of (policy.replace f)) base

end Simulation

end BoundedWait
