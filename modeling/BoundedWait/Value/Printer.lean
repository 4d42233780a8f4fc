import BoundedWait.Fault.Misuse

namespace BoundedWait

inductive Form where
  | quoted
  | plain
deriving DecidableEq, Repr

def typeLabel (type : Option String) : String :=
  type.getD "?"

def classText (name : String) : String :=
  "<class '" ++ name ++ "'>"

def commas (items : List String) : String :=
  ", ".intercalate items

def tupleText (items : List String) : String :=
  match items with
  | [x] => "(" ++ x ++ ",)"
  | _   => "(" ++ commas items ++ ")"

-- Two braces alone would be an empty dictionary.
def setText (items : List String) : String :=
  if items.isEmpty then "set()" else "\x7b" ++ commas items ++ "\x7d"

def frozensetText (items : List String) : String :=
  if items.isEmpty then "frozenset()" else "frozenset(\x7b" ++ commas items ++ "\x7d)"

-- An integer with too many digits has no text.
def Number.write (n : Number) : Except Fault String :=
  match n with
  | .int i =>
    if tenTo Misuse.mostDigits ≤ i.natAbs then .error (Misuse.tooManyDigits none).fault
    else .ok n.text
  | n => .ok n.text

def Value.ownDescription? : Value → Option String
  | .predicate p => some p.description
  | .callable c  =>
    match c.description with
    | some (.text s) => some s
    | _ =>
      match c.name with
      | some n => if n.isEmpty || n == "<lambda>" then none else some ("a value satisfying " ++ n)
      | none   => none
  | .type n       => some ("a value satisfying " ++ n)
  | .method _ _ n => some ("a value satisfying " ++ n)
  | _             => none

def Value.qualifiedName? : Value → Option String
  | .callable c   => c.qualifiedName
  | .type n       => some n
  | .method _ r n => some (r.typeName ++ "." ++ n)
  | _             => none

def given? (description : Option String) : Option String :=
  description.filter (!·.isEmpty)

mutual

def Value.write (form : Form) : Value → Except Fault String
  | .null             => .ok "None"
  | .number n         => n.write
  | .text s           => .ok (if form = .plain then s else Text.quoted s)
  | .bytes octets     => .ok (Text.quotedOctets octets)
  | .bytearray octets => .ok ("bytearray(" ++ Text.quotedOctets octets ++ ")")
  | .list items       => do return "[" ++ commas (← Value.inspectAll items) ++ "]"
  | .tuple items      => do return tupleText (← Value.inspectAll items)
  | .dict entries     => do return "\x7b" ++ commas (← Value.inspectEntries entries) ++ "\x7d"
  | .set items        => do return setText (← Value.inspectAll items)
  | .frozenset items  => do return frozensetText (← Value.inspectAll items)
  | .type name        => .ok (classText name)
  | .object o         => o.shown
  | .callable c       => .ok c.shown
  | .method _ r name  => .ok ("<built-in method " ++ name ++ " of " ++ r.typeName ++ " object>")
  | .source s         => s.inspect
  | .outcome o        => o.inspect
  | .fault f          => f.write form
  | .predicate p      =>
    .ok (if form = .plain then p.description else "Predicate(" ++ Text.quoted p.description ++ ")")

def Value.inspectAll : List Value → Except Fault (List String)
  | []      => .ok []
  | v :: vs => do
    let s ← v.write .quoted
    return s :: (← Value.inspectAll vs)

def Value.inspectEntries : List (Value × Value) → Except Fault (List String)
  | []           => .ok []
  | (k, v) :: es => do
    let key   ← k.write .quoted
    let value ← v.write .quoted
    return (key ++ ": " ++ value) :: (← Value.inspectEntries es)

def Value.inspectNamed : List (String × Value) → Except Fault (List String)
  | []           => .ok []
  | (k, v) :: es => do
    let value ← v.write .quoted
    return (k ++ "=" ++ value) :: (← Value.inspectNamed es)

def Outcome.inspect : Outcome → Except Fault String
  | .success v => do
    let value ← v.write .quoted
    return "ResolutionOutcome(kind=<OutcomeKind.SUCCESS: 'success'>, value=" ++ value ++
      ", cause=None)"
  | .retryable c v => do
    let value ← v.write .quoted
    let cause ← c.write .quoted
    return "ResolutionOutcome(kind=<OutcomeKind.RETRYABLE: 'retryable'>, value=" ++ value ++
      ", cause=" ++ cause ++ ")"
  | .terminal c v => do
    let value ← v.write .quoted
    let cause ← c.write .quoted
    return "ResolutionOutcome(kind=<OutcomeKind.TERMINAL: 'terminal'>, value=" ++ value ++
      ", cause=" ++ cause ++ ")"

-- The plain form of a fault is its message, the quoted one shows its class and its arguments.
def Fault.write (form : Form) : Fault → Except Fault String
  | .mk _ cls detail _ =>
    match form with
    | .plain  => detail.message cls
    | .quoted => do return cls.name ++ "(" ++ commas (← detail.inspectArgs) ++ ")"

def Detail.message (cls : FaultClass) : Detail → Except Fault String
  | .plain []  => .ok ""
  | .plain [v] => v.write (if cls.isA BuiltinClass.keyError then .quoted else .plain)
  | .plain [a, b] =>
    if cls.isA BuiltinClass.osError then do
      let number ← a.write .plain
      let reason ← b.write .plain
      return "[Errno " ++ number ++ "] " ++ reason
    else do
      let first  ← a.write .quoted
      let second ← b.write .quoted
      return tupleText [first, second]
  | .plain (a :: b :: c :: rest) =>
    if cls.isA BuiltinClass.osError then do
      let number ← a.write .plain
      let reason ← b.write .plain
      let path   ← c.write .quoted
      return "[Errno " ++ number ++ "] " ++ reason ++ ": " ++ path
    else do
      let first  ← a.write .quoted
      let second ← b.write .quoted
      let third  ← c.write .quoted
      return tupleText (first :: second :: third :: (← Value.inspectAll rest))
  | .unavailable message _       => message.write .plain
  | .mismatch _ _ _ message      => .ok message
  | .failed _ _ _ _ message      => message.write .plain
  | .expired _ _ _ _ _ message   => .ok message
  | .unmet _ _ _ _ _ _ _ message => .ok message
  | .invalid title violations    =>
    .ok (toString violations.length ++ " validation error" ++
      (if violations.length = 1 then "" else "s") ++ " for " ++ title)

def Detail.inspectArgs : Detail → Except Fault (List String)
  | .plain args                  => Value.inspectAll args
  | .unavailable message _       => do return [← message.write .quoted]
  | .mismatch _ _ _ message      => .ok [Text.quoted message]
  | .failed _ _ _ _ message      => do return [← message.write .quoted]
  | .expired _ _ _ _ _ message   => .ok [Text.quoted message]
  | .unmet _ _ _ _ _ _ _ message => .ok [Text.quoted message]
  | .invalid _ _                 => .ok []

def Source.inspect : Source → Except Fault String
  | .direct v => do return "Deferred<Value>\x7b" ++ (← v.write .quoted) ++ "\x7d"
  | .absent type => .ok ("Deferred<Null>\x7bclass=" ++ typeLabel type ++ "\x7d")
  | .accessor f type _ _ description =>
    match given? description with
    | some name => .ok ("Deferred<Accessor>\x7b" ++ name ++ ", class=" ++ typeLabel type ++ "\x7d")
    | none => do
      let shown ← f.write .quoted
      return "Deferred<Accessor>\x7b" ++ f.qualifiedName?.getD shown ++ ", class=" ++
        typeLabel type ++ "\x7d"
  | .invoking base invocation => do
    let on ← base.inspect
    return "Deferred<Invocation>\x7bon=" ++ on ++ ", call=" ++ (← invocation.describe) ++ "\x7d"
  | .reading base name type => do
    let on ← base.inspect
    return "Deferred<Attribute>\x7bon=" ++ on ++ ", attribute=" ++ name ++ ", class=" ++
      typeLabel type ++ "\x7d"
  | .matching _ base test description => do
    let on ← base.inspect
    let expected ←
      match given? description with
      | some d => pure d
      | none =>
        match test.ownDescription? with
        | some d => pure d
        | none   => do pure ("a value satisfying " ++ (← test.write .quoted))
    return "Deferred<Match>\x7bon=" ++ on ++ ", predicate=" ++ expected ++ "\x7d"
  | .custom _ shown => shown

def Invocation.describe : Invocation → Except Fault String
  | .mk selector args keywords _ => do
    let name ← selector.describe
    let positional ← Value.inspectAll args
    let named ← Value.inspectNamed keywords
    return name ++ "(" ++ commas (positional ++ named) ++ ")"

def Selector.describe : Selector → Except Fault String
  | .member name => .ok name
  | .operation f => do
    let shown ← f.write .quoted
    return f.qualifiedName?.getD shown

end

-- The form that shows what a value is made of.
def Value.inspect (v : Value) : Except Fault String :=
  v.write .quoted

-- The form that stands in the middle of a sentence.
def Value.display (v : Value) : Except Fault String :=
  v.write .plain

theorem Value.display_int {i : Int} (h : i.natAbs < tenTo Misuse.mostDigits) :
    (Value.number (.int i)).display = .ok (Number.int i).text := by
  simp [display, write, Number.write, Nat.not_le.mpr h]

def Fault.inspect (f : Fault) : Except Fault String :=
  f.write .quoted

def Fault.message (f : Fault) : Except Fault String :=
  f.write .plain

def Value.describeTest (test : Value) : Except Fault String :=
  match test.ownDescription? with
  | some d => .ok d
  | none   => do return "a value satisfying " ++ (← test.inspect)

def describeMatch (test : Value) (description : Option String) : Except Fault String :=
  match given? description with
  | some d => .ok d
  | none   => test.describeTest

theorem Value.display_text (s : String) : (Value.text s).display = .ok s := by
  simp [Value.display, Value.write]

theorem Source.inspect_matching (mark : Nat) (base : Source) (test : Value)
    (description : Option String) :
    (Source.matching mark base test description).inspect = (do
      let on ← base.inspect
      let expected ← describeMatch test description
      return "Deferred<Match>\x7bon=" ++ on ++ ", predicate=" ++ expected ++ "\x7d") := by
  rw [Source.inspect, describeMatch]
  cases base.inspect
  case error => rfl
  case ok =>
    cases given? description
    case some => rfl
    case none =>
      simp only [Value.describeTest, Value.inspect]
      cases test.ownDescription?
      case some => rfl
      case none => cases test.write .quoted <;> rfl

theorem Invocation.describe_mk (name : String) (args : List Value)
    (keywords : List (String × Value)) (retryOn : List FaultClass) :
    (Invocation.mk (.member name) args keywords retryOn).describe = (do
      let positional ← Value.inspectAll args
      let named ← Value.inspectNamed keywords
      return name ++ "(" ++ commas (positional ++ named) ++ ")") := by
  rw [Invocation.describe, Selector.describe]
  rfl

end BoundedWait
