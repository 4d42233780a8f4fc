import BoundedWait.Value.Basic

namespace BoundedWait

mutual

-- Equality as it holds between the items of two containers, where what is the same is equal, even
-- if it is a number that is not defined.
def Value.agrees : Value → Value → Bool
  | .null, .null                 => true
  | .number a, .number b         => a.eq b || a.same b
  | .text a, .text b             => a == b
  | .bytes a, .bytes b           => a == b
  | .bytes a, .bytearray b       => a == b
  | .bytearray a, .bytes b       => a == b
  | .bytearray a, .bytearray b   => a == b
  | .list a, .list b             => Value.allAgree a b
  | .tuple a, .tuple b           => Value.allAgree a b
  | .dict a, .dict b             => a.length == b.length && Value.entriesAgree a b
  | .set a, .set b               => a.length == b.length && Value.allAmong a b
  | .set a, .frozenset b         => a.length == b.length && Value.allAmong a b
  | .frozenset a, .set b         => a.length == b.length && Value.allAmong a b
  | .frozenset a, .frozenset b   => a.length == b.length && Value.allAmong a b
  | .type a, .type b             => a == b
  | .object a, .object b         => a.same b
  | .callable a, .callable b     => a.id == b.id
  | .method r _ a, .method q _ b => a == b && r == q && r != 0
  | .source a, .source b         => a.agrees b
  | .outcome a, .outcome b       => a.agrees b
  | .fault a, .fault b           => a.same b
  | .predicate a, .predicate b   => a.id == b.id
  | _, _                         => false

def Value.allAgree : List Value → List Value → Bool
  | [], []           => true
  | a :: as, b :: bs => a.agrees b && Value.allAgree as bs
  | _, _             => false

def Value.allAmong : List Value → List Value → Bool
  | [], _      => true
  | a :: as, b => b.any (fun item => a.agrees item) && Value.allAmong as b

def Value.entriesAgree : List (Value × Value) → List (Value × Value) → Bool
  | [], _           => true
  | (k, v) :: es, b =>
    (match b.find? fun entry => k.agrees entry.1 with
    | some (_, w) => v.agrees w
    | none        => false) && Value.entriesAgree es b

def Value.namedAgree : List (String × Value) → List (String × Value) → Bool
  | [], _           => true
  | (k, v) :: es, b =>
    (match b.find? fun entry => k == entry.1 with
    | some (_, w) => v.agrees w
    | none        => false) && Value.namedAgree es b

def Outcome.agrees : Outcome → Outcome → Bool
  | .success a, .success b         => a.agrees b
  | .retryable c a, .retryable d b => a.agrees b && c.same d
  | .terminal c a, .terminal d b   => a.agrees b && c.same d
  | _, _                           => false

def Source.agrees : Source → Source → Bool
  | .direct a, .direct b => a.agrees b
  | .absent s, .absent t => s == t
  | .accessor f s r n d, .accessor g t q m e =>
    f.agrees g && s == t && r == q && n == m && d == e
  | .invoking a i, .invoking b j         => a.agrees b && i.agrees j
  | .reading a n s, .reading b m t       => a.agrees b && n == m && s == t
  | .matching _ a p d, .matching _ b q e => a.agrees b && p.agrees q && d == e
  | .custom i _, .custom j _             => i == j
  | _, _                                 => false

def Invocation.agrees : Invocation → Invocation → Bool
  | .mk s a k r, .mk t b l q =>
    s.agrees t && Value.allAgree a b && (k.length == l.length && Value.namedAgree k l) && r == q

def Selector.agrees : Selector → Selector → Bool
  | .member a, .member b       => a == b
  | .operation f, .operation g => f.agrees g
  | _, _                       => false

end

def Value.equals : Value → Value → Bool
  | .number a, .number b => a.eq b
  | a, b                 => a.agrees b

theorem Value.equals_number (a b : Number) :
    (Value.number a).equals (.number b) = a.eq b := rfl

theorem Value.equals_text (a b : String) : (Value.text a).equals (.text b) = (a == b) := by
  simp [Value.equals, Value.agrees]

theorem Value.agrees_of_equals {a b : Value} (h : a.equals b = true) : a.agrees b = true := by
  cases a
  case number n =>
    cases b
    case number m => simp_all [Value.equals, Value.agrees]
    all_goals exact h
  all_goals exact h

end BoundedWait
