import BoundedWait.Value.Basic
import BoundedWait.Decimal.Reading

namespace BoundedWait

-- What is wrong with a field. The name of the field is added later.
inductive Complaint where
  | notNumber
  | notNumberText
  | below (limit : Nat)
  | notAbove (limit : Nat)
  | notFlag
  | notFlagText
  | notChoice (choices : List String)
  | inconsistent (reason : String)
deriving DecidableEq, Repr

namespace Complaint

def kind : Complaint → String
  | notNumber      => "float_type"
  | notNumberText  => "float_parsing"
  | below _        => "greater_than_equal"
  | notAbove _     => "greater_than"
  | notFlag        => "bool_type"
  | notFlagText    => "bool_parsing"
  | notChoice _    => "literal_error"
  | inconsistent _ => "value_error"

def listed : List String → String
  | []      => ""
  | [a]     => a
  | [a, b]  => a ++ " or " ++ b
  | a :: as => a ++ ", " ++ listed as

def message : Complaint → String
  | notNumber      => "Input should be a valid number"
  | notNumberText  => "Input should be a valid number, unable to parse string as a number"
  | below n        => "Input should be greater than or equal to " ++ toString n
  | notAbove n     => "Input should be greater than " ++ toString n
  | notFlag        => "Input should be a valid boolean"
  | notFlagText    => "Input should be a valid boolean, unable to interpret input"
  | notChoice cs   => "Input should be " ++ listed (cs.map fun c => "'" ++ c ++ "'")
  | inconsistent r => "Value error, " ++ r

def violation (c : Complaint) (location : List String) : Violation :=
  ⟨c.kind, location, c.message⟩

end Complaint

inductive Bound where
  | atLeast (limit : Nat)
  | above (limit : Nat)

namespace Bound

def allows : Bound → Float → Bool
  | atLeast n, x => (Number.int n).le (.ofFloat x)
  | above n, x   => (Number.int n).lt (.ofFloat x)

def complaint : Bound → Complaint
  | atLeast n => .below n
  | above n   => .notAbove n

end Bound

inductive Wording where
  | text (s : String)
  | unreadable
  | none

def Value.wording : Value → Wording
  | .text s       => .text s
  | .bytes octets =>
    match String.fromUTF8? ⟨octets.toArray⟩ with
    | some s => .text s
    | none   => .unreadable
  | _             => .none

def readDouble (v : Value) : Except Complaint Float :=
  match v.wording with
  | .text s =>
    match Decimal.readSetting? s with
    | some x => .ok x
    | none   => .error .notNumberText
  | .unreadable => .error .notNumberText
  | .none =>
    match v with
    | .number n =>
      match n.toFloat with
      | .ok x    => .ok x
      | .error _ => .error .notNumber
    | _ => .error .notNumber

-- A value as a double within a bound. An undefined number is within no bound.
def readNumber (bound : Bound) (v : Value) : Except Complaint Float := do
  let x ← readDouble v
  if bound.allows x then return x else throw bound.complaint

theorem Bound.allows_readNumber {bound : Bound} {v : Value} {x : Float}
    (h : readNumber bound v = .ok x) : bound.allows x = true := by
  unfold readNumber at h
  cases hd : readDouble v with
  | error e => simp [hd, bind, Except.bind] at h
  | ok y =>
    simp only [hd, bind, Except.bind] at h
    split at h
    case isTrue hb =>
      cases h
      exact hb
    case isFalse => cases h

def readNumber? (bound : Bound) (v : Value) : Except Complaint (Option Float) :=
  if v.isNull then .ok none else some <$> readNumber bound v

def flagWords : Bool → List String
  | true  => ["1", "t", "true", "y", "yes", "on"]
  | false => ["0", "f", "false", "n", "no", "off"]

def isWord (n : Number) : Bool :=
  (Number.int (-(twoTo 63 : Int))).le n && n.lt (.int (twoTo 63))

-- A value as a flag. Zero and one count, and so do some words in whatever case.
def readFlag (v : Value) : Except Complaint Bool :=
  match v.wording with
  | .text s =>
    let word := s.map Char.toLower
    if (flagWords true).contains word then .ok true
    else if (flagWords false).contains word then .ok false
    else .error .notFlagText
  | .unreadable => .error .notFlagText
  | .none =>
    match v with
    | .number n =>
      if n.eq (.int 0) then .ok false
      else if n.eq (.int 1) then .ok true
      else if n.isWhole && isWord n then .error .notFlagText
      else .error .notFlag
    | _ => .error .notFlag

def readChoice (choices : List String) (v : Value) : Except Complaint String :=
  match v with
  | .text s => if choices.contains s then .ok s else .error (.notChoice choices)
  | _       => .error (.notChoice choices)

theorem readChoice_eq_ok_iff {choices : List String} {v : Value} {s : String} :
    readChoice choices v = .ok s ↔ v = .text s ∧ s ∈ choices := by
  cases v
  case text t =>
    simp only [readChoice, List.contains_iff_mem, Value.text.injEq]
    split
    case isTrue h =>
      constructor
      · intro e
        cases e
        exact ⟨rfl, h⟩
      · rintro ⟨rfl, _⟩
        rfl
    case isFalse h =>
      constructor
      · intro e
        cases e
      · rintro ⟨rfl, m⟩
        exact absurd m h
  all_goals simp [readChoice]

end BoundedWait
