import BoundedWait.Value.Basic
import BoundedWait.Text.Quoted

namespace BoundedWait

inductive Misuse where
  | unordered (symbol left right : String)
  | unhashable (type : String)
  | notIterable (type : String)
  | notText (type : String)
  | notBytesLike (type : String)
  | octetRange
  | noAttribute (type name : String)
  | notCallable (type : String)
  | unsupported (symbol left right : String)
  | notConcatenable (container type : String)
  | notOctets (container type : String)
  | noLength (type : String)
  | notSubscriptable (type : String)
  | badIndex (container type : String)
  | badTextIndex (type : String)
  | outOfRange (container : String)
  | hugeIndex
  | hugeCount
  | notRepeatable (type : String)
  | notInSequence (item container : String)
  | unreadableInteger (base : Nat) (quoted : String)
  -- An integer with too many digits: to be read, and how many they are, or to be written.
  | tooManyDigits (digits : Option Nat)
  | notIntegral (type : String)
  | unreadableFloat (quoted : String)
  | notReal (type : String)
  | unknownFormat (type : String)
  | unsupportedFormat (type : String)
  | argumentCount (name : String) (expected given : Nat)
  | tooFewArguments (name : String) (least given : Nat)
  | tooManyArguments (name : String) (most given : Nat)
  | emptySeparator
  -- A number that no character has, and one that is not even looked up.
  | noSuchCharacter
  | hugeCharacter
  | notSearchable (type : String)
  | nestedTooDeep
  | notPicklable (type : String)
  | arithmetic (e : Number.Error)
deriving DecidableEq, Repr

namespace Number.Error

def cls : Number.Error → BuiltinClass
  | tooLarge            => .overflowError
  | quotientTooLarge    => .overflowError
  | divisionByZero      => .zeroDivisionError
  | floatDivisionByZero => .zeroDivisionError
  | infiniteCeiling     => .overflowError
  | undefinedCeiling    => .valueError

end Number.Error

namespace Misuse

def cls : Misuse → BuiltinClass
  | noAttribute _ _       => .attributeError
  | octetRange            => .valueError
  | outOfRange _          => .indexError
  | hugeIndex             => .indexError
  | hugeCount             => .overflowError
  | notInSequence _ _     => .valueError
  | unreadableInteger _ _ => .valueError
  | tooManyDigits _       => .valueError
  | unreadableFloat _     => .valueError
  | unknownFormat _       => .valueError
  | emptySeparator        => .valueError
  | noSuchCharacter       => .valueError
  | hugeCharacter         => .overflowError
  | nestedTooDeep         => .recursionError
  | arithmetic e          => e.cls
  | _                     => .typeError

private def named (s : String) : String :=
  "'" ++ s ++ "'"

-- Integers have no more decimal digits than this where they are read or written.
def mostDigits : Nat := 4300

def longestQuote : Nat := 200

private def counted (n : Nat) : String :=
  toString n ++ (if n = 1 then " argument" else " arguments")

def message : Misuse → String
  | unordered symbol a b =>
    named symbol ++ " not supported between instances of " ++ named a ++ " and " ++ named b
  | unhashable t => "unhashable type: " ++ named t
  | notIterable t => "argument of type " ++ named t ++ " is not iterable"
  | notText t => "'in <string>' requires string as left operand, not " ++ t
  | notBytesLike t => "a bytes-like object is required, not " ++ named t
  | octetRange => "byte must be in range(0, 256)"
  | noAttribute t name => named t ++ " object has no attribute " ++ named name
  | notCallable t => named t ++ " object is not callable"
  | unsupported symbol a b =>
    "unsupported operand type(s) for " ++ symbol ++ ": " ++ named a ++ " and " ++ named b
  | notConcatenable container t =>
    "can only concatenate " ++ container ++ " (not \"" ++ t ++ "\") to " ++ container
  | notOctets container t => "can't concat " ++ t ++ " to " ++ container
  | noLength t => "object of type " ++ named t ++ " has no len()"
  | notSubscriptable t => named t ++ " object is not subscriptable"
  | badIndex container t => container ++ " indices must be integers or slices, not " ++ t
  | badTextIndex t => "string indices must be integers, not " ++ named t
  | outOfRange container =>
    (if container.isEmpty then "" else container ++ " ") ++ "index out of range"
  | hugeIndex | hugeCount => "cannot fit 'int' into an index-sized integer"
  | notRepeatable t => "can't multiply sequence by non-int of type " ++ named t
  | notInSequence item container =>
    if container == "list" then item ++ " is not in list"
    else container ++ ".index(x): x not in " ++ container
  | unreadableInteger base q =>
    "invalid literal for int() with base " ++ toString base ++ ": " ++
      String.ofList (q.toList.take longestQuote)
  | tooManyDigits digits =>
    "Exceeds the limit (" ++ toString mostDigits ++ " digits) for integer string conversion" ++
      (match digits with
      | some n => ": value has " ++ toString n ++ " digits"
      | none   => "") ++
      "; use sys.set_int_max_str_digits() to increase the limit"
  | notIntegral t =>
    "int() argument must be a string, a bytes-like object or a real number, not " ++ named t
  | unreadableFloat q => "could not convert string to float: " ++ q
  | notReal t => "float() argument must be a string or a real number, not " ++ named t
  | unknownFormat t => "Unknown format code 'f' for object of type " ++ named t
  | unsupportedFormat t => "unsupported format string passed to " ++ t ++ ".__format__"
  | argumentCount name expected given =>
    let expectation :=
      match expected with
      | 0     => "no arguments"
      | 1     => "exactly one argument"
      | n + 2 => "exactly " ++ toString (n + 2) ++ " arguments"
    name ++ "() takes " ++ expectation ++ " (" ++ toString given ++ " given)"
  | tooFewArguments name least given =>
    name ++ " expected at least " ++ counted least ++ ", got " ++ toString given
  | tooManyArguments name most given =>
    name ++ " expected at most " ++ counted most ++ ", got " ++ toString given
  | emptySeparator => "empty separator"
  | noSuchCharacter => "chr() arg not in range(0x110000)"
  | hugeCharacter => "Python int too large to convert to C int"
  | notSearchable t => "expected string or bytes-like object, got " ++ named t
  | nestedTooDeep => "maximum recursion depth exceeded"
  | notPicklable t => "cannot pickle " ++ named t ++ " object"
  | arithmetic e => e.message

def fault (m : Misuse) : Fault :=
  .mk 0 m.cls (.plain [.text m.message]) none

theorem isException_fault (m : Misuse) : m.fault.isException = true := by
  cases m
  case arithmetic e => cases e <;> rfl
  all_goals rfl

end Misuse

def Fault.saying (c : BuiltinClass) (message : String) : Fault :=
  .mk 0 c (.plain [.text message]) none

def Fault.missingKey (key : Value) : Fault :=
  .mk 0 BuiltinClass.keyError (.plain [key]) none

def Number.checked {α : Type} (r : Except Number.Error α) : Except Fault α :=
  r.mapError fun e => (Misuse.arithmetic e).fault

end BoundedWait
