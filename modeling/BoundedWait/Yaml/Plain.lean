import BoundedWait.Decimal.Reading
import BoundedWait.Text.Hexadecimal
import BoundedWait.Value.Moment
import BoundedWait.Yaml.Kind

namespace BoundedWait

namespace Yaml

namespace Plain

def isWord (words : List String) (s : String) : Bool :=
  words.any fun w => s == w || s == w.capitalize || s == w.toUpper

def isDigit (base : Nat) (c : Char) : Bool :=
  match Text.hexValue? c with
  | some d => d < base
  | none   => false

def areDigits (base : Nat) (cs : List Char) : Bool :=
  !cs.isEmpty && cs.all fun c => isDigit base c || c == '_'

def areSixtieths : Nat → List Char → Bool
  | 0, _      => false
  | n + 1, cs =>
    match cs with
    | ':' :: a :: b :: rest =>
      if b == ':' then isDigit 10 a && areSixtieths n (b :: rest)
      else isDigit 6 a && isDigit 10 b && (rest.isEmpty || areSixtieths n rest)
    | [':', a] => isDigit 10 a
    | _        => false

def unsigned (cs : List Char) : List Char :=
  (Decimal.splitSign cs).2

def isInteger (cs : List Char) : Bool :=
  match unsigned cs with
  | ['0'] => true
  | '0' :: 'b' :: rest => areDigits 2 rest
  | '0' :: 'x' :: rest => areDigits 16 rest
  | '0' :: rest        => areDigits 8 rest
  | c :: rest =>
    let digits := rest.takeWhile fun d => isDigit 10 d || d == '_'
    let after  := rest.drop digits.length
    isDigit 10 c && (after.isEmpty || areSixtieths after.length after)
  | [] => false

def isExponent (cs : List Char) : Bool :=
  match cs with
  | []               => true
  | e :: s :: digits =>
    (e == 'e' || e == 'E') && (s == '-' || s == '+') && !digits.isEmpty &&
      digits.all (isDigit 10)
  | _                => false

def isDouble (cs : List Char) : Bool :=
  let body := unsigned cs
  let word := String.ofList body
  let whole  := body.takeWhile fun d => isDigit 10 d || d == '_'
  let after  := body.drop whole.length
  let places := (after.drop 1).takeWhile fun d => isDigit 10 d || d == '_'
  let last   := after.drop (1 + places.length)
  let begins := (whole.head?.map (isDigit 10)).getD false
  if word == ".inf" || word == ".Inf" || word == ".INF" then true
  else if body == cs && (word == ".nan" || word == ".NaN" || word == ".NAN") then true
  else if after.head? == some '.' then
    if whole.isEmpty then
      body == cs && (places.head?.map (isDigit 10)).getD false && isExponent last
    else begins && isExponent last
  else if begins && after.head? == some ':' then
    let parts := after.takeWhile (· != '.')
    let rest  := after.drop parts.length
    areSixtieths parts.length parts && rest.head? == some '.' &&
      (rest.drop 1).all fun d => isDigit 10 d || d == '_'
  else false

-- The kind of a text. Some marks are of no kind.
def kindOf (s : String) : Option Kind :=
  let cs := s.toList
  if isWord ["yes", "no", "true", "false", "on", "off"] s then some .flag
  else if isDouble cs then some .double
  else if isInteger cs then some .integer
  else if s == "<<" then some .merge
  else if s == "" || s == "~" || isWord ["null"] s then some .null
  else if Moment.isWritten cs then some .moment
  else if s == "=" then some .assignment
  else if ["!", "&", "*"].contains s then none
  else some .text

-- A line break at the end does not count for the kind, unless there is nothing else.
def withoutLineBreak (cs : List Char) : List Char :=
  if cs.getLast? == some '\n' && cs.length != 1 then cs.dropLast else cs

def kind (s : String) : Option Kind :=
  kindOf (String.ofList (withoutLineBreak s.toList))

theorem kind_empty : kind "" = some .null := by
  decide +kernel

end Plain

end Yaml

end BoundedWait
