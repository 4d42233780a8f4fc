import BoundedWait.Number.Binary64
import BoundedWait.Text.Blank
import BoundedWait.Text.DecimalDigit

namespace BoundedWait

namespace Decimal

def ofDigits (digits : List Char) : Nat :=
  digits.foldl (fun value c => 10 * value + (c.toNat - '0'.toNat)) 0

theorem ofDigits_nil : ofDigits [] = 0 := rfl

def spanDigits (cs : List Char) : List Char × List Char :=
  (cs.takeWhile Char.isDigit, cs.dropWhile Char.isDigit)

theorem spanDigits_append (cs : List Char) : (spanDigits cs).1 ++ (spanDigits cs).2 = cs :=
  List.takeWhile_append_dropWhile

def toFloat (negative : Bool) (digits : Nat) (exponent : Int) : Float :=
  let size : Int := (toString digits).length
  let infinite := if negative then -Binary64.infinity else Binary64.infinity
  if digits = 0 || size + exponent < -330 then
    (Binary64.ofQuotient negative 0 1).getD 0
  else if 310 < size + exponent then infinite
  else
    (Binary64.ofQuotient negative (digits * tenTo exponent.toNat)
      (tenTo (-exponent).toNat)).getD infinite

def splitSign : List Char → Bool × List Char
  | '-' :: rest => (true, rest)
  | '+' :: rest => (false, rest)
  | cs          => (false, cs)

def readExponent? : List Char → Option Int
  | [] => some 0
  | c :: rest =>
    if c == 'e' || c == 'E' then
      let (negative, rest) := splitSign rest
      let (digits, after)  := spanDigits rest
      if digits.isEmpty || !after.isEmpty then none
      else some (if negative then -(ofDigits digits) else ofDigits digits)
    else none

-- A decimal without blanks, underscores or digits of other scripts.
def readPlain? (cs : List Char) : Option Float :=
  let (negative, body) := splitSign cs
  let word := (String.ofList body).toLower
  if word == "inf" || word == "infinity" then
    some (if negative then -Binary64.infinity else Binary64.infinity)
  else if word == "nan" then some Binary64.undefined
  else
    let (whole, rest) := spanDigits body
    let (places, rest) :=
      match rest with
      | '.' :: tail => spanDigits tail
      | _           => ([], rest)
    if whole.isEmpty && places.isEmpty then none
    else
      (readExponent? rest).map fun exponent =>
        toFloat negative (ofDigits (whole ++ places)) (exponent - places.length)

def asciiDigits (cs : List Char) : List Char :=
  cs.map fun c =>
    match Text.digitValue? c with
    | some d => Char.ofNat ('0'.toNat + d)
    | none   => c

def trimmed (s : String) : List Char :=
  (Text.trimWith Text.whiteSpace.has s).toList

def joinDigits? : List Char → Option (List Char)
  | [] => some []
  | '_' :: _ => none
  | c :: '_' :: d :: rest =>
    if c.isDigit && d.isDigit then (joinDigits? (d :: rest)).map (c :: ·) else none
  | c :: rest => (joinDigits? rest).map (c :: ·)

-- A decimal in any script, with white space around it and single underscores between digits.
def readFloat? (s : String) : Option Float :=
  (joinDigits? (asciiDigits (trimmed s))).bind readPlain?

def integerDigits? (s : String) : Option (Bool × List Char) := do
  let cs ← joinDigits? (asciiDigits (trimmed s))
  let (negative, body)  := splitSign cs
  let (digits, after) := spanDigits body
  if digits.isEmpty || !after.isEmpty then none else some (negative, digits)

def readInt? (s : String) : Option Int :=
  (integerDigits? s).map fun (negative, digits) =>
    if negative then -(ofDigits digits) else ofDigits digits

def excess? (most : Nat) (s : String) : Option Nat :=
  ((integerDigits? s).map (·.2.length)).filter (most < ·)

theorem excess?_eq_none {most : Nat} {s : String}
    (h : ∀ sign digits, integerDigits? s = some (sign, digits) → digits.length ≤ most) :
    excess? most s = none := by
  unfold excess?
  cases hd : integerDigits? s with
  | none => rfl
  | some d => simp [Option.filter, h d.1 d.2 hd]

-- A decimal of a configuration text: white space around it, or else single underscores inside.
def readSetting? (s : String) : Option Float :=
  match readPlain? (trimmed s) with
  | some x => some x
  | none =>
    let cs := s.toList
    let doubled := (cs.zip (cs.drop 1)).any (· == ('_', '_'))
    if cs.head? == some '_' || cs.getLast? == some '_' || doubled || !cs.contains '_' then none
    else readPlain? (cs.filter (· != '_'))

end Decimal

end BoundedWait
