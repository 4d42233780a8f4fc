import BoundedWait.Decimal.Figures
import BoundedWait.Text.DecimalDigit
import BoundedWait.Text.Identifier
import BoundedWait.Text.Quoted
import BoundedWait.Value.Operation

namespace BoundedWait

namespace Template

structure Style where
  flags      : List Char
  width      : Nat
  precision  : Option Nat
  conversion : Char

def isFlag (c : Char) : Bool :=
  ['#', '0', '-', ' ', '+'].contains c

def isLength (c : Char) : Bool :=
  ['h', 'l', 'L'].contains c

def digits (cs : List Char) : List Char × List Char :=
  (cs.takeWhile Char.isDigit, cs.dropWhile Char.isDigit)

def toNat (digits : List Char) : Nat :=
  digits.foldl (fun n c => 10 * n + (c.toNat - '0'.toNat)) 0

def longest : Nat := 2147483647

def style? (cs : List Char) : Option (Style × List Char) := do
  let flags := cs.takeWhile isFlag
  let (width, rest) := digits (cs.drop flags.length)
  let (precision, rest) :=
    match rest with
    | '.' :: more =>
      let (places, after) := digits more
      (some (toNat places), after)
    | rest => (none, rest)
  if longest < toNat width || longest < precision.getD 0 then none
  match rest.drop (if rest.head?.any isLength then 1 else 0) with
  | c :: after => some (⟨flags, toNat width, precision, c⟩, after)
  | []         => none

def field? (cs : List Char) : Option (String × Style × List Char) :=
  match cs with
  | '(' :: rest =>
    let name := rest.takeWhile (· != ')')
    match rest.drop name.length with
    | ')' :: more => (style? more).map fun (style, after) => (String.ofList name, style, after)
    | _           => none
  | _ => none

-- A number or a star in its place. Digits of all scripts pass here.
def skipCount (cs : List Char) : List Char :=
  match cs with
  | '*' :: rest => rest
  | _           => cs.dropWhile fun c => (Text.digitValue? c).isSome

def skipPrecision (cs : List Char) : List Char :=
  match cs with
  | '.' :: rest => if (skipCount rest).length < rest.length then skipCount rest else cs
  | _           => cs

-- Letters of conversions in any case, and what differs from one of them by its case alone.
def isConversion (c : Char) : Bool :=
  "diouxefgcrsaDIOUXEFGCRSA%\u0130\u0131\u017f".toList.contains c

def isField (cs : List Char) : Bool :=
  match cs with
  | '(' :: rest =>
    let name := rest.takeWhile Text.Identifier.isContinue
    match rest.drop name.length with
    | ')' :: more =>
      match skipPrecision (skipCount (more.dropWhile isFlag)) with
      | c :: _ => !name.isEmpty && isConversion c
      | []     => false
    | _ => false
  | _ => false

def hasField : List Char → Bool
  | []          => false
  | '%' :: rest => isField rest || hasField rest
  | _ :: rest   => hasField rest

def pad (style : Style) (cs : List Char) : List Char :=
  let blanks := List.replicate (style.width - cs.length) ' '
  if style.flags.contains '-' then cs ++ blanks else blanks ++ cs

def lettered (style : Style) (s : String) : List Char :=
  match style.precision with
  | some n => pad style (s.toList.take n)
  | none   => pad style s.toList

def signOf (style : Style) (negative : Bool) : List Char :=
  if negative then ['-']
  else if style.flags.contains '+' then ['+']
  else if style.flags.contains ' ' then [' ']
  else []

-- Digits behind a sign and the like, with some zeros in between, or with as many as the width asks
-- for if there is a flag for that.
def filled (style : Style) (front : List Char) (zeros : Nat) (digits : List Char) : List Char :=
  let fills := style.flags.contains '0' && !style.flags.contains '-'
  let wide  := if fills then style.width - front.length - digits.length else 0
  pad style (front ++ List.replicate (max zeros wide) '0' ++ digits)

-- An integer with at least as many digits as the precision says. The mark of its base shows only
-- if there is a flag for that.
def integer (style : Style) (mark : List Char) (base : Nat) (i : Int) : List Char :=
  let digits := Nat.toDigits base i.natAbs
  let front  := signOf style (i < 0) ++ (if style.flags.contains '#' then mark else [])
  filled style front (style.precision.getD 0 - digits.length) digits

def double (style : Style) (form : Decimal.Figures.Form) (x : Float) : List Char :=
  match Binary64.unpack x with
  | some u =>
    filled style (signOf style u.negative) 0
      (Decimal.Figures.write form (style.precision.getD 6) (style.flags.contains '#') u.numerator
        u.denominator)
  | none =>
    if x.isNaN then filled style (signOf style false) 0 "nan".toList
    else filled style (signOf style (x < 0)) 0 "inf".toList

def character? : Value → Option Char
  | .text s   =>
    match s.toList with
    | [c] => some c
    | _   => none
  | .number n => do
    let i ← n.integral?
    let c := Char.ofNat i.toNat
    if (c.toNat : Int) == i then some c else none
  | _         => none

def whole? : Value → Option Int
  | .number n => (Value.number n).toInteger.toOption
  | _         => none

def double? : Value → Option Float
  | .number n => n.toFloat.toOption
  | _         => none

def write (style : Style) (v : Value) : Option (List Char) :=
  match style.conversion with
  | 's' => (lettered style ·) <$> v.display.toOption
  | 'r' => (lettered style ·) <$> v.inspect.toOption
  | 'a' => (fun s => lettered style (Text.ascii s)) <$> v.inspect.toOption
  | 'c' => (fun c => pad style [c]) <$> character? v
  | 'd' => integer style [] 10 <$> whole? v
  | 'i' => integer style [] 10 <$> whole? v
  | 'u' => integer style [] 10 <$> whole? v
  | 'o' => integer style ['0', 'o'] 8 <$> v.integral?
  | 'x' => integer style ['0', 'x'] 16 <$> v.integral?
  | 'X' => (fun i => (integer style ['0', 'x'] 16 i).map Char.toUpper) <$> v.integral?
  | 'f' => double style .positional <$> double? v
  | 'e' => double style .scientific <$> double? v
  | 'g' => double style .shorter <$> double? v
  | 'F' => (fun x => (double style .positional x).map Char.toUpper) <$> double? v
  | 'E' => (fun x => (double style .scientific x).map Char.toUpper) <$> double? v
  | 'G' => (fun x => (double style .shorter x).map Char.toUpper) <$> double? v
  | _   => none

def fillWith (find : String → Option Value) : Nat → List Char → Option (List Char)
  | 0, cs     => some cs
  | n + 1, cs =>
    match cs with
    | []                 => some []
    | '%' :: '%' :: rest => (fillWith find n rest).map ('%' :: ·)
    | '%' :: rest        => do
      let (name, style, after) ← field? rest
      let written ← write style (← find name)
      return written ++ (← fillWith find n after)
    | c :: rest => (fillWith find n rest).map (c :: ·)

def fill (find : String → Option Value) (template : String) : Option String :=
  (fillWith find template.length template.toList).map String.ofList

theorem fill_percent (find : String → Option Value) : fill find "%%" = some "%" := rfl

end Template

end BoundedWait
