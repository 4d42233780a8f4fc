import BoundedWait.Config.Variables
import BoundedWait.Text.Blank
import BoundedWait.Text.Case

namespace BoundedWait

namespace EnvFile

def isLineEnd (c : Char) : Bool :=
  c == '\n' || c == '\r'

def isInnerBlank (c : Char) : Bool :=
  Text.isBlank c && !isLineEnd c

def skipBlanks (cs : List Char) : List Char :=
  cs.dropWhile isInnerBlank

def export? (cs : List Char) : Option (List Char) :=
  let word := "export".toList
  if word.isPrefixOf cs then
    let rest := cs.drop word.length
    if (rest.head?.map isInnerBlank).getD false then some (skipBlanks rest) else none
  else none

-- The text up to a quote that no backslash stands in front of, and what follows. A backslash takes
-- the character after it along, whatever that is.
def untilQuote? (quote : Char) : List Char → Option (List Char × List Char)
  | [] => none
  | '\\' :: c :: rest =>
    (untilQuote? quote rest).map fun (text, after) => ('\\' :: c :: text, after)
  | c :: rest =>
    if c == quote then some ([], rest)
    else (untilQuote? quote rest).map fun (text, after) => (c :: text, after)

def escapes : List (Char × Char) :=
  [('\\', '\\'), ('\'', '\''), ('"', '"'), ('a', '\x07'), ('b', '\x08'), ('f', '\x0c'), ('n', '\n'),
   ('r', '\r'), ('t', '\t'), ('v', '\x0b')]

def singleEscapes : List (Char × Char) :=
  escapes.take 2

def unescape (escapes : List (Char × Char)) : List Char → List Char
  | '\\' :: c :: rest =>
    match Keyed.get? escapes c with
    | some d => d :: unescape escapes rest
    | none   => '\\' :: unescape escapes (c :: rest)
  | c :: rest => c :: unescape escapes rest
  | []        => []

def beforeComment : List Char → List Char
  | []        => []
  | c :: rest =>
    if Text.isBlank c && (rest.dropWhile Text.isBlank).head? == some '#' then []
    else c :: beforeComment rest

def trimEnd (cs : List Char) : List Char :=
  (cs.reverse.dropWhile Text.isBlank).reverse

-- The value after an equals sign, and what follows it. A number sign begins a comment if a blank
-- stands in front of it, and there is no value then.
def value? (cs : List Char) : Option (List Char × List Char) :=
  let spaced := (cs.head?.map isInnerBlank).getD false
  match skipBlanks cs with
  | '\'' :: rest => (untilQuote? '\'' rest).map fun (text, after) =>
    (unescape singleEscapes text, after)
  | '"' :: rest => (untilQuote? '"' rest).map fun (text, after) => (unescape escapes text, after)
  | cs =>
    if spaced && cs.head? == some '#' then some ([], cs)
    else
      let line := cs.takeWhile (!isLineEnd ·)
      some (trimEnd (beforeComment line), cs.drop line.length)

def name? (cs : List Char) : Option (Option (List Char) × List Char) :=
  match cs with
  | '#' :: _ => some (none, cs)
  | '\'' :: rest =>
    let name := rest.takeWhile (· != '\'')
    let after := rest.drop name.length
    if name.isEmpty || after.isEmpty then none else some (some name, after.drop 1)
  | cs =>
    let name := cs.takeWhile fun c => c != '=' && c != '#' && !Text.isBlank c
    if name.isEmpty then none else some (some name, cs.drop name.length)

def lineEnd? (cs : List Char) : Option (List Char) :=
  let rest := skipBlanks cs
  let rest := if rest.head? == some '#' then rest.dropWhile (!isLineEnd ·) else rest
  match rest with
  | []                   => some []
  | '\r' :: '\n' :: rest => some rest
  | c :: rest            => if isLineEnd c then some rest else none

def restOfLine (cs : List Char) : List Char :=
  (cs.dropWhile (!isLineEnd ·)).drop 1

-- A binding at the start of a line: its name and its value, if there are any, and what follows. A
-- failure says where it was met.
def binding (cs : List Char) :
    Except (List Char) (Option (List Char × Option (List Char)) × List Char) := do
  let cs := (export? cs).getD cs
  match name? cs with
  | none => throw cs
  | some (name, rest) =>
    let rest := skipBlanks rest
    let (value, rest) ←
      match rest with
      | '=' :: rest =>
        match value? rest with
        | some (text, after) => pure (some text, after)
        | none               => throw (skipBlanks rest)
      | rest => pure (none, rest)
    match lineEnd? rest with
    | some after => return (name.map (·, value), after)
    | none       => throw rest

def bindingsOf : Nat → List Char → List (String × Option String)
  | 0, _      => []
  | n + 1, cs =>
    match cs.dropWhile Text.isBlank with
    | []   => []
    | line =>
      match binding line with
      | .ok (some (name, value), after) =>
        (String.ofList name, value.map String.ofList) :: bindingsOf n after
      | .ok (none, after) => bindingsOf n after
      | .error stuck      => bindingsOf n (restOfLine stuck)

def bindings (s : String) : List (String × Option String) :=
  bindingsOf (s.length + 1) s.toList

def reference? (cs : List Char) : Option (List Char × List Char × List Char) :=
  match cs with
  | '$' :: '\x7b' :: rest =>
    let name  := rest.takeWhile fun c => c != '\x7d' && c != ':'
    match rest.drop name.length with
    | '\x7d' :: after => some (name, [], after)
    | ':' :: '-' :: more =>
      let absent := more.takeWhile (· != '\x7d')
      match more.drop absent.length with
      | '\x7d' :: after => some (name, absent, after)
      | _               => none
    | _ => none
  | _ => none

def expandWith (find : String → Option String) : Nat → List Char → List Char
  | 0, cs     => cs
  | n + 1, cs =>
    match reference? cs with
    | some (name, absent, after) =>
      (((find (String.ofList name)).map String.toList).getD absent) ++ expandWith find n after
    | none =>
      match cs with
      | []        => []
      | c :: rest => c :: expandWith find n rest

def expand (find : String → Option String) (s : String) : String :=
  String.ofList (expandWith find s.length s.toList)

-- The value of a name for a reference: from the environment, or else from the file so far. A name
-- without a value is empty.
def lookUp (vars : Variables) (soFar : List (String × Option String)) (name : String) :
    Option String :=
  (vars.get? name).or ((Keyed.get? soFar name).map (·.getD ""))

-- The bindings with all references replaced. A name stands where it was bound first, with the value
-- that it was bound to last.
def resolve (vars : Variables) (bindings : List (String × Option String)) :
    List (String × Option String) :=
  bindings.foldl (fun soFar (name, value) =>
    Keyed.assign soFar name (value.map (expand (lookUp vars soFar)))) []

-- Sets the variables that have no value yet, up to one that the system refuses.
def offerAll : List (String × Option String) → Act Variables Unit
  | [] => pure ()
  | (name, some value) :: rest => do
    Variables.offer name value
    offerAll rest
  | (_, none) :: rest => offerAll rest

def switchName : String := "PYTHON_DOTENV_DISABLED"

def isSwitchedOff (vars : Variables) : Bool :=
  match vars.get? switchName with
  | some s => ["1", "true", "t", "yes", "y"].contains (Text.lower (Text.upper s))
  | none   => false

-- A file may begin with a byte order mark, which does not belong to its text.
def withoutMark (cs : List Char) : List Char :=
  match cs with
  | '\ufeff' :: rest => rest
  | cs               => cs

def load (s : String) : Act Variables Unit := fun vars =>
  if isSwitchedOff vars then (.ok (), vars)
  else offerAll (resolve vars (bindings (String.ofList (withoutMark s.toList)))) vars

theorem get?_offerAll {vars : Variables} {name value : String}
    (bindings : List (String × Option String)) (h : vars.get? name = some value) :
    (offerAll bindings vars).2.get? name = some value := by
  induction bindings generalizing vars with
  | nil => exact h
  | cons b bs ih =>
    obtain ⟨other, v⟩ := b
    cases v with
    | none   => exact ih h
    | some w =>
      have := Variables.get?_offer other w h
      simp only [offerAll, Act.bind_apply]
      split
      case h_1 e => exact ih (by simpa [e] using this)
      case h_2 e => simpa [e] using this

theorem get?_load_of_isSet {vars : Variables} {name value : String} (s : String)
    (h : vars.get? name = some value) : (load s vars).2.get? name = some value := by
  unfold load
  split
  case isTrue  => exact h
  case isFalse => exact get?_offerAll _ h

end EnvFile

end BoundedWait
