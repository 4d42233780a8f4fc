import BoundedWait.Yaml.Scalar
import BoundedWait.Yaml.Directive

namespace BoundedWait

namespace Yaml

inductive Token where
  | streamEnd
  | directive (d : Directive)
  | documentStart
  | documentEnd
  | blockSequenceStart
  | blockMappingStart
  | blockEnd
  | flowSequenceStart
  | flowSequenceEnd
  | flowMappingStart
  | flowMappingEnd
  | flowEntry
  | blockEntry
  | key
  | value
  | anchor (name : String)
  | alias (name : String)
  | tag (t : Tag)
  | scalar (text : String) (bare : Bool)
  | broken (e : Error)
deriving DecidableEq, Repr

-- Where a key may begin: in front of which token, at which place of the text, and whether the
-- indentation leaves nothing else that it could be.
structure KeyPlace where
  token    : Nat
  index    : Nat
  line     : Nat
  column   : Nat
  required : Bool

-- How far a text has been read. `pending` is where a key may begin, and `outer` the same outside of
-- each open bracket; `allowKey` says that a key may begin right here.
structure Tokens where
  cursor   : Cursor
  tokens   : List Token
  indent   : Int
  indents  : List Int
  allowKey : Bool
  pending  : Option KeyPlace
  outer    : List (Option KeyPlace)

namespace Tokens

def start (s : String) : Tokens where
  cursor   := (Cursor.ofText s).withoutMark
  tokens   := []
  indent   := -1
  indents  := []
  allowKey := true
  pending  := none
  outer    := []

def inFlow (t : Tokens) : Bool :=
  !t.outer.isEmpty

def add (t : Tokens) (token : Token) : Tokens :=
  { t with tokens := t.tokens ++ [token] }

theorem add_tokens (t : Tokens) (token : Token) : (t.add token).tokens = t.tokens ++ [token] := rfl

def insertAt (t : Tokens) (place : Nat) (tokens : List Token) : Tokens :=
  { t with tokens := t.tokens.take place ++ tokens ++ t.tokens.drop place }

def moveTo (t : Tokens) (c : Cursor) : Tokens :=
  { t with cursor := c }

def allowing (t : Tokens) (allowKey : Bool) : Tokens :=
  { t with allowKey }

-- Spaces, comments and line breaks before the next token. A key may begin on a new line.
def skipGap : Nat → Tokens → Tokens
  | 0, t     => t
  | n + 1, t =>
    let (_, c) := t.cursor.spaces
    let (_, c) := if c.peek == some '#' then c.span (!isBreak ·) else ([], c)
    let (b, next) := c.lineBreak
    if b.isEmpty then t.moveTo c
    else skipGap n { t with cursor := next, allowKey := t.allowKey || !t.inFlow }

-- A key has to stand on one line, with its colon not too far from where it begins.
def isStale (c : Cursor) (k : KeyPlace) : Bool :=
  k.line != c.line || k.index + 1024 < c.index

def keepFresh (c : Cursor) : Option KeyPlace → Except Error (Option KeyPlace)
  | none   => .ok none
  | some k =>
    if !isStale c k then .ok (some k)
    else if k.required then .error .missingColon
    else .ok none

def dropStale (t : Tokens) : Except Error Tokens := do
  let pending ← keepFresh t.cursor t.pending
  let outer   ← t.outer.mapM (keepFresh t.cursor)
  return { t with pending, outer }

def forgetKey (t : Tokens) : Except Error Tokens :=
  match t.pending with
  | some k => if k.required then .error .missingColon else .ok { t with pending := none }
  | none   => .ok t

def rememberKey (t : Tokens) : Except Error Tokens := do
  if !t.allowKey then return t
  let t ← t.forgetKey
  let c := t.cursor
  let required := !t.inFlow && t.indent == c.column
  return { t with pending := some ⟨t.tokens.length, c.index, c.line, c.column, required⟩ }

def unwind (column : Int) : Nat → Tokens → Tokens
  | 0, t     => t
  | n + 1, t =>
    if t.indent ≤ column then t
    else
      unwind column n { t.add .blockEnd with
        indent  := t.indents.headD (-1)
        indents := t.indents.drop 1 }

def unwindTo (t : Tokens) (column : Int) : Tokens :=
  if t.inFlow then t else unwind column (t.indents.length + 1) t

def deepen (t : Tokens) (column : Int) : Bool × Tokens :=
  if t.indent < column then
    (true, { t with indent := column, indents := t.indent :: t.indents })
  else (false, t)

def begin (t : Tokens) (token : Token) : Tokens :=
  match t.deepen t.cursor.column with
  | (true, t)  => t.add token
  | (false, t) => t

def separate (t : Tokens) (allowKey : Bool) (length : Nat) (token : Token) :
    Except Error Tokens := do
  let t ← t.forgetKey
  return ((t.allowing allowKey).moveTo (t.cursor.skip length)).add token

def streamEnd (t : Tokens) : Except Error Tokens := do
  let t ← (t.unwindTo (-1)).forgetKey
  return (t.allowing false).add .streamEnd

def marker (t : Tokens) (token : Token) : Except Error Tokens :=
  (t.unwindTo (-1)).separate false 3 token

def directive (t : Tokens) : Except Error Tokens := do
  let t ← (t.unwindTo (-1)).forgetKey
  let (directive, after) ← Directive.read t.cursor
  return ((t.allowing false).moveTo after).add (.directive directive)

def openFlow (t : Tokens) (token : Token) : Except Error Tokens := do
  let t ← t.rememberKey
  return { (t.add token) with
    cursor := t.cursor.next, allowKey := true, pending := none, outer := t.pending :: t.outer }

def closeFlow (t : Tokens) (token : Token) : Except Error Tokens := do
  let t ← t.separate false 1 token
  return { t with pending := t.outer.headD none, outer := t.outer.drop 1 }

def blockEntry (t : Tokens) : Except Error Tokens :=
  if t.inFlow then t.separate true 1 .blockEntry
  else if !t.allowKey then .error .misplacedEntry
  else (t.begin .blockSequenceStart).separate true 1 .blockEntry

def explicitKey (t : Tokens) : Except Error Tokens :=
  if t.inFlow then t.separate false 1 .key
  else if !t.allowKey then .error .misplacedKey
  else (t.begin .blockMappingStart).separate true 1 .key

def colon (t : Tokens) : Except Error Tokens :=
  match t.pending with
  | some k =>
    let (begins, t) := if t.inFlow then (false, t) else t.deepen k.column
    let marks := if begins then [.blockMappingStart, .key] else [.key]
    let t := (t.insertAt k.token marks).moveTo t.cursor.next
    .ok ({ t with pending := none, allowKey := false }.add .value)
  | none =>
    if t.inFlow then t.separate false 1 .value
    else if !t.allowKey then .error .misplacedValue
    else (t.begin .blockMappingStart).separate true 1 .value

def endsName : Option Char → Bool
  | none   => true
  | some c => isGap (some c) || ['?', ':', ',', ']', '\x7d', '%', '@', '\x60'].contains c

def named (t : Tokens) (token : String → Token) : Except Error Tokens := do
  let t ← t.rememberKey
  let (name, after) := t.cursor.next.span isNameChar
  if name.isEmpty || !endsName after.peek then throw .malformedName
  return ((t.allowing false).moveTo after).add (token (String.ofList name))

def tagged (t : Tokens) : Except Error Tokens := do
  let t ← t.rememberKey
  let (tag, after) ← Tag.read t.cursor
  return ((t.allowing false).moveTo after).add (.tag tag)

def block (t : Tokens) : Except Error Tokens := do
  let t ← t.forgetKey
  let (text, after) ← Scalar.block t.indent t.cursor
  return ((t.allowing true).moveTo after).add (.scalar (String.ofList text) false)

def quoted (t : Tokens) : Except Error Tokens := do
  let t ← t.rememberKey
  let (text, after) ← Scalar.quoted t.cursor
  return ((t.allowing false).moveTo after).add (.scalar (String.ofList text) false)

def bare (t : Tokens) : Except Error Tokens := do
  let t ← t.rememberKey
  let (text, broken, after) := Scalar.bare t.inFlow (t.indent + 1).toNat t.cursor
  return ((t.allowing broken).moveTo after).add (.scalar (String.ofList text) true)

def beginsBare (t : Tokens) (c : Char) : Bool :=
  let special := "-?:,[]\x7b\x7d#&*!|>'\"%@\x60".toList
  !(isGap (some c) || special.contains c) ||
    (!isGap (t.cursor.ahead 1) && (c == '-' || (!t.inFlow && (c == '?' || c == ':'))))

def token (t : Tokens) : Except Error Tokens :=
  let c := t.cursor
  let lineStart := c.column == 0
  match c.peek with
  | none    => t.streamEnd
  | some ch =>
    if ch == '%' && lineStart then t.directive
    else if lineStart && c.hasMarker ['-', '-', '-'] then t.marker .documentStart
    else if lineStart && c.hasMarker ['.', '.', '.'] then t.marker .documentEnd
    else if ch == '[' then t.openFlow .flowSequenceStart
    else if ch == '\x7b' then t.openFlow .flowMappingStart
    else if ch == ']' then t.closeFlow .flowSequenceEnd
    else if ch == '\x7d' then t.closeFlow .flowMappingEnd
    else if ch == ',' then t.separate true 1 .flowEntry
    else if ch == '-' && isGap (c.ahead 1) then t.blockEntry
    else if ch == '?' && (t.inFlow || isGap (c.ahead 1)) then t.explicitKey
    else if ch == ':' && (t.inFlow || isGap (c.ahead 1)) then t.colon
    else if ch == '*' then t.named .alias
    else if ch == '&' then t.named .anchor
    else if ch == '!' then t.tagged
    else if (ch == '|' || ch == '>') && !t.inFlow then t.block
    else if ch == '\'' || ch == '"' then t.quoted
    else if t.beginsBare ch then t.bare
    else .error .strayCharacter

def step (t : Tokens) : Except Error Tokens := do
  let t ← (t.skipGap (t.cursor.rest.length + 1)).dropStale
  let t ← (t.unwindTo t.cursor.column).token
  t.dropStale

def settled (t : Tokens) : Nat :=
  ((t.pending :: t.outer).filterMap (·.map (·.token))).foldl min t.tokens.length

def isFinished (t : Tokens) : Bool :=
  t.tokens.getLast? == some .streamEnd

def run : Nat → Tokens → List Token
  | 0, t     => t.tokens
  | n + 1, t =>
    if t.isFinished then t.tokens
    else
      match t.step with
      | .ok next => run n next
      | .error e => t.tokens.take t.settled ++ [.broken e]

end Tokens

-- The tokens of a text. Each step takes a character at least, except for the last one.
def Token.ofText (s : String) : List Token :=
  Tokens.run (s.length + 2) (Tokens.start s)

end Yaml

end BoundedWait
