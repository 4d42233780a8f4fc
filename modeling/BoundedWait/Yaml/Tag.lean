import BoundedWait.Yaml.Cursor
import BoundedWait.Yaml.Kind
import BoundedWait.Yaml.Error
import BoundedWait.Text.Hexadecimal

namespace BoundedWait

namespace Yaml

structure Tag where
  handle : Option String
  rest   : String
deriving DecidableEq, Repr

abbrev Handles := List (String × String)

namespace Handles

def standard : Handles :=
  [("!", "!"), ("!!", Kind.family)]

end Handles

namespace Tag

def name? (handles : Handles) (t : Tag) : Option String :=
  match t.handle with
  | none   => some t.rest
  | some h => (handles.lookup h).map (· ++ t.rest)

theorem name?_of_written (handles : Handles) (name : String) :
    name? handles ⟨none, name⟩ = some name := rfl

theorem name?_standard (rest : String) :
    name? Handles.standard ⟨some "!!", rest⟩ = some (Kind.family ++ rest) := rfl

def isTagChar (c : Char) : Bool :=
  c.isAlphanum || "-;/?:@&=+$,_.!~*'()[]".toList.contains c

def octets : Nat → List Char → Except Error (List UInt8 × List Char)
  | 0, cs     => .ok ([], cs)
  | n + 1, cs =>
    match cs with
    | '%' :: a :: b :: rest =>
      match Text.hexNumber? [a, b] with
      | some octet => do
        let (more, after) ← octets n rest
        return (octet.toUInt8 :: more, after)
      | none => .error .malformedTag
    | '%' :: _ => .error .malformedTag
    | cs       => .ok ([], cs)

def chars : Nat → List Char → Except Error (List Char × List Char)
  | 0, cs     => .ok ([], cs)
  | n + 1, cs =>
    match cs with
    | [] => .ok ([], [])
    | '%' :: _ => do
      let (found, rest) ← octets cs.length cs
      match String.fromUTF8? ⟨found.toArray⟩ with
      | some s =>
        let (more, after) ← chars n rest
        return (s.toList ++ more, after)
      | none => throw .malformedTag
    | c :: rest =>
      if isTagChar c then do
        let (more, after) ← chars n rest
        return (c :: more, after)
      else .ok ([], cs)

def readRest (c : Cursor) : Except Error (String × Cursor) := do
  let (text, rest) ← chars c.rest.length c.rest
  if text.isEmpty then throw .malformedTag
  return (String.ofList text, c.skip (c.rest.length - rest.length))

-- A handle: a sign by itself, or a name between two of them, which may be empty.
def readHandle (c : Cursor) : Except Error (String × Cursor) := do
  if c.peek != some '!' then throw .malformedTag
  if c.ahead 1 == some ' ' then return ("!", c.next)
  let (name, after) := c.next.span isNameChar
  if after.peek != some '!' then throw .malformedTag
  return (String.ofList ('!' :: name ++ ['!']), after.next)

def hasHandle (c : Cursor) : Bool :=
  (c.next.rest.takeWhile fun ch => ch != ' ' && !isBreak ch).contains '!'

def readParts (c : Cursor) : Except Error (Tag × Cursor) := do
  if c.ahead 1 == some '<' then
    let (text, after) ← readRest (c.skip 2)
    if after.peek != some '>' then throw .malformedTag
    return (⟨none, text⟩, after.next)
  else if isGap (c.ahead 1) then return (⟨none, "!"⟩, c.next)
  else if hasHandle c then
    let (handle, after) ← readHandle c
    let (text, last) ← readRest after
    return (⟨some handle, text⟩, last)
  else
    let (text, after) ← readRest c.next
    return (⟨some "!", text⟩, after)

def read (c : Cursor) : Except Error (Tag × Cursor) := do
  let (tag, after) ← readParts c
  if !(isLineEnd after.peek || after.peek == some ' ') then throw .malformedTag
  return (tag, after)

end Tag

end Yaml

end BoundedWait
