import BoundedWait.Decimal.Reading
import BoundedWait.Yaml.Tag

namespace BoundedWait

namespace Yaml

inductive Directive where
  | version (major : Nat)
  | handle (name start : String)
  | other
deriving DecidableEq, Repr

namespace Directive

def endsPart (c : Cursor) : Except Error Unit :=
  if isLineEnd c.peek || c.peek == some ' ' then .ok () else .error .malformedDirective

def readNumber (c : Cursor) : Except Error (Nat × Cursor) := do
  let (digits, after) := c.span Char.isDigit
  if digits.isEmpty then throw .malformedDirective
  if Misuse.mostDigits < digits.length then
    throw (.misread (.tooManyDigits (some digits.length)))
  return (Decimal.ofDigits digits, after)

def readVersion (c : Cursor) : Except Error (Directive × Cursor) := do
  let (major, after) ← readNumber c.spaces.2
  if after.peek != some '.' then throw .malformedDirective
  let (_, last) ← readNumber after.next
  endsPart last
  return (.version major, last)

def readHandle (c : Cursor) : Except Error (Directive × Cursor) := do
  let (name, after) ← Tag.readHandle c.spaces.2
  if after.peek != some ' ' then throw .malformedDirective
  let (start, last) ← Tag.readRest after.spaces.2
  endsPart last
  return (.handle name start, last)

def read (c : Cursor) : Except Error (Directive × Cursor) := do
  let (name, after) := c.next.span isNameChar
  if name.isEmpty then throw .malformedDirective
  endsPart after
  let (directive, last) ←
    match String.ofList name with
    | "YAML" => readVersion after
    | "TAG"  => readHandle after
    | _      => pure (.other, (after.span (!isBreak ·)).2)
  let some line := last.nextLine? | throw .malformedDirective
  return (directive, line)

end Directive

structure Declarations where
  hasVersion : Bool
  handles    : Handles

namespace Declarations

-- A version may be given once, and it has to be a first one; so may each handle.
def add (d : Declarations) : Directive → Except Error Declarations
  | .version major =>
    if d.hasVersion then .error .repeatedDirective
    else if major != 1 then .error .unsupportedVersion
    else .ok { d with hasVersion := true }
  | .handle name start =>
    if (d.handles.lookup name).isSome then .error .repeatedDirective
    else .ok { d with handles := (name, start) :: d.handles }
  | .other => .ok d

def ofDirectives (ds : List Directive) : Except Error Declarations :=
  ds.foldlM add ⟨false, []⟩

theorem ofDirectives_nil : ofDirectives [] = .ok ⟨false, []⟩ := rfl

def allHandles (d : Declarations) : Handles :=
  d.handles ++ Handles.standard

end Declarations

end Yaml

end BoundedWait
