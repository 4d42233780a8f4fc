import BoundedWait.Text.Base64
import BoundedWait.Value.Order
import BoundedWait.Yaml.Kind
import BoundedWait.Yaml.Style

namespace BoundedWait

namespace Yaml

namespace Printer

-- Where a value is written: how far its block is indented, if it is inside of one, whether it
-- belongs to a mapping, and whether it is a key in front of its colon.
structure Place where
  indent    : Option Nat
  inMapping : Bool
  isKey     : Bool

abbrev Writing := Place → Pen → Pen

-- A double always has a point, also in front of an exponent.
def double (x : Float) : String :=
  if x.isNaN then ".nan"
  else if x == Binary64.infinity then ".inf"
  else if x == -Binary64.infinity then "-.inf"
  else
    let cs := (Decimal.ofFloat x).toList
    if cs.contains '.' then String.ofList cs
    else String.ofList (cs.takeWhile (· != 'e') ++ ['.', '0'] ++ cs.dropWhile (· != 'e'))

def number : Number → String
  | .bool b    => if b then "true" else "false"
  | .int i     => toString i
  | .float x _ => double x

def textIndent (place : Place) : Nat :=
  (place.indent.map (· + 2)).getD 2

-- A text in some style. A bare text by itself might go on, so its end has to be marked.
def scalar (style : Style) (s : String) : Writing :=
  fun place p =>
    let folds := !place.isKey
    let cs := s.toList
    match style with
    | .bare   =>
      let p := Style.writeBare folds (textIndent place) cs p
      { p with isOpen := p.isOpen || place.indent.isNone }
    | .single => Style.writeSingle folds (textIndent place) cs p
    | .double => Style.writeDouble folds (textIndent place) cs p

def text (s : String) : Writing :=
  fun place => scalar (Style.ofText place.isKey s) s place

def groups {α : Type} (length : Nat) : Nat → List α → List (List α)
  | 0, _      => []
  | n + 1, xs => if xs.isEmpty then [] else xs.take length :: groups length n (xs.drop length)

def octetsPerLine : Nat := 57

def octets (os : List UInt8) : Writing :=
  fun place p =>
    let p := p.sign "!!binary"
    if os.isEmpty then scalar .double "" place p
    else
      Style.writeLines (textIndent place) ((groups octetsPerLine os.length os).map Base64.encode) p

-- The indentation of the parts of a block. Items of a mapping's entry need none of their own.
def inner (place : Place) (isFlat : Bool) : Nat :=
  match place.indent with
  | none   => 0
  | some n => if isFlat then n else n + 2

def tagged (tag : Option String) (p : Pen) : Pen :=
  match tag with
  | some t => p.sign t
  | none   => p

def sequence (tag : Option String) (items : List Writing) : Writing :=
  fun place p =>
    let p := tagged tag p
    if items.isEmpty then p.sign "[]"
    else
      let indent := inner place (place.inMapping && !p.isIndented)
      items.foldl
        (fun p item => item ⟨some indent, false, false⟩ ((p.toIndent indent).opener "-")) p

def tupleTag : String := "!!python/tuple"

def setTag : String := "!!set"

def foreignTag : String := "!object"

def tagName : Value → String
  | .null             => "!!null"
  | .number (.bool _) => "!!bool"
  | .number (.int _)  => "!!int"
  | .number _         => "!!float"
  | .text _           => "!!str"
  | .bytes _          => "!!binary"
  | .tuple _          => tupleTag
  | _                 => foreignTag

def keyText? : Value → Option String
  | .null         => some "null"
  | .number n     => some (number n)
  | .text s       => if s.isEmpty || Style.isMultiline s.toList then none else some s
  | .bytes _      => none
  | .tuple (_::_) => none
  | _             => some ""

def keyLimit : Nat := 128

def isShortKey (key : Value) : Bool :=
  match keyText? key with
  | some s => (tagName key).length + s.length < keyLimit
  | none   => false

def entry (indent : Nat) (key : Value) (writeKey writeValue : Writing) (p : Pen) : Pen :=
  let p := p.toIndent indent
  let place : Place := ⟨some indent, true, false⟩
  if isShortKey key then
    writeValue place ((writeKey { place with isKey := true } p).close ":")
  else
    let p := writeKey place (p.opener "?")
    writeValue place ((p.toIndent indent).opener ":")

-- Whether one key comes in front of another; `none` if they have no order.
def precedes (a b : Value) : Option Bool :=
  (a.relate .lt b).toOption

def allComparable (keys : List Value) : Bool :=
  keys.all fun a => keys.all fun b => (precedes a b).isSome

def sorted {α : Type} (entries : List (Value × α)) : List (Value × α) :=
  if allComparable (entries.map (·.1)) then
    entries.mergeSort fun a b => !((precedes b.1 a.1).getD false)
  else entries

def mapping (tag : Option String) (entries : List (Value × Writing × Writing)) : Writing :=
  fun place p =>
    let p := tagged tag p
    if entries.isEmpty then p.sign "\x7b\x7d"
    else
      let indent := inner place false
      (sorted entries).foldl (fun p (key, writeKey, writeValue) =>
        entry indent key writeKey writeValue p) p

mutual

def value : Value → Writing
  | .null         => scalar .bare "null"
  | .number n     => scalar .bare (number n)
  | .text s       => text s
  | .bytes os     => octets os
  | .list items   => sequence none (values items)
  | .tuple items  => sequence (some tupleTag) (values items)
  | .dict entries => mapping none (entryWritings entries)
  | .set items    => mapping (some setTag) (memberWritings items)
  | _             => mapping (some foreignTag) []

def values : List Value → List Writing
  | []      => []
  | v :: vs => value v :: values vs

def entryWritings : List (Value × Value) → List (Value × Writing × Writing)
  | []           => []
  | (k, v) :: es => (k, value k, value v) :: entryWritings es

def memberWritings : List Value → List (Value × Writing × Writing)
  | []      => []
  | v :: vs => (v, value v, scalar .bare "null") :: memberWritings vs

end

-- A whole text. It ends with a mark if it could go on.
def document (v : Value) : Pen :=
  let p := (value v ⟨none, false, false⟩ Pen.start).toIndent 0
  if p.isOpen then (p.sign "...").toIndent 0 else p

end Printer

def write (v : Value) : String :=
  (Printer.document v).text

theorem write_null : write .null = "null\n...\n" := by
  decide +kernel

theorem write_nothing : write (.dict []) = "\x7b\x7d\n" := by
  decide +kernel

end Yaml

end BoundedWait
