import BoundedWait.Text.Hexadecimal
import BoundedWait.Yaml.Cursor
import BoundedWait.Yaml.Pen
import BoundedWait.Yaml.Plain

namespace BoundedWait

namespace Yaml

inductive Style where
  | bare
  | single
  | double
deriving DecidableEq, Repr

namespace Style

def width : Nat := 80

def isSimple (c : Char) : Bool :=
  c == '\n' || (' ' ≤ c && c ≤ '~')

def hasPair (first second : Char → Bool) (cs : List Char) : Bool :=
  (cs.zip (cs.drop 1)).any fun (a, b) => first a && second b

def isSpace (c : Char) : Bool :=
  c == ' '

def isEnd (c : Char) : Bool :=
  c == '\n' || c == '\x85' || c == '\u2028' || c == '\u2029'

def beginsLikeSign : List Char → Bool
  | []        => false
  | c :: rest =>
    "#,[]\x7b\x7d&*!|>'\"%@\x60".toList.contains c ||
      ("?:-".toList.contains c && isGap rest.head?)

def containsSign (before : Char) : List Char → Bool
  | []        => false
  | c :: rest =>
    (c == ':' && isGap rest.head?) || (c == '#' && isGap (some before)) || containsSign c rest

def looksLikeSign (cs : List Char) : Bool :=
  cs.take 3 == ['-', '-', '-'] || cs.take 3 == ['.', '.', '.'] || beginsLikeSign cs ||
    containsSign (cs.headD ' ') (cs.drop 1)

-- Whether a space or the end of a line stands at an end of a text, where it would get lost.
def hasLooseEnd (cs : List Char) : Bool :=
  let isLoose (c : Option Char) := (c.map fun c => isSpace c || isEnd c).getD false
  isLoose cs.head? || isLoose cs.getLast?

def isMultiline (cs : List Char) : Bool :=
  cs.any isEnd

def allowsSingle (cs : List Char) : Bool :=
  cs.all isSimple && !hasPair isEnd isSpace cs && !hasPair isSpace isEnd cs

def allowsBare (cs : List Char) : Bool :=
  allowsSingle cs && !isMultiline cs && !hasLooseEnd cs && !looksLikeSign cs

def ofText (isKey : Bool) (s : String) : Style :=
  let cs := s.toList
  if Plain.kind s == some .text && allowsBare cs then bare
  else if allowsSingle cs && !(isKey && isMultiline cs) then single
  else double

theorem ofText_empty (isKey : Bool) : ofText isKey "" = single := by
  cases isKey <;> decide +kernel

def runs (cs : List Char) : List (List Char) :=
  cs.splitBy fun a b => isSpace a == isSpace b && isEnd a == isEnd b

def putBare (folds : Bool) (indent : Nat) (p : Pen) (run : List Char) : Pen :=
  if run == [' '] && folds && width < p.column then p.fold indent else p.put run

def writeBare (folds : Bool) (indent : Nat) (cs : List Char) (p : Pen) : Pen :=
  (runs cs).foldl (putBare folds indent)
    { p.spaced with isSpaced := false, isIndented := false }

-- A part of a text in single quotes. A line break counts as a space, so it takes one more.
def putSingle (folds : Bool) (indent : Nat) (p : Pen) (run : List Char) : Pen :=
  if run == [' '] && folds && width < p.column then p.toIndent indent
  else if run.head? == some '\n' then
    (run.foldl (fun p _ => p.newLine) p.newLine).toIndent indent
  else p.put (run.flatMap fun c => if c == '\'' then ['\'', '\''] else [c])

-- A text in single quotes. It is not folded at its ends.
def writeSingle (folds : Bool) (indent : Nat) (cs : List Char) (p : Pen) : Pen :=
  let rs := runs cs
  let p  := (rs.take 1).foldl (putSingle false indent) (p.sign "'")
  let p  := ((rs.drop 1).dropLast).foldl (putSingle folds indent) p
  (((rs.drop 1).getLast?.toList).foldl (putSingle false indent) p).close "'"

def isPlain (c : Char) : Bool :=
  c != '"' && c != '\\' && ' ' ≤ c && c ≤ '~'

def letter? (c : Char) : Option Char :=
  [('\x00', '0'), ('\x07', 'a'), ('\x08', 'b'), ('\t', 't'), ('\n', 'n'), ('\x0b', 'v'),
   ('\x0c', 'f'), ('\r', 'r'), ('\x1b', 'e'), ('"', '"'), ('\\', '\\'), ('\x85', 'N'),
   ('\xa0', '_'), ('\u2028', 'L'), ('\u2029', 'P')].lookup c

def hexadecimal (width n : Nat) : List Char :=
  (Text.hexadecimal width n).map Char.toUpper

def escape (c : Char) : List Char :=
  if isPlain c then [c]
  else
    match letter? c with
    | some l => ['\\', l]
    | none   =>
      if c.toNat < 0x100 then '\\' :: 'x' :: hexadecimal 2 c.toNat
      else if c.toNat < 0x10000 then '\\' :: 'u' :: hexadecimal 4 c.toNat
      else '\\' :: 'U' :: hexadecimal 8 c.toNat

theorem escape_of_isPlain {c : Char} (h : isPlain c = true) : escape c = [c] := by
  simp [escape, h]

-- Ends a line of a text in double quotes. A space at the start of the next one has to be escaped.
def breakDouble (indent : Nat) (next : Option Char) (p : Pen) : Pen :=
  let p := (p.put ['\\']).fold indent
  if next == some ' ' then p.put ['\\'] else p

-- The characters of a text in double quotes. `waiting` are those that are not written yet, from
-- their end; a line is not folded in front of the first and the last character.
def putDouble (folds : Bool) (indent : Nat) : Bool → List Char → List Char → Pen → Pen
  | _, [], waiting, p            => p.put waiting.reverse
  | isFirst, c :: rest, waiting, p =>
    let mayFold := folds && !isFirst && !rest.isEmpty
    if isPlain c then
      if mayFold && (c == ' ' || waiting.isEmpty) && width < p.column + waiting.length then
        putDouble folds indent false rest [c]
          (breakDouble indent (some c) (p.put waiting.reverse))
      else putDouble folds indent false rest (c :: waiting) p
    else
      let p := (p.put waiting.reverse).put (escape c)
      putDouble folds indent false rest []
        (if mayFold && width + 1 < p.column then breakDouble indent rest.head? p else p)

def writeDouble (folds : Bool) (indent : Nat) (cs : List Char) (p : Pen) : Pen :=
  (putDouble folds indent true cs [] (p.sign "\"")).close "\""

def writeLines (indent : Nat) (lines : List (List Char)) (p : Pen) : Pen :=
  lines.foldl (fun p line => ((p.toIndent indent).put line).newLine) (p.sign "|").newLine

end Style

end Yaml

end BoundedWait
