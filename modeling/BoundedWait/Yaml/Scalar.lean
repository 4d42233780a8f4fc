import BoundedWait.Yaml.Cursor
import BoundedWait.Yaml.Error
import BoundedWait.Text.Hexadecimal

namespace BoundedWait

namespace Yaml

namespace Scalar

-- Line breaks between two parts of a text: a single one joins the parts.
def folded (first : List Char) (more : List Char) : List Char :=
  if first != ['\n'] then first ++ more
  else if more.isEmpty then [' ']
  else more

-- A part of a bare text: up to the end of the line, a colon before a gap, or, inside of brackets,
-- something that belongs to the brackets.
def bareLength (inFlow : Bool) : List Char → Nat
  | [] => 0
  | c :: rest =>
    let colonEnds :=
      match rest.head? with
      | none   => true
      | some d => isGap (some d) || (inFlow && [',', '[', ']', '\x7b', '\x7d'].contains d)
    if isGap (some c) || (c == ':' && colonEnds) ||
        (inFlow && [',', '?', '[', ']', '\x7b', '\x7d'].contains c) then 0
    else bareLength inFlow rest + 1

def bareBreaks : Nat → Cursor → List Char → Option (List Char × Cursor)
  | 0, c, breaks     => some (breaks, c)
  | n + 1, c, breaks =>
    match c.peek with
    | some ' ' => bareBreaks n c.next breaks
    | some ch  =>
      if isBreak ch then
        let (b, after) := c.lineBreak
        if after.atDocumentMarker then none else bareBreaks n after (breaks ++ b)
      else some (breaks, c)
    | none => some (breaks, c)

def bareGap (c : Cursor) : Option (List Char) × Bool × Cursor :=
  let (blanks, after) := c.spaces
  if !after.rest.isEmpty && isLineEnd after.peek then
    let (first, next) := after.lineBreak
    if next.atDocumentMarker then (none, true, next)
    else
      match bareBreaks next.rest.length next [] with
      | some (breaks, last) => (some (folded first breaks), true, last)
      | none                => (none, true, next)
  else (if blanks.isEmpty then none else some blanks, false, after)

-- A bare text. Its lines have to stand further to the right than `indent`, outside of brackets. The
-- flag says whether it ended with a line break.
def bareLoop (inFlow : Bool) (indent : Nat) :
    Nat → Cursor → List Char → List Char → Bool → List Char × Bool × Cursor
  | 0, c, text, _, broken => (text, broken, c)
  | n + 1, c, text, gap, broken =>
    if c.peek == some '#' then (text, broken, c)
    else
      let length := bareLength inFlow c.rest
      if length = 0 then (text, broken, c)
      else
        let text := text ++ gap ++ c.rest.take length
        match bareGap (c.skip length) with
        | (none, broken, after) => (text, broken, after)
        | (some gap, broken, after) =>
          if after.peek == some '#' || (!inFlow && after.column < indent) then (text, broken, after)
          else bareLoop inFlow indent n after text gap broken

def bare (inFlow : Bool) (indent : Nat) (c : Cursor) : List Char × Bool × Cursor :=
  bareLoop inFlow indent c.rest.length c [] [] false

def escape? : Char → Option Char
  | '0'  => some '\x00'
  | 'a'  => some '\x07'
  | 'b'  => some '\x08'
  | 't'  => some '\t'
  | '\t' => some '\t'
  | 'n'  => some '\n'
  | 'v'  => some '\x0b'
  | 'f'  => some '\x0c'
  | 'r'  => some '\r'
  | 'e'  => some '\x1b'
  | ' '  => some ' '
  | '"'  => some '"'
  | '\\' => some '\\'
  | '/'  => some '/'
  | 'N'  => some '\x85'
  | '_'  => some '\xa0'
  | 'L'  => some '\u2028'
  | 'P'  => some '\u2029'
  | _    => none

def codeLength? : Char → Option Nat
  | 'x' => some 2
  | 'u' => some 4
  | 'U' => some 8
  | _   => none

def code? : List Char → Option (Nat × Nat)
  | '\\' :: sign :: rest => do
    let length ← codeLength? sign
    let digits := rest.take length
    if digits.length = length then return (← Text.hexNumber? digits, length + 2) else none
  | _ => none

def isFirstHalf (n : Nat) : Bool :=
  0xD800 ≤ n && n < 0xDC00

def isSecondHalf (n : Nat) : Bool :=
  0xDC00 ≤ n && n < 0xE000

def joined (first second : Nat) : Char :=
  Char.ofNat (0x10000 + (first - 0xD800) * 0x400 + (second - 0xDC00))

theorem joined_least : joined 0xD800 0xDC00 = '𐀀' := rfl

-- The character with a number. A half of a character is replaced when it stands alone.
def character (n : Nat) : Except Error Char :=
  if 0x7FFFFFFF < n then .error (.misread .hugeCharacter)
  else if 0x10FFFF < n then .error (.misread .noSuchCharacter)
  else .ok (if n.isValidChar then Char.ofNat n else '\ufffd')

-- The character of an escape by number, and how long the escape is. Two halves are one character.
def numbered (cs : List Char) : Except Error (Char × Nat) :=
  match code? cs with
  | none => .error .unknownEscape
  | some (n, length) =>
    match if isFirstHalf n then (code? (cs.drop length)).filter (isSecondHalf ·.1) else none with
    | some (m, more) => .ok (joined n m, length + more)
    | none           => do return (← character n, length)

def quotedBreaks : Nat → Cursor → List Char → Except Error (List Char × Cursor)
  | 0, c, breaks     => .ok (breaks, c)
  | n + 1, c, breaks =>
    if c.atDocumentMarker then .error .unclosedQuote
    else
      let (_, after) := c.span fun ch => ch == ' ' || ch == '\t'
      if !after.rest.isEmpty && isLineEnd after.peek then
        let (b, next) := after.lineBreak
        quotedBreaks n next (breaks ++ b)
      else .ok (breaks, after)

-- The rest of a quoted text, after its opening quote. `text` is what has been read, from its end.
def quotedLoop (double : Bool) : Nat → Cursor → List Char → Except Error (List Char × Cursor)
  | 0, _, _ => .error .unclosedQuote
  | n + 1, c, text =>
    match c.peek with
    | none => .error .unclosedQuote
    | some '\'' =>
      if double then quotedLoop double n c.next ('\'' :: text)
      else if c.ahead 1 == some '\'' then quotedLoop double n (c.skip 2) ('\'' :: text)
      else .ok (text.reverse, c.next)
    | some '"' =>
      if double then .ok (text.reverse, c.next) else quotedLoop double n c.next ('"' :: text)
    | some '\\' =>
      if !double then quotedLoop double n c.next ('\\' :: text)
      else
        match c.ahead 1 with
        | none   => .error .unknownEscape
        | some e =>
          match escape? e with
          | some ch => quotedLoop double n (c.skip 2) (ch :: text)
          | none    =>
            if isBreak e then do
              let (_, after) := c.next.lineBreak
              let (breaks, next) ← quotedBreaks after.rest.length after []
              quotedLoop double n next (breaks.reverse ++ text)
            else do
              let (ch, length) ← numbered c.rest
              quotedLoop double n (c.skip length) (ch :: text)
    | some ch =>
      if isGap (some ch) then
        let (blanks, after) := c.span fun ch => ch == ' ' || ch == '\t'
        if after.rest.isEmpty then .error .unclosedQuote
        else if isLineEnd after.peek then do
          let (first, next) := after.lineBreak
          let (breaks, last) ← quotedBreaks next.rest.length next []
          quotedLoop double n last ((folded first breaks).reverse ++ text)
        else quotedLoop double n after (blanks.reverse ++ text)
      else quotedLoop double n c.next (ch :: text)

def quoted (c : Cursor) : Except Error (List Char × Cursor) :=
  quotedLoop (c.peek == some '"') c.rest.length c.next []

inductive Chomping where
  | clip
  | strip
  | keep
deriving DecidableEq

def chomping? : Option Char → Option Chomping
  | some '+' => some .keep
  | some '-' => some .strip
  | _        => none

def increment? : Option Char → Option Nat
  | some c => if c.isDigit then some (c.toNat - '0'.toNat) else none
  | none   => none

def blockSigns (c : Cursor) : Except Error (Chomping × Option Nat × Cursor) := do
  let (chomping, increment, after) :=
    match chomping? c.peek, increment? c.peek with
    | some k, _ =>
      match increment? c.next.peek with
      | some i => (k, some i, c.skip 2)
      | none   => (k, none, c.next)
    | none, some i =>
      match chomping? c.next.peek with
      | some k => (k, some i, c.skip 2)
      | none   => (.clip, some i, c.next)
    | none, none => (.clip, none, c)
  if increment == some 0 then throw .malformedIndicator
  if !(isLineEnd after.peek || after.peek == some ' ') then throw .malformedIndicator
  return (chomping, increment, after)

def spacesTo (column : Nat) : Nat → Cursor → Cursor
  | 0, c     => c
  | n + 1, c =>
    if c.column < column && c.peek == some ' ' then spacesTo column n c.next else c

def blockBreaks (indent : Nat) : Nat → Cursor → List Char → List Char × Cursor
  | 0, c, breaks     => (breaks, c)
  | n + 1, c, breaks =>
    let after := spacesTo indent indent c
    if !after.rest.isEmpty && isLineEnd after.peek then
      let (b, next) := after.lineBreak
      blockBreaks indent n next (breaks ++ b)
    else (breaks, after)

-- Empty lines before the first line of a block, and how far they and that line are indented.
def blockIndentation : Nat → Cursor → List Char → Nat → List Char × Nat × Cursor
  | 0, c, breaks, widest     => (breaks, widest, c)
  | n + 1, c, breaks, widest =>
    match c.peek with
    | some ' ' => blockIndentation n c.next breaks (max widest c.next.column)
    | some ch  =>
      if isBreak ch then
        let (b, after) := c.lineBreak
        blockIndentation n after (breaks ++ b) widest
      else (breaks, widest, c)
    | none => (breaks, widest, c)

-- The lines of a block. `breaks` are the line breaks before the next line.
def blockLines (foldLines : Bool) (indent : Nat) :
    Nat → Cursor → List Char → List Char → List Char → List Char × List Char × List Char × Cursor
  | 0, c, text, last, breaks => (text, last, breaks, c)
  | n + 1, c, text, last, breaks =>
    if c.column == indent && !c.rest.isEmpty then
      let flush := !isSpaceOrTab c.peek
      let (line, after) := c.span (!isBreak ·)
      let text := text ++ breaks ++ line
      let (last, next) := after.lineBreak
      let (breaks, next) := blockBreaks indent next.rest.length next []
      if next.column == indent && !next.rest.isEmpty then
        let joint :=
          if foldLines && last == ['\n'] && flush && !isSpaceOrTab next.peek then
            (if breaks.isEmpty then [' '] else [])
          else last
        blockLines foldLines indent n next (text ++ joint) last breaks
      else (text, last, breaks, next)
    else (text, last, breaks, c)

def block (outer : Int) (c : Cursor) : Except Error (List Char × Cursor) := do
  let (chomping, increment, after) ← blockSigns c.next
  let some start := after.nextLine? | throw .malformedIndicator
  let least := (max 1 (outer + 1)).toNat
  let (breaks, indent, first) :=
    match increment with
    | some i =>
      let indent := least + i - 1
      let (breaks, first) := blockBreaks indent start.rest.length start []
      (breaks, indent, first)
    | none =>
      let (breaks, widest, first) := blockIndentation start.rest.length start [] 0
      (breaks, max least widest, first)
  let (text, last, breaks, finish) :=
    blockLines (c.peek == some '>') indent first.rest.length first [] [] breaks
  let ending :=
    match chomping with
    | .strip => []
    | .clip  => last
    | .keep  => last ++ breaks
  return (text ++ ending, finish)

end Scalar

end Yaml

end BoundedWait
