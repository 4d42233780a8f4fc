namespace BoundedWait

namespace Yaml

structure Cursor where
  rest   : List Char
  index  : Nat
  line   : Nat
  column : Nat

def isBreak (c : Char) : Bool :=
  c == '\n' || c == '\r' || c == '\x85' || c == '\u2028' || c == '\u2029'

def isGap : Option Char → Bool
  | none   => true
  | some c => c == ' ' || c == '\t' || isBreak c

def isLineEnd : Option Char → Bool
  | none   => true
  | some c => isBreak c

def isSpaceOrTab : Option Char → Bool
  | none   => false
  | some c => c == ' ' || c == '\t'

def isNameChar (c : Char) : Bool :=
  c.isAlphanum || c == '-' || c == '_'

namespace Cursor

def ofText (s : String) : Cursor :=
  ⟨s.toList, 0, 0, 0⟩

def peek (c : Cursor) : Option Char :=
  c.rest.head?

def ahead (c : Cursor) (n : Nat) : Option Char :=
  c.rest[n]?

-- The place after the next character. A byte order mark takes no room in its line.
def next (c : Cursor) : Cursor :=
  match c.rest with
  | []          => c
  | ch :: rest =>
    if isBreak ch && !(ch == '\r' && rest.head? == some '\n') then
      ⟨rest, c.index + 1, c.line + 1, 0⟩
    else if ch == '\ufeff' then ⟨rest, c.index + 1, c.line, c.column⟩
    else ⟨rest, c.index + 1, c.line, c.column + 1⟩

def withoutMark (c : Cursor) : Cursor :=
  if c.peek == some '\ufeff' then c.next else c

def skip : Nat → Cursor → Cursor
  | 0, c     => c
  | n + 1, c => skip n c.next

theorem rest_next (c : Cursor) : c.next.rest = c.rest.drop 1 := by
  unfold next
  split
  case h_1 h => simp [h]
  case h_2 h =>
    rw [h]
    split
    · rfl
    · split <;> rfl

theorem rest_skip (n : Nat) (c : Cursor) : (skip n c).rest = c.rest.drop n := by
  induction n generalizing c with
  | zero => rfl
  | succ n ih => rw [skip, ih, rest_next, List.drop_drop, Nat.add_comm]

theorem length_skip_lt {n : Nat} {c : Cursor} (hn : 0 < n) (hc : c.rest ≠ []) :
    (skip n c).rest.length < c.rest.length := by
  have := List.length_pos_iff.mpr hc
  rw [rest_skip, List.length_drop]
  omega

def span (c : Cursor) (p : Char → Bool) : List Char × Cursor :=
  let cs := c.rest.takeWhile p
  (cs, c.skip cs.length)

def spaces (c : Cursor) : List Char × Cursor :=
  c.span (· == ' ')

def lineBreak (c : Cursor) : List Char × Cursor :=
  match c.rest with
  | '\r' :: '\n' :: _ => (['\n'], skip 2 c)
  | ch :: _           =>
    if ch == '\n' || ch == '\r' || ch == '\x85' then (['\n'], c.next)
    else if isBreak ch then ([ch], c.next)
    else ([], c)
  | []                => ([], c)

-- The next line, if nothing is left on this one but spaces and a comment.
def nextLine? (c : Cursor) : Option Cursor :=
  let (_, after) := c.spaces
  let (_, after) :=
    if after.peek == some '#' then after.span (!isBreak ·) else ([], after)
  if isLineEnd after.peek then some after.lineBreak.2 else none

def hasMarker (c : Cursor) (marker : List Char) : Bool :=
  c.rest.take 3 == marker && isGap (c.ahead 3)

def atDocumentMarker (c : Cursor) : Bool :=
  c.hasMarker ['-', '-', '-'] || c.hasMarker ['.', '.', '.']

end Cursor

end Yaml

end BoundedWait
