namespace BoundedWait

namespace Yaml

-- `isSpaced` says that no space is needed in front of what comes next, and `isIndented` that the
-- line holds nothing yet but what opens a block. `isOpen` says that more text could be taken for a
-- part of what was written last.
structure Pen where
  -- From its end.
  written    : List Char
  column     : Nat
  isSpaced   : Bool
  isIndented : Bool
  isOpen     : Bool

namespace Pen

def start : Pen :=
  ⟨[], 0, true, true, false⟩

def text (p : Pen) : String :=
  String.ofList p.written.reverse

def put (p : Pen) (cs : List Char) : Pen :=
  { p with written := cs.reverse ++ p.written, column := p.column + cs.length }

def newLine (p : Pen) : Pen :=
  { p with written := '\n' :: p.written, column := 0, isSpaced := true, isIndented := true }

def spaced (p : Pen) : Pen :=
  if p.isSpaced then p else p.put [' ']

def sign (p : Pen) (s : String) : Pen :=
  { p.spaced.put s.toList with isSpaced := false, isIndented := false, isOpen := false }

def close (p : Pen) (s : String) : Pen :=
  { p.put s.toList with isSpaced := false, isIndented := false, isOpen := false }

-- A sign that opens a part of a block, which may go on right behind it.
def opener (p : Pen) (s : String) : Pen :=
  { p.sign s with isIndented := p.isIndented }

-- Goes on at a column, on a new line unless this one holds nothing that is in the way.
def toIndent (p : Pen) (indent : Nat) : Pen :=
  let p :=
    if !p.isIndented || indent < p.column || (p.column == indent && !p.isSpaced) then p.newLine
    else p
  if p.column < indent then
    { p.put (List.replicate (indent - p.column) ' ') with isSpaced := true }
  else p

def fold (p : Pen) (indent : Nat) : Pen :=
  { p.toIndent indent with isSpaced := false, isIndented := false }

theorem isSpaced_sign (p : Pen) (s : String) : (p.sign s).isSpaced = false := rfl

theorem column_toIndent (p : Pen) (indent : Nat) : (p.toIndent indent).column = indent := by
  unfold toIndent
  dsimp only
  split
  case isTrue h =>
    split
    case isTrue hc => simp_all [newLine, put]
    case isFalse hc => simp_all [newLine]
  case isFalse h =>
    split
    case isTrue hc =>
      simp only [put, List.length_replicate]
      omega
    case isFalse hc =>
      simp only [Bool.or_eq_true, decide_eq_true_eq, not_or] at h
      omega

end Pen

end Yaml

end BoundedWait
