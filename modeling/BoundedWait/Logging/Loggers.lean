import BoundedWait.Config.Keyed
import BoundedWait.Logging.Layout

namespace BoundedWait

inductive Sink where
  | stream
  | collecting
  | silent
  deriving DecidableEq

-- A handler without a layout prints bare messages.
structure Handler where
  sink   : Sink
  level  : Level
  layout : Option Layout

namespace Handler

-- What a handler prints for an entry, and the entry as it leaves it. A line that cannot be made
-- is left out.
def handle (h : Handler) (r : Record) : String × Record :=
  match h.sink with
  | .stream =>
    let layout := h.layout.getD .bare
    ((layout.write r).elim "" (· ++ "\n"), layout.mark r)
  | _ => ("", r)

def handleAll : List Handler → Record → String
  | [], _      => ""
  | h :: hs, r =>
    if h.level.rank ≤ r.level.rank then
      let (line, left) := h.handle r
      line ++ handleAll hs left
    else handleAll hs r

theorem handleAll_of_high {hs : List Handler} {r : Record}
    (low : ∀ h ∈ hs, r.level.rank < h.level.rank) : handleAll hs r = "" := by
  induction hs with
  | nil => rfl
  | cons h hs ih =>
    have hh : ¬h.level.rank ≤ r.level.rank := Int.not_le.mpr (low h List.mem_cons_self)
    simp [handleAll, hh, ih fun h' m => low h' (List.mem_cons_of_mem _ m)]

end Handler

-- A logger whose level is zero has that of the loggers above.
structure Logger where
  level    : Level
  handlers : List Handler

namespace Logger

def new : Logger := ⟨Level.unset, []⟩

def setLevel (l : Logger) (level : Level) : Logger :=
  { l with level }

def add (l : Logger) (h : Handler) : Logger :=
  { l with handlers := l.handlers ++ [h] }

end Logger

structure Loggers where
  root       : Logger
  -- There is nothing above the root, so it does not matter what is said here.
  propagates : Bool
  named      : List (String × Logger)

namespace Loggers

def rootName : String := "root"

def isRoot (name : String) : Bool :=
  name.isEmpty || name = rootName

-- Names above a name, the nearest one first. Both are given reversed; a dot in front is no border.
def above : List Char → List (List Char)
  | []               => []
  | '.' :: c :: rest => (c :: rest) :: above (c :: rest)
  | _ :: rest        => above rest

def lineage (name : String) : List String :=
  name :: (above name.toList.reverse).map fun cs => String.ofList cs.reverse

def named? (ls : Loggers) (name : String) : Logger :=
  (Keyed.get? ls.named name).getD .new

def find (ls : Loggers) (name : String) : Logger :=
  if isRoot name then ls.root else ls.named? name

def update (ls : Loggers) (name : String) (f : Logger → Logger) : Loggers :=
  if isRoot name then { ls with root := f ls.root }
  else { ls with named := Keyed.put ls.named name (f (ls.named? name)) }

def branch (ls : Loggers) (name : String) : List Logger :=
  if isRoot name then [] else (lineage name).map ls.named?

def effectiveLevel (ls : Loggers) (name : String) : Level :=
  (((ls.branch name).map (·.level)).find? (·.rank ≠ 0)).getD ls.root.level

def handlersOf (ls : Loggers) (name : String) : List Handler :=
  (ls.branch name).flatMap (·.handlers) ++ ls.root.handlers

def admits (ls : Loggers) (r : Record) : Bool :=
  0 < r.level.rank && (ls.effectiveLevel r.logger).rank ≤ r.level.rank

def lastHandler : Handler := ⟨.stream, Level.warning, none⟩

def printed (ls : Loggers) (r : Record) : String :=
  if ls.admits r then
    match ls.handlersOf r.logger with
    | []       => Handler.handleAll [lastHandler] r
    | handlers => Handler.handleAll handlers r
  else ""

theorem handlersOf_level (ls : Loggers) (name other : String) (level : Level) :
    (ls.update name (·.setLevel level)).handlersOf other = ls.handlersOf other := by
  have get (n : String) :
      ((ls.update name (·.setLevel level)).named? n).handlers = (ls.named? n).handlers := by
    unfold update
    split
    case isTrue => rfl
    case isFalse =>
      simp only [named?, Keyed.get?_put]
      by_cases h : n = name
      case pos => simp [h, Logger.setLevel]
      case neg => simp [h]
  have top : (ls.update name (·.setLevel level)).root.handlers = ls.root.handlers := by
    unfold update
    split <;> rfl
  simp only [handlersOf, branch, top]
  split
  case isTrue => rfl
  case isFalse => simp [List.flatMap_map, get]

theorem printed_of_low {ls : Loggers} {r : Record}
    (h : r.level.rank < (ls.effectiveLevel r.logger).rank) : ls.printed r = "" := by
  simp [printed, admits, Int.not_le.mpr h]

end Loggers

end BoundedWait
