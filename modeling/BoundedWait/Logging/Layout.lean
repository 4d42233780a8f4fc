import BoundedWait.Logging.Level
import BoundedWait.Logging.Template

namespace BoundedWait

structure Record where
  logger  : String
  level   : Level
  message : Value
  -- The name of the level as some layout has marked it.
  mark    : Option String

-- `colors` is nothing for a layout that does not mark levels.
structure Layout where
  template   : String
  dateFormat : Option String
  colors     : Option Bool

namespace Layout

def bareTemplate : String := "%(message)s"

def bare : Layout := ⟨bareTemplate, none, none⟩

def invalid (template : String) : Fault :=
  Fault.saying .valueError ("Invalid format '" ++ template ++ "' for '%' style")

-- A template has to have a field. An empty one is that of the bare message.
def make (template : String) (dateFormat : Option String) (colors : Option Bool) :
    Except Fault Layout :=
  let t := if template.isEmpty then bareTemplate else template
  if Template.hasField t.toList then .ok ⟨t, dateFormat, colors⟩ else .error (invalid t)

def colorOf? : String → Option String
  | "DEBUG"    => some "\x1b[37m"
  | "INFO"     => some "\x1b[32m"
  | "WARNING"  => some "\x1b[33m"
  | "ERROR"    => some "\x1b[31m"
  | "CRITICAL" => some "\x1b[41m"
  | _          => none

def marked (colored : Bool) (level : Level) : String :=
  let name := level.name
  match if colored then colorOf? name else none with
  | some color => color ++ name ++ "\x1b[0m"
  | none       => name

def mark (l : Layout) (r : Record) : Record :=
  match l.colors with
  | some colored => { r with mark := some (marked colored r.level) }
  | none         => r

-- What a template may ask for. In place of a time, its format is shown.
def field? (l : Layout) (r : Record) (message : String) : String → Option Value
  | "name"            => some (.text r.logger)
  | "levelname"       => some (.text r.level.name)
  | "levelno"         => some r.level.toValue
  | "message"         => some (.text message)
  | "msg"             => some r.message
  | "args"            => some (.tuple [])
  | "asctime"         => some (.text ("<" ++ l.dateFormat.getD "None" ++ ">"))
  | "levelname_color" => r.mark.map .text
  | "threadName"      => some (.text "MainThread")
  | "processName"     => some (.text "MainProcess")
  | "exc_info"        => some .null
  | "exc_text"        => some .null
  | "stack_info"      => some .null
  | _                 => none

-- The line of an entry, if one can be made. A message has to have a text even if the template does
-- not ask for it.
def write (l : Layout) (r : Record) : Option String :=
  match r.message.display with
  | .ok message => Template.fill (l.field? (l.mark r) message) l.template
  | .error _    => none

theorem write_of_unmarked {l : Layout} {r : Record} {message : String} (h : l.colors = none)
    (hm : r.message.display = .ok message) :
    l.write r = Template.fill (l.field? r message) l.template := by
  simp [write, mark, h, hm]

end Layout

end BoundedWait
