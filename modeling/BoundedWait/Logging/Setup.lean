import BoundedWait.Value.Equality
import BoundedWait.Config.Access
import BoundedWait.Logging.Loggers

namespace BoundedWait

-- What the program prints to. A broken one cannot tell whether it is a terminal.
inductive Screen where
  | terminal
  | file
  | broken
  deriving DecidableEq

structure Logs where
  environment : Variables
  screen      : Screen
  loggers     : Loggers
  -- The level that was asked for last, or false.
  remembered  : Value
  -- Used where no template or no format of dates is given.
  template    : String
  dateFormat  : String
  printed     : String

-- What a program may say about its log. A level that is nothing is taken from the variables.
structure LogRequest where
  level         : Value
  template      : Option String
  dateFormat    : Option String
  propagateRoot : Bool

namespace Logs

abbrev Action := Act Logs

def templateKey : String := "DEFERRED_LOG_FORMAT"

def dateFormatKey : String := "DEFERRED_LOG_DATEFMT"

def plainTemplate : String := "%(asctime)s | %(levelname)s | %(name)s | %(message)s"

def coloredTemplate : String :=
  "\x1b[90m%(asctime)s\x1b[0m | %(levelname_color)s | \x1b[36m%(name)s\x1b[0m | %(message)s"

def plainDateFormat : String := "%Y-%m-%d %H:%M:%S"

def silentHandler : Handler := ⟨.silent, Level.unset, none⟩

def addSilent (ls : Loggers) : Loggers :=
  ls.update Configuration.logName (·.add silentHandler)

def initial (environment : Variables) : Logs where
  environment
  screen      := .file
  loggers     := addSilent ⟨⟨Level.warning, []⟩, true, []⟩
  remembered  := .bool false
  template    := plainTemplate
  dateFormat  := plainDateFormat
  printed     := ""

def supportsColor (logs : Logs) : Bool :=
  logs.screen = .terminal && !logs.environment.isSet "NO_COLOR"

def templateFor (logs : Logs) (r : LogRequest) : String :=
  match r.template with
  | some t => t
  | none   =>
    if !logs.environment.isSet templateKey && logs.supportsColor then coloredTemplate
    else logs.template

def dateFormatFor (logs : Logs) (r : LogRequest) : String :=
  r.dateFormat.getD logs.dateFormat

def levelFor (logs : Logs) (r : LogRequest) : Value :=
  match r.level with
  | .text s => .text (Text.upper s)
  | .null   => .text (Configuration.logLevel logs.environment)
  | v       => v

def isRemembered (logs : Logs) (level : Value) : Bool :=
  logs.remembered.truthy && logs.remembered.equals level

def updateRoot (f : Logger → Logger) : Action Unit :=
  .update fun logs => { logs with loggers := logs.loggers.update Loggers.rootName f }

def setRootLevel (level : Value) : Action Unit := do
  let level ← .of (Level.ofValue level)
  updateRoot (·.setLevel level)

def mapStreams (f : Handler → Handler) (hs : List Handler) : List Handler :=
  hs.map fun h => if h.sink = .stream then f h else h

def mapFirstStream (f : Handler → Handler) : List Handler → List Handler
  | []      => []
  | h :: hs => if h.sink = .stream then f h :: hs else h :: mapFirstStream f hs

def editRoot (f : List Handler → List Handler) : Action Unit :=
  updateRoot fun root => { root with handlers := f root.handlers }

-- Gives the handlers of streams the level of the root and a layout. If there is no such layout, the
-- first of them has its level already when that is found out.
def align (layout : Except Fault Layout) : Action Unit := do
  let root := (← Act.get).loggers.root
  let level (h : Handler) : Handler := { h with level := root.level }
  match layout with
  | .ok layout => editRoot (mapStreams fun h => { level h with layout := some layout })
  | .error f   =>
    if root.handlers.any (·.sink = .stream) then do
      editRoot (mapFirstStream level)
      .raise f

def install (layout marking : Except Fault Layout) (level : Value) : Action Unit := do
  let layout ← .of layout
  updateRoot (·.add ⟨.stream, Level.unset, some layout⟩)
  setRootLevel level
  let marking ← .of marking
  editRoot (mapStreams fun h => { h with layout := some marking })

def propagate (yes : Bool) : Action Unit :=
  .update fun logs => { logs with loggers := { logs.loggers with propagates := yes } }

def remember (level : Value) : Action Unit :=
  .update fun logs => { logs with remembered := level }

def apply (r : LogRequest) (level : Value) : Action Unit := do
  let logs ← Act.get
  let template   := logs.templateFor r
  let dateFormat := some (logs.dateFormatFor r)
  let marking    := Layout.make template dateFormat (some logs.supportsColor)
  if logs.loggers.root.handlers.isEmpty then
    install (Layout.make template dateFormat none) marking level
  else do
    setRootLevel level
    align marking
  propagate r.propagateRoot

def configure (r : LogRequest) : Action Value := do
  let logs ← Act.get
  let level := logs.levelFor r
  if logs.isRemembered level then return level
  remember level
  apply r level
  return level

theorem configure_of_remembered {logs : Logs} {r : LogRequest}
    (h : logs.isRemembered (logs.levelFor r) = true) :
    configure r logs = (.ok (logs.levelFor r), logs) := by
  simp [configure, Act.get, h]

def reload : Action Unit :=
  .update fun logs =>
    { logs with
      loggers    := addSilent logs.loggers
      remembered := .bool false
      template   := (logs.environment.get? templateKey).getD plainTemplate
      dateFormat := (logs.environment.get? dateFormatKey).getD plainDateFormat }

def addHandler (name : String) (h : Handler) : Action Unit :=
  .update fun logs => { logs with loggers := logs.loggers.update name (·.add h) }

def setLevel (name : String) (level : Value) : Action Unit := do
  let level ← .of (Level.ofValue level)
  .update fun logs => { logs with loggers := logs.loggers.update name (·.setLevel level) }

def fullName (name : String) : String :=
  if Loggers.isRoot name then Loggers.rootName else name

def emit (name : String) (level message : Value) : Action Unit := do
  match Level.ofNumber? level with
  | none       => .raise Level.notNumber
  | some level =>
    .update fun logs =>
      let entry := ⟨fullName name, level, message, none⟩
      { logs with printed := logs.printed ++ logs.loggers.printed entry }

theorem emit_loggers (name : String) (level message : Value) (logs : Logs) :
    (emit name level message logs).2.loggers = logs.loggers := by
  unfold emit
  cases Level.ofNumber? level <;> rfl

end Logs

end BoundedWait
