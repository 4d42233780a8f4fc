import BoundedWait.Config.Storage
import BoundedWait.Config.EnvFile
import BoundedWait.Config.Lookup
import BoundedWait.Settings.Basic

namespace BoundedWait

namespace Configuration

def envFiles (base : Path) (name : String) : List Path :=
  [".env", ".env." ++ name, ".env." ++ name ++ ".local"].map fun file => base.join (.ofText file)

def stage (vars : Variables) : String :=
  (vars.get? "ENV").getD "development"

def loadEnvFile (files : Files) (path : Path) : Act Variables Unit := do
  if (← .of (files.checkExists path)) && files.isFile path then
    EnvFile.load (← .of (files.read path))

-- The stage is looked up once, before any of the files is read.
def loadEnvFiles (base : Path) : Action Unit := do
  let c ← Act.get
  onVariables ((envFiles base (stage c.environment)).forM (loadEnvFile c.files))

def logName : String := "deferred"

def loadedEntry (count : Nat) : LogEntry :=
  ⟨.debug, logName, "Loaded " ++ toString count ++ " settings from the settings file", []⟩

def load (format : FileFormat) : Action Unit := do
  loadEnvFiles ⟨"", []⟩
  let settings ← loadSettings format
  remember settings
  if settings.truthy then record (loadedEntry (← .of settings.length))

def settings (format : FileFormat) : Action Value := do
  match (← Act.get).snapshot with
  | some v => return v
  | none   => do
    load format
    return (← Act.get).snapshot.getD .null

theorem settings_of_snapshot {c : Configuration} {v : Value} (format : FileFormat)
    (h : c.snapshot = some v) : settings format c = (.ok v, c) := by
  simp [settings, Act.get, h]

def maxWaitKey : String := "DEFERRED_MAX_WAIT"

def pollIntervalKey : String := "DEFERRED_POLL_INTERVAL"

def backoffKey : String := "DEFERRED_BACKOFF"

def multiplierKey : String := "DEFERRED_BACKOFF_MULTIPLIER"

def maxPollIntervalKey : String := "DEFERRED_MAX_POLL_INTERVAL"

def retryTerminalKey : String := "DEFERRED_RETRY_TERMINAL"

def defaults : List (String × Option String) :=
  [(maxWaitKey, some "60"),
   (pollIntervalKey, some "0.25"),
   (backoffKey, some "fixed"),
   (multiplierKey, some "2"),
   (maxPollIntervalKey, none),
   (retryTerminalKey, some "0"),
   ("ENV", some "development"),
   ("LOG_LEVEL", none),
   ("DEBUG", none)]

def defaultEntries : List (Value × Value) :=
  defaults.map fun (key, value) => (.text key, .ofOption (value.map Value.text))

def get (format : FileFormat) (key : String) (absent : Value) : Action Value := do
  let settings ← settings format
  .of (Setting.lookUp (← Act.get).environment settings defaultEntries key (some absent))

-- A limit that is an empty text is none.
def unlessEmpty (v : Value) : Value :=
  match v with
  | .text s => if s.isEmpty then .null else v
  | v       => v

def waitSettings (format : FileFormat) : Action WaitSettings := do
  let maxPoll    ← get format maxPollIntervalKey .null
  let maxWait    ← get format maxWaitKey .null
  let poll       ← get format pollIntervalKey .null
  let backoff    ← .of (← get format backoffKey .null).display
  let multiplier ← get format multiplierKey .null
  let retry      ← .of (← get format retryTerminalKey .null).isOn
  .of (WaitSettings.ofFields
    [(WaitSettings.maxWaitField, maxWait),
     (WaitSettings.pollIntervalField, poll),
     (WaitSettings.backoffField, .text (Text.lower backoff)),
     (WaitSettings.multiplierField, multiplier),
     (WaitSettings.maxPollIntervalField, unlessEmpty maxPoll),
     (WaitSettings.retryTerminalField, .bool retry)])

def policy (format : FileFormat) : Action Policy := do
  let s ← waitSettings format
  .of s.policy

def isDebug (vars : Variables) : Bool :=
  match vars.get? "DEBUG" with
  | some s => !offWords.contains (Text.lower (Text.trim s))
  | none   => false

-- The level for the log. The settings file does not matter for it.
def logLevel (vars : Variables) : String :=
  match (vars.get? "LOG_LEVEL").filter (!·.isEmpty) with
  | some level => Text.upper level
  | none       =>
    if isDebug vars then "DEBUG" else Text.upper ((vars.get? "DEFERRED_LOG_LEVEL").getD "INFO")

end Configuration

end BoundedWait
