import BoundedWait.Act
import BoundedWait.Value.Call
import BoundedWait.Config.Variables
import BoundedWait.Config.Files

namespace BoundedWait

structure Configuration where
  environment : Variables
  files       : Files
  -- The name of the operating system.
  system      : String
  -- The home directory of the account, for when no variable names one.
  accountHome : String
  snapshot    : Option Value
  -- The latest entry comes first.
  log         : List LogEntry

namespace Configuration

abbrev Action := Act Configuration

def onVariables {α : Type} (a : Act Variables α) : Action α := fun c =>
  match a c.environment with
  | (r, environment) => (r, { c with environment })

def setFiles (files : Files) : Action Unit :=
  .update fun c => { c with files }

def onFiles {α : Type} (a : Act Files α) : Action α := fun c =>
  match a c.files with
  | (r, files) => (r, { c with files })

def remember (v : Value) : Action Unit :=
  .update fun c => { c with snapshot := some v }

def forget : Action Unit :=
  .update fun c => { c with snapshot := none }

def record (entry : LogEntry) : Action Unit :=
  .update fun c => { c with log := entry :: c.log }

theorem forget_apply (c : Configuration) : forget c = (.ok (), { c with snapshot := none }) := rfl

end Configuration

end BoundedWait
