import BoundedWait.Config.FileFormat
import BoundedWait.Config.Location

namespace BoundedWait

namespace Configuration

def settingsOf (content : Value) : Value :=
  if content.truthy then content else .dict []

theorem settingsOf_of_truthy {v : Value} (h : v.truthy = true) : settingsOf v = v := by
  simp [settingsOf, h]

def loaded (format : FileFormat) (c : Configuration) : Except Fault Value := do
  let path ← c.settingsPath
  if ← c.files.checkExists path then
    return settingsOf (← format.read (← c.files.read path))
  else return .dict []

def loadSettings (format : FileFormat) : Action Value :=
  fun c => (c.loaded format, c)

-- A fault that stops the writing leaves what has been written by then, in place of what the file
-- held before.
def saveSettings (format : FileFormat) (settings : Value) : Action Unit := do
  let path ← .of (← Act.get).settingsPath
  onFiles (Files.make path.parent)
  let (text, failure) := format.write settings
  setFiles (← .of ((← Act.get).files.write path text))
  match failure with
  | some f => .raise f
  | none   => return ()

end Configuration

end BoundedWait
