import BoundedWait.Config.Configuration

namespace BoundedWait

namespace Configuration

def settingsFile : String := "settings.yaml"

def folder : String := "deferred"

def overrideName : String := "DEFERRED_SETTINGS_FILE"

-- The home directory, without slashes at its end. A tilde cannot be resolved any further.
def home (c : Configuration) : Except Fault Path :=
  let named := (c.environment.get? "HOME").getD c.accountHome
  let text  := String.ofList (named.toList.reverse.dropWhile (· == '/')).reverse
  if text.startsWith "~" then
    .error (Fault.saying .runtimeError "Could not determine home directory.")
  else .ok (Path.ofText (if text.isEmpty then "/" else text))

def systemPath (c : Configuration) (system fileName : String) : Except Fault Path := do
  let file := Path.ofText fileName
  let data := (Path.ofText "data").join file
  if system == "Linux" || system == "Darwin" then
    return (((← c.home).join (.ofText ".config")).join (.ofText folder)).join file
  else if system == "Windows" then
    match c.environment.get? "APPDATA" with
    | some appData => return ((Path.ofText appData).join (.ofText folder)).join file
    | none         => return data
  else return data

def settingsPath (c : Configuration) : Except Fault Path :=
  match (c.environment.get? overrideName).filter (!·.isEmpty) with
  | some text => .ok (Path.ofText text)
  | none      => c.systemPath c.system settingsFile

theorem settingsPath_of_override {c : Configuration} {text : String}
    (h : c.environment.get? overrideName = some text) (ne : text.isEmpty = false) :
    c.settingsPath = .ok (Path.ofText text) := by
  simp [settingsPath, h, Option.filter, ne]

end Configuration

end BoundedWait
