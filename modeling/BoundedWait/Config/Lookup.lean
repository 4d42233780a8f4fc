import BoundedWait.Config.Variables
import BoundedWait.Value.Membership
import BoundedWait.Value.Printer
import BoundedWait.Text.Blank
import BoundedWait.Text.Case

namespace BoundedWait

namespace Setting

-- Whether an entry says nothing: it is missing, or its text is empty.
def isBlank (v : Value) : Except Fault Bool :=
  match v with
  | .null => .ok true
  | v     => do return (← v.display).isEmpty

def entry (settings : Value) (key : String) : Except Fault Value :=
  match settings with
  | .dict entries => .ok ((Value.lookup? entries (.text key)).getD .null)
  | v             => .error (Misuse.noAttribute v.typeName "get").fault

def missing (key : String) : Fault :=
  Fault.missingKey (.text ("Missing required setting: " ++ key))

-- The default of a setting. One that is listed counts even if it is nothing.
def fallback (defaults : List (Value × Value)) (key : String) (absent : Option Value) :
    Except Fault Value :=
  match (Value.lookup? defaults (.text key)).or absent with
  | some v => .ok v
  | none   => .error (missing key)

def lookUp (vars : Variables) (settings : Value) (defaults : List (Value × Value)) (key : String)
    (absent : Option Value) : Except Fault Value := do
  let v ← entry settings key
  if !(← isBlank v) then return v
  match vars.get? key with
  | some s => return .text s
  | none   => fallback defaults key absent

variable {vars : Variables} {settings v : Value} {defaults : List (Value × Value)} {key : String}

theorem lookUp_of_setting (absent : Option Value) (he : entry settings key = .ok v)
    (hb : isBlank v = .ok false) : lookUp vars settings defaults key absent = .ok v := by
  simp [lookUp, he, hb, bind, Except.bind, pure, Except.pure]

theorem lookUp_of_variable {s : String} (absent : Option Value) (he : entry settings key = .ok v)
    (hb : isBlank v = .ok true) (hv : vars.get? key = some s) :
    lookUp vars settings defaults key absent = .ok (.text s) := by
  simp [lookUp, he, hb, hv, bind, Except.bind, pure, Except.pure]

theorem lookUp_of_neither (absent : Option Value) (he : entry settings key = .ok v)
    (hb : isBlank v = .ok true) (hv : vars.get? key = none) :
    lookUp vars settings defaults key absent = fallback defaults key absent := by
  simp [lookUp, he, hb, hv, bind, Except.bind]

end Setting

def offWords : List String :=
  ["0", "false", "no", "off", ""]

-- Whether a setting turns something on. Anything does that is not nothing and no word against it.
def Value.isOn (v : Value) : Except Fault Bool :=
  match v with
  | .null             => .ok false
  | .number (.bool b) => .ok b
  | v                 => do return !offWords.contains (Text.lower (Text.trim (← v.display)))

end BoundedWait
