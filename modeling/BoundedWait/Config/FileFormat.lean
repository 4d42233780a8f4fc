import BoundedWait.Yaml.Acceptance
import BoundedWait.Yaml.Meaning
import BoundedWait.Yaml.Printer

namespace BoundedWait

structure FileFormat where
  -- The text that is written, and the fault that stopped the writing, if one did.
  write : Value → String × Option Fault
  read  : String → Except Fault Value

namespace FileFormat

def Keeps (format : FileFormat) (v : Value) : Prop :=
  ∀ text, format.write v = (text, none) → ∃ w, format.read text = .ok w ∧ w.equals v = true

def Refuses (format : FileFormat) (v : Value) : Prop :=
  ∀ text, format.write v = (text, none) → ∃ f, format.read text = .error f

def FeedsLines (format : FileFormat) (v : Value) : Prop :=
  '\r' ∉ (format.write v).1.toList

-- Nothing is written of a value that cannot be written as a whole.
def yaml : FileFormat where
  write v :=
    match Yaml.accept v with
    | .ok _    => (Yaml.write v, none)
    | .error f => ("", some f)
  read := Yaml.read

end FileFormat

end BoundedWait
