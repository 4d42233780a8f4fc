import BoundedWait.Fault.Class

namespace BoundedWait

namespace FaultClass

def customTemporary : FaultClass :=
  derived "CustomTemporary" BuiltinClass.temporarilyUnavailable

def customPermanent : FaultClass :=
  derived "CustomPermanent" BuiltinClass.permanentlyUnavailable

-- Both kinds at once. It is never retried, since what is permanent is judged first.
def conflicted : FaultClass :=
  joined "ConflictedError" BuiltinClass.temporarilyUnavailable BuiltinClass.permanentlyUnavailable

def scripted : List FaultClass :=
  [customTemporary, customPermanent, conflicted]

def ofName? (name : String) : Option FaultClass :=
  ((BuiltinClass.ofName? name).map builtin).or (scripted.find? (·.name == name))

theorem ofName?_builtin (c : BuiltinClass) : ofName? c.name = some (builtin c) := by
  cases c <;> decide

end FaultClass

end BoundedWait
