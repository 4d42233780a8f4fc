import BoundedWait.Value.Printer
import BoundedWait.Value.Operation

namespace BoundedWait

namespace Detail

def ofMismatch (value description source : Value) : Except Fault Detail := do
  let shown    ← value.inspect
  let expected ← description.display
  return mismatch value description source (shown ++ " does not satisfy " ++ expected)

def ofFailure (lastCause attempts elapsed source message : Value) : Except Fault Detail := do
  if ← message.truth then return failed lastCause attempts elapsed source message
  let on    ← source.inspect
  let count ← attempts.display
  let time  ← elapsed.toMilliseconds
  let cause ← lastCause.display
  return failed lastCause attempts elapsed source (.text
    ("Failed to resolve " ++ on ++ " after " ++ count ++ " attempt(s) in " ++ time ++ "s: " ++
      cause))

def ofDeadline (lastCause attempts elapsed source maxWait : Value) : Except Fault Detail := do
  let on    ← source.inspect
  let time  ← elapsed.toMilliseconds
  let limit ← maxWait.display
  let count ← attempts.display
  let cause ← lastCause.display
  return expired lastCause attempts elapsed source maxWait
    ("Gave up waiting for " ++ on ++ " after " ++ time ++ "s (max wait " ++ limit ++ "s, " ++
      count ++ " attempt(s)): " ++ cause)

def lastValueLine (hasValue lastValue : Value) : Except Fault String := do
  if ← hasValue.truth then return "  last value: " ++ (← lastValue.inspect)
  else return "  last value: <never resolved>"

def unmetMessage (description lastCause attempts elapsed hasValue lastValue source : Value) :
    Except Fault String := do
  let expected ← description.display
  let on       ← source.inspect
  let seen     ← lastValueLine hasValue lastValue
  let cause    ← lastCause.display
  let count    ← attempts.display
  let time     ← elapsed.toMilliseconds
  return "\n".intercalate
    ["Expected " ++ expected,
     "  source:     " ++ on,
     seen,
     "  last cause: " ++ lastCause.typeName ++ ": " ++ cause,
     "  attempts:   " ++ count,
     "  elapsed:    " ++ time ++ "s"]

def ofUnmet (description lastCause attempts elapsed hasValue lastValue source : Value) :
    Except Fault Detail := do
  let message ← unmetMessage description lastCause attempts elapsed hasValue lastValue source
  return unmet description lastCause attempts elapsed hasValue lastValue source message

theorem lastValueLine_of_true {hasValue : Value} (lastValue : Value)
    (h : hasValue.truth = .ok true) :
    lastValueLine hasValue lastValue = (do return "  last value: " ++ (← lastValue.inspect)) := by
  rw [lastValueLine, h]
  rfl

theorem lastValueLine_of_untrue {hasValue : Value} (lastValue : Value)
    (h : hasValue.truth = .ok false) :
    lastValueLine hasValue lastValue = .ok "  last value: <never resolved>" := by
  rw [lastValueLine, h]
  rfl

end Detail

namespace Fault

def temporarily (message : String) (source : Source) : Fault :=
  mk 0 BuiltinClass.temporarilyUnavailable (.unavailable (.text message) (.source source)) none

def permanently (message : String) (source : Value) : Fault :=
  mk 0 BuiltinClass.permanentlyUnavailable (.unavailable (.text message) source) none

def ofMismatch (value : Value) (description : String) (source : Source) : Except Fault Fault := do
  let detail ← Detail.ofMismatch value (.text description) (.source source)
  return mk 0 BuiltinClass.predicateMismatch detail none

-- Arguments that an operating system call failed with: number, reason and perhaps a path.
def ofSystem (cls : BuiltinClass) (number : Int) (reason path : String) : Fault :=
  mk 0 cls (.plain [.int number, .text reason, .text path]) none

end Fault

end BoundedWait
