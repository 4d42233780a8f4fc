import BoundedWait.Simulation.Recipe

namespace BoundedWait

namespace Simulation

inductive Resident where
  | operation (recipe : OperationRecipe) (calls : Nat)
  | object (className : String) (members : List (String × Value))
      (failures : List (String × FaultRecipe))
  | custom (steps : List Step) (label : Option String) (calls : Nat)
  | other

inductive Event where
  | call (label : String) (args : List Value) (keywords : List (String × Value))
  | attempt (number : Nat) (reply : Value)
  | sleep (seconds : Number)
  | log (entry : LogEntry)
  | memberAttempt (index number : Nat) (reply : Value) (now : Number)

-- How the clock behaves: what a reading adds to the time, or a script of readings; what a sleep
-- adds on top; which sleep fails, and how many there may be.
structure ClockScript where
  tick      : Option Number
  readings  : List Number
  overshoot : Option Number
  failure   : Option (Nat × FaultRecipe)
  maxSleeps : Nat

structure World where
  residents : Array Resident
  script    : ClockScript
  now       : Number
  readings  : Nat
  sleeps    : Nat
  names     : List (String × Value)
  policies  : List (String × Policy)
  -- The latest event comes first.
  events    : List Event

namespace World

def initial (script : ClockScript) (start : Number) : World where
  residents := #[]
  script    := script
  now       := start
  readings  := 0
  sleeps    := 0
  names     := []
  policies  := []
  events    := []

-- Numbers start from one, since `0` is the identity of the library's own faults.
def settle (r : Resident) : Act World Nat :=
  fun w => (.ok (w.residents.size + 1), { w with residents := w.residents.push r })

def resident? (w : World) (id : Nat) : Option Resident :=
  w.residents[id - 1]?

def replace (id : Nat) (r : Resident) : Act World Unit :=
  .update fun w => { w with residents := w.residents.setIfInBounds (id - 1) r }

def record (e : Event) : Act World Unit :=
  .update fun w => { w with events := e :: w.events }

def advance (span : Number) : Act World Unit := do
  let w ← Act.get
  let now ← .of (Number.checked (w.now.add span))
  .update fun w => { w with now := now }

def bindName (name : String) (v : Value) : Act World Unit :=
  .update fun w => { w with names := (name, v) :: w.names }

def bindPolicy (name : String) (p : Policy) : Act World Unit :=
  .update fun w => { w with policies := (name, p) :: w.policies }

theorem size_residents_settle (w : World) (r : Resident) :
    (settle r w).2.residents.size = w.residents.size + 1 := by
  simp [settle]

end World

end Simulation

end BoundedWait
