import BoundedWait.Value.Operation

namespace BoundedWait

inductive Level where
  | number (n : Int)
  | flag (b : Bool)
deriving DecidableEq, Repr

namespace Level

def rank : Level → Int
  | number n => n
  | flag b   => if b then 1 else 0

def toValue : Level → Value
  | number n => .int n
  | flag b   => .bool b

-- The names that a level may be given by. Of two names for one level, the first is its own.
def names : List (String × Int) :=
  [("CRITICAL", 50), ("FATAL", 50), ("ERROR", 40), ("WARNING", 30), ("WARN", 30), ("INFO", 20),
   ("DEBUG", 10), ("NOTSET", 0)]

def unset : Level := number 0

def warning : Level := number 30

def ofName? (name : String) : Option Level :=
  (names.find? (·.1 == name)).map (number ·.2)

def shown : Level → String
  | number n => toString n
  | flag b   => if b then "True" else "False"

def name (level : Level) : String :=
  match names.find? (·.2 == level.rank) with
  | some (name, _) => name
  | none           => "Level " ++ level.shown

theorem ofName?_name {level : Int} (h : level ∈ [50, 40, 30, 20, 10, 0]) :
    ofName? (number level).name = some (number level) := by
  have all : ∀ l ∈ ([50, 40, 30, 20, 10, 0] : List Int),
      ofName? (number l).name = some (number l) := by
    decide +kernel
  exact all level h

def unknown (quoted : String) : Fault :=
  Fault.saying .valueError ("Unknown level: " ++ quoted)

def notLevel (quoted : String) : Fault :=
  Fault.saying .typeError ("Level not an integer or a valid string: " ++ quoted)

def notNumber : Fault :=
  Fault.saying .typeError "level must be an integer"

def ofNumber? : Value → Option Level
  | .number (.int n)  => some (number n)
  | .number (.bool b) => some (flag b)
  | _                 => none

def ofValue (v : Value) : Except Fault Level := do
  match ofNumber? v, v with
  | some level, _ => return level
  | none, .text s =>
    match ofName? s with
    | some level => return level
    | none       => throw (unknown (← v.inspect))
  | none, v => throw (notLevel (← v.inspect))

theorem ofValue_named {s : String} {level : Level} (h : ofName? s = some level) :
    ofValue (.text s) = .ok level := by
  simp [ofValue, ofNumber?, h]
  rfl

end Level

end BoundedWait
