import BoundedWait.Simulation.Build
import BoundedWait.Wait.Interleaving

namespace BoundedWait

namespace Simulation

open World

-- The step that a script plays in its call of the given number; the last step repeats.
def scripted? (steps : List Step) (call : Nat) : Option Step :=
  steps[call]?.or steps.getLast?

theorem scripted?_of_lt {steps : List Step} {call : Nat} (h : call < steps.length) :
    scripted? steps call = some steps[call] := by
  simp [scripted?, h]

def Action.play : Action → Act World Value
  | .failure f => do .raise (← f.build)
  | .outcome o => do return .outcome (← o.build)
  | .source s  => s.build
  | .value v   => v.build

def Step.play : Step → Act World Value
  | .mk time action => do
    match time with
    | some t => advance t
    | none   => pure ()
    action.play

def playScript (steps : List Step) (call : Nat) : Act World Value :=
  match scripted? steps call with
  | some step => step.play
  | none      => return .null

def Primitive.apply (p : Primitive) (args : List Value) : Except Fault Value :=
  let missing : Except Fault Value := .error (Misuse.outOfRange "tuple").fault
  match p, args with
  | .length, v :: _       => do return .int (← v.length)
  | .integer, []          => .ok (.int 0)
  | .integer, v :: _      => do return .int (← v.toInteger)
  | .text, []             => .ok (.text "")
  | .text, v :: _         => do return .text (← v.display)
  | .add, a :: b :: _     => a.add b
  | .mul, a :: b :: _     => a.mul b
  | .equal, a :: b :: _   => .ok (.bool (a.equals b))
  | .less, a :: b :: _    => do return .bool (← a.relate .lt b)
  | .greater, a :: b :: _ => do return .bool (← a.relate .gt b)
  | .div, a :: b :: _     => a.div b
  | .item, a :: b :: _    => a.item b
  | _, _                  => missing

-- The step that is due by the clock: the last one whose time has come, or the one before all.
def due (now : Number) (before : Step) (after : List (Number × Step)) : Step :=
  after.foldl (fun step (time, next) => if time.le now then next else step) before

def Behaviour.play (call : Nat) (args : List Value) (keywords : List (String × Value)) :
    Behaviour → Act World Value
  | .steps script => playScript script call
  | .counter start step => do
    let first ← start.build
    let size  ← step.build
    .of (do first.add (← (Value.int call).mul size))
  | .byClock before after => do
    let w ← Act.get
    (due w.now before after).play
  | .first =>
    match args with
    | v :: _ => return v
    | []     => .raise (Misuse.outOfRange "tuple").fault
  | .echo =>
    return .list [.list args, .dict (keywords.map fun (k, v) => (.text k, v))]
  | .primitive p => .of (p.apply args)

def callOperation (c : Callable) (args : List Value) (keywords : List (String × Value)) :
    Act World Value := do
  let w ← Act.get
  match w.resident? c.id with
  | some (.operation recipe calls) => do
    match recipe.label with
    | some label => record (.call label args keywords)
    | none       => pure ()
    replace c.id (.operation recipe (calls + 1))
    recipe.behaviour.play calls args keywords
  | _ => .raise (Misuse.notCallable "Fn").fault

def readMember (o : Thing) (name : String) : Act World Value := do
  let w ← Act.get
  let absent := (Misuse.noAttribute o.className name).fault
  match w.resident? o.id with
  | some (.object _ members failures) =>
    match failures.find? (·.1 == name) with
    | some (_, f) => do .raise (← f.build)
    | none =>
      match members.find? (·.1 == name) with
      | some (_, v) => return v
      | none        => .raise absent
  | _ => .raise absent

def attemptCustom (id : Nat) : Act World Value := do
  let w ← Act.get
  match w.resident? id with
  | some (.custom steps label calls) => do
    match label with
    | some l => record (.call l [] [])
    | none   => pure ()
    replace id (.custom steps label (calls + 1))
    playScript steps calls
  | _ => .raise (Misuse.notCallable "CustomSource").fault

def host : Host World where
  call    := callOperation
  read    := readMember
  attempt := attemptCustom
  log e   := record (.log e)
  depth   := 200

namespace Clock

def read : Act World Number := do
  let w ← Act.get
  .update fun w => { w with readings := w.readings + 1 }
  match w.script.readings[w.readings]?.or w.script.readings.getLast? with
  | some reading => return reading
  | none => do
    match w.script.tick with
    | some tick => advance tick
    | none      => pure ()
    return w.now

def exhausted : Fault :=
  Fault.saying .runtimeError "sleep budget exhausted"

def sleep (seconds : Number) : Act World Unit := do
  record (.sleep seconds)
  let w ← Act.get
  let count := w.sleeps + 1
  .update fun w => { w with sleeps := count }
  match w.script.failure with
  | some (number, f) => if number = count then do .raise (← f.build) else pure ()
  | none => pure ()
  if w.script.maxSleeps < count then .raise exhausted
  advance seconds
  match w.script.overshoot with
  | some extra => advance extra
  | none       => pure ()

def timing : Timing World := ⟨read, sleep⟩

-- The clock as several waits share it. Their sleeps are counted by the rounds alone.
def scheduler : Scheduler World where
  now           := do return (← Act.get).now
  moveTo time   := .update fun w => { w with now := time }
  allow order   := do
    if (← Act.get).script.maxSleeps < order then .raise exhausted

end Clock

def observer (failure : Option (Nat × FaultRecipe)) : Observer World :=
  fun number reply => do
    record (.attempt number reply)
    match failure with
    | some (place, f) => if place = number then do .raise (← f.build) else pure ()
    | none => pure ()

def memberObserver (index : Nat) : Observer World :=
  fun number reply => do
    record (.memberAttempt index number reply (← Act.get).now)

def World.fuel (w : World) : Nat :=
  w.script.maxSleeps + 2

end Simulation

end BoundedWait
