import BoundedWait.Simulation.Play
import BoundedWait.Wait.Eventually

namespace BoundedWait

namespace Simulation

def buildPolicy : Option PolicyRecipe → Act World Policy
  | some p => p.build
  | none   => return Policy.default

inductive Watch where
  | nobody
  | observer (failure : Option (Nat × FaultRecipe))

def Watch.observe : Watch → Observer World
  | nobody           => Observer.silent
  | observer failure => Simulation.observer failure

structure WaitRecipe where
  source     : SourceRecipe
  policy     : Option PolicyRecipe
  watch      : Watch
  suspending : Bool

def finished {α : Type} (r : Option α) : Act World α :=
  match r with
  | some x => return x
  | none   => .raise (Fault.saying .runtimeError "the wait took too many attempts")

def fuel : Act World Nat := do
  return (← Act.get).fuel

namespace WaitRecipe

def ensureResult (w : WaitRecipe) : Act World Report := do
  let v ← w.source.build
  let p ← buildPolicy w.policy
  let run := if w.suspending then ensureResultSuspending else BoundedWait.ensureResult
  finished (← run host Clock.timing w.watch.observe (← fuel) v p)

def ensure (w : WaitRecipe) : Act World Value := do
  let v ← w.source.build
  let p ← buildPolicy w.policy
  let run := if w.suspending then ensureSuspending else BoundedWait.ensure
  finished (← run host Clock.timing w.watch.observe (← fuel) v p)

def eventually (w : WaitRecipe) (test : TestRecipe) (description : Option String) :
    Act World Value := do
  let v ← w.source.build
  let t ← test.build
  let p ← buildPolicy w.policy
  let run := if w.suspending then assertEventuallySuspending else assertEventually
  finished (← run host Clock.timing w.watch.observe (← fuel) (← fresh) v t description p)

end WaitRecipe

def repeatedly {α : Type} (times : Nat) (a : Act World α) : Act World (List α) :=
  (List.replicate times ()).mapM fun _ => a

def ensured (accessor : SourceRecipe) (policy : Option PolicyRecipe) (retryOn : List FaultClass)
    (noneIsRetryable : Bool) (times : Nat) : Act World (String × List (Except Fault Value)) := do
  let v ← accessor.build
  let p ← buildPolicy policy
  let getter := ensuredSource v retryOn noneIsRetryable
  let call : Act World Value := do
    finished (← BoundedWait.ensure host Clock.timing Observer.silent (← fuel) (.source getter) p)
  let values ← repeatedly times call.guarded
  let name :=
    match v with
    | .callable c => c.name.getD "wrapper"
    | _           => "wrapper"
  return (name, values)

structure MemberRecipe where
  source : SourceRecipe
  policy : Option PolicyRecipe
  delay  : Option Number

def MemberRecipe.starting (m : MemberRecipe) (index : Nat) : Act World (Sleeper World) := do
  let v ← m.source.build
  let p ← buildPolicy m.policy
  let wake ← .of (Number.checked ((← Act.get).now.add (m.delay.getD (.int 0))))
  return Sleeper.starting wake index (do
    let s ← .of (Source.ofValue v)
    return ⟨s, p, planFor host Clock.timing (memberObserver index) p s (s.trial host)⟩)

def concurrently (members : List MemberRecipe) : Act World (List Report) := do
  let indexes  := List.range members.length
  let sleepers ← (members.zip indexes).mapM fun (m, i) => m.starting i
  let rounds   := (← fuel) + 2 * members.length
  let reports  ← finished (← interleave Clock.scheduler rounds members.length sleepers [])
  return indexes.filterMap fun i => (reports.find? (·.1 == i)).map (·.2)

end Simulation

end BoundedWait
