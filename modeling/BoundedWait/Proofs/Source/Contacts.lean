import BoundedWait.Proofs.Journal
import BoundedWait.Proofs.Source.Parallel

namespace BoundedWait

inductive Contact where
  | call (operation : Callable) (args : List Value) (keywords : List (String × Value))
  | read (target : Thing) (name : String)
  | attempt (id : Nat)

def Host.recorded {σ : Type} (host : Host σ) : Host (σ × List Contact) where
  call f args keywords := (host.call f args keywords).noted fun _ => .call f args keywords
  read target name     := (host.read target name).noted fun _ => .read target name
  attempt id           := (host.attempt id).noted fun _ => .attempt id
  log entry            := (host.log entry).beside
  depth                := host.depth
  checks               := host.checks

variable {σ : Type} (host : Host σ)

theorem Host.parallel_recorded : host.recorded.Parallel (fun _ => Act.Mirrors) host where
  toCongruence          := Act.Mirrors.congruence
  calls f args keywords  := .of_noted (fun _ => Contact.call f args keywords) _
  reads target name      := .of_noted (fun _ => Contact.read target name) _
  attempts id            := .of_noted (fun _ => Contact.attempt id) _
  logs _                 := .of_beside _
  depth                  := rfl
  types                  := rfl

namespace Source

theorem judgeMatch_recorded (self : Source) (test : Value) (description : Option String)
    (reply value : Value) (result : Except Fault Bool) :
    judgeMatch host.recorded self test description reply value result =
      (judgeMatch host self test description reply value result).beside := by
  cases result
  case error =>
    simp only [judgeMatch, Act.beside_bind, Act.beside_of, Act.beside_pure]
    rfl
  case ok matched =>
    cases matched
    case false => simp only [judgeMatch, Act.beside_bind, Act.beside_of, Act.beside_pure]
    case true  => rfl

theorem mirrors_attempt (s : Source) : (s.attempt host.recorded).Mirrors (s.attempt host) :=
  host.parallel_recorded.attempt s

end Source

end BoundedWait
