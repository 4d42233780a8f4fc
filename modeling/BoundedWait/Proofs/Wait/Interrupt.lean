import BoundedWait.Proofs.Source.Contacts
import BoundedWait.Proofs.Wait.Parallel

namespace BoundedWait

def Except.error? {ε α : Type} : Except ε α → Option ε
  | .ok _    => none
  | .error e => some e

inductive Doing where
  | contact (c : Contact)
  | log (entry : LogEntry)
  | clock
  | pause (delay : Number)
  | observe (count : Nat) (reply : Value)

structure Deed where
  what   : Doing
  fault? : Option Fault

-- The first fault among some deeds that is no exception was the last deed, and it is what a
-- computation has ended with.
def Interrupted {α : Type} (deeds : List Deed) (result : Except Fault α) : Prop :=
  ∀ before deed after f, deeds = before ++ deed :: after → deed.fault? = some f →
    f.isException = false → after = [] ∧ result = .error f

namespace Interrupted

variable {α β : Type} {deeds later : List Deed} {result : Except Fault α} {q : Except Fault β}

theorem nil : Interrupted [] result := by
  intro before deed after f parts
  simp at parts

theorem singleton (what : Doing) (result : Except Fault α) :
    Interrupted [⟨what, Except.error? result⟩] result := by
  intro before deed after f parts raised _
  have ⟨_, last⟩ := List.append_eq_singleton_iff.mp parts.symm |>.resolve_right (by simp)
  obtain ⟨rfl, rfl⟩ := List.cons.inj last
  refine ⟨rfl, ?_⟩
  cases result <;> cases raised
  rfl

theorem of_calm (h : Interrupted deeds result)
    (calm : ∀ f, result = .error f → f.isException = true) : Interrupted deeds q := by
  intro before deed after f parts raised fatal
  have ⟨_, ended⟩ := h before deed after f parts raised fatal
  rw [calm f ended] at fatal
  cases fatal

theorem error {f : Fault} (h : Interrupted deeds (.error f : Except Fault α)) :
    Interrupted deeds (.error f : Except Fault β) := by
  intro before deed after g parts raised fatal
  have ⟨last, ended⟩ := h before deed after g parts raised fatal
  cases ended
  exact ⟨last, rfl⟩

theorem append {x : α} (h : Interrupted deeds (.ok x : Except Fault α)) (h' : Interrupted later q) :
    Interrupted (deeds ++ later) q := by
  intro before deed after f parts raised fatal
  cases List.append_eq_append_iff.mp parts
  case inl cut =>
    have ⟨between, _, rest⟩ := cut
    exact h' between deed after f rest raised fatal
  case inr cut =>
    have ⟨between, whole, rest⟩ := cut
    cases between
    case nil =>
      exact h' [] deed after f (by simpa using rest.symm) raised fatal
    case cons deed' between =>
      have ⟨same, _⟩ := List.cons.inj rest
      -- The first part has ended with a result, so that none of its deeds was an interrupt.
      have ⟨_, ended⟩ := h before deed' between f whole (same ▸ raised) fatal
      cases ended

end Interrupted

namespace Act

variable {σ α β : Type}

def doing (what : Doing) (a : Act σ α) : Act (σ × List Deed) α :=
  a.noted fun r => ⟨what, Except.error? r⟩

-- The first computation does what the second one does and writes down what it does outside of the
-- library, which is over as soon as it is interrupted.
structure Heeds (b : Act (σ × List Deed) α) (a : Act σ α) : Prop where
  mirrors : b.Mirrors a
  heeded  : ∀ s, Interrupted (b (s, [])).2.2 (a s).1

namespace Heeds

theorem of_doing (what : Doing) (a : Act σ α) : Heeds (a.doing what) a where
  mirrors  := .of_noted _ a
  heeded s := .singleton what (a s).1

theorem of_of (r : Except Fault α) : Heeds (.of r : Act (σ × List Deed) α) (.of r) where
  mirrors  := .of_of r
  heeded _ := .nil

variable {a : Act σ α} {b : Act (σ × List Deed) α}

theorem bind {k : α → Act σ β} {l : α → Act (σ × List Deed) β} (h : Heeds b a)
    (hk : ∀ x, Heeds (l x) (k x)) : Heeds (b >>= l) (a >>= k) where
  mirrors  := h.mirrors.bind fun x => (hk x).mirrors
  heeded s := by
    have first := h.heeded s
    have made := h.mirrors.result_eq s []
    rcases ran : a s with ⟨f | x, t⟩
    all_goals
      rw [ran] at first made
      rw [bind_apply, bind_apply, made, ran]
    case error => exact first.error
    case ok =>
      have rest := (hk x).mirrors.append t (b (s, [])).2.2
      have later := (hk x).heeded t
      simp only [rest]
      exact first.append later

theorem caught (h : Heeds b a) : Heeds b.caught a.caught where
  mirrors  := h.mirrors.caught
  heeded s := by
    have heeded := h.heeded s
    rw [journal_caught]
    rcases ran : a s with ⟨f | x, t⟩
    all_goals rw [ran] at heeded
    case ok =>
      rw [caught_ok ran]
      exact heeded.of_calm (by simp)
    case error =>
      cases exception : f.isException
      case false =>
        rw [caught_of_not_isException ran exception]
        exact heeded.error
      case true =>
        rw [caught_exception ran exception]
        -- What is caught is an exception, and an interrupt would have been what the computation
        -- ended with.
        exact heeded.of_calm (by simp [exception])

theorem congruence : Congruence fun α => @Heeds σ α where
  of     := of_of
  bind   := bind
  caught := caught

end Heeds

end Act

variable {σ : Type}

def Host.watched (host : Host σ) : Host (σ × List Deed) where
  call f args keywords := (host.call f args keywords).doing (.contact (.call f args keywords))
  read target name     := (host.read target name).doing (.contact (.read target name))
  attempt id           := (host.attempt id).doing (.contact (.attempt id))
  log entry            := (host.log entry).doing (.log entry)
  depth                := host.depth
  checks               := host.checks

def Timing.watched (timing : Timing σ) : Timing (σ × List Deed) where
  clock   := timing.clock.doing .clock
  pause d := (timing.pause d).doing (.pause d)

def Observer.watched (observe : Observer σ) : Observer (σ × List Deed) :=
  fun n reply => (observe n reply).doing (.observe n reply)

theorem Host.parallel_watched (host : Host σ) :
    host.watched.Parallel (fun _ => Act.Heeds) host where
  toCongruence          := Act.Heeds.congruence
  calls f args keywords := .of_doing (.contact (.call f args keywords)) _
  reads target name     := .of_doing (.contact (.read target name)) _
  attempts id           := .of_doing (.contact (.attempt id)) _
  logs entry            := .of_doing (.log entry) _
  depth                 := rfl
  types                 := rfl

theorem Timing.parallel_watched (timing : Timing σ) :
    timing.watched.Parallel (fun _ => Act.Heeds) timing where
  clock   := .of_doing .clock _
  pause d := .of_doing (.pause d) _

-- Whatever raises an interrupt in a run, it leaves the run as it is, and nothing is done after it:
-- nothing is called, read, attempted or written to the log, nobody is told, the clock is not read
-- and there is no pause.
theorem interrupts_end_runs (host : Host σ) (timing : Timing σ) (observe : Observer σ)
    (fuel mark : Nat) (source test : Value) (description : Option String) (policy : Policy) :
    (source.resolve host.watched).Heeds (source.resolve host) ∧
    (ensureResult host.watched timing.watched observe.watched fuel source policy).Heeds
      (ensureResult host timing observe fuel source policy) ∧
    (ensure host.watched timing.watched observe.watched fuel source policy).Heeds
      (ensure host timing observe fuel source policy) ∧
    (assertEventually host.watched timing.watched observe.watched fuel mark source test description
        policy).Heeds
      (assertEventually host timing observe fuel mark source test description policy) := by
  have world := host.parallel_watched
  have times := timing.parallel_watched
  have observed (n : Nat) (v : Value) : (observe.watched n v).Heeds (observe n v) :=
    .of_doing (.observe n v) _
  exact ⟨world.resolve source, world.ensureResult times observed fuel source policy,
    world.ensure times observed fuel source policy,
    world.assertEventually times observed fuel mark source test description policy⟩

end BoundedWait
