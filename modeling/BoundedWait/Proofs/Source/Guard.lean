import BoundedWait.Proofs.Calm
import BoundedWait.Proofs.Source.Sight
import BoundedWait.Proofs.Value.Obstacles

namespace BoundedWait

variable {σ : Type} {host : Host σ} {src : Source} {e : Fault} {s s₁ : σ}

namespace Source

theorem resolve_of_attempt {reply : Value} (answered : src.attempt host s = (.ok reply, s₁)) :
    src.resolve host s = (.ok reply, s₁) := by
  have caught := Act.caught_ok answered
  rw [resolve, Value.resolve, guardAttempt, Act.bind_apply]
  simp only [Value.attempt, caught]
  rfl

theorem resolve_of_exception (raised : src.attempt host s = (.error e, s₁))
    (exception : e.isException = true) :
    src.resolve host s = (do
      let shown   ← .of src.inspect
      let message ← .of e.message
      host.log ⟨.error, sourcesLog,
        shown ++ " raised from attempt_resolve instead of returning an outcome: " ++ message, []⟩
      return .outcome (.terminal e .null) : Act σ Value) s₁ := by
  have caught := Act.caught_exception raised exception
  rw [resolve, Value.resolve, guardAttempt, Act.bind_apply]
  simp only [Value.attempt, caught, Value.inspect, Value.write]

theorem resolve_of_told (quiet : ∀ entry, (host.log entry).Returns) {text message : String}
    (raised : src.attempt host s = (.error e, s₁)) (exception : e.isException = true)
    (shown : src.inspect = .ok text) (told : e.message = .ok message) :
    ∃ s₂, src.resolve host s = (.ok (.outcome (.terminal e .null)), s₂) := by
  have ⟨_, s₂, written, _⟩ := quiet ⟨.error, sourcesLog, text ++
    " raised from attempt_resolve instead of returning an outcome: " ++ message, []⟩ s₁
  exact ⟨s₂, by simp [resolve_of_exception raised exception, shown, told, written]⟩

-- An attempt that answers is left alone, and one that raises an exception is made a final failure
-- with that cause, unless the source or the exception cannot be shown.
theorem resolve_guards (quiet : ∀ entry, (host.log entry).Returns) (src : Source) (s : σ) :
    match src.attempt host s with
    | (.ok reply, s₁) => src.resolve host s = (.ok reply, s₁)
    | (.error e, s₁)  =>
      if e.isException then
        match src.inspect, e.message with
        | .ok _, .ok _    => ∃ s₂, src.resolve host s = (.ok (.outcome (.terminal e .null)), s₂)
        | .error f, _     => f ∈ src.obstacles ∧ src.resolve host s = (.error f, s₁)
        | .ok _, .error f => f ∈ e.obstacles ∧ src.resolve host s = (.error f, s₁)
      else src.resolve host s = (.error e, s₁) := by
  rcases attempted : src.attempt host s with ⟨e | reply, s₁⟩
  case ok => exact resolve_of_attempt attempted
  case error =>
    cases exception : e.isException
    case false =>
      simp only [exception]
      exact resolve_of_not_isException attempted exception
    case true =>
      -- The entry that is logged has two texts in it, that of the source and that of the fault, and
      -- either can fail.
      have logged := resolve_of_exception attempted exception
      rcases shown : src.inspect with f | text
      case error =>
        have obstructed : f ∈ src.obstacles := Source.mem_obstacles src shown
        have escaped : src.resolve host s = (.error f, s₁) := by simp [logged, shown]
        simpa only [exception, if_true] using ⟨obstructed, escaped⟩
      case ok =>
        rcases told : e.message with f | message
        case error =>
          have obstructed : f ∈ e.obstacles := Fault.mem_obstacles e told
          have escaped : src.resolve host s = (.error f, s₁) := by simp [logged, shown, told]
          simpa only [exception, if_true, told] using ⟨obstructed, escaped⟩
        case ok =>
          have replaced := resolve_of_told quiet attempted exception shown told
          simpa only [exception, if_true, told] using replaced

end Source

def Value.Told (reply : Value) : Prop :=
  ∃ o, reply = .outcome o ∧ ∀ c ∈ o.cause?, ∃ text, c.message = .ok text

def Source.Tellable (host : Host σ) (src : Source) (s : σ) : Prop :=
  match src.attempt host s with
  | (.ok reply, _) => reply.Told
  | (.error e, _)  => ∃ text, e.message = .ok text

def Fault.broken : Fault :=
  .saying .runtimeError "broken"

def Host.broken : Host Unit where
  call _ _ _    := .raise .broken
  read o member := .raise (Misuse.noAttribute o.className member).fault
  attempt _     := .raise .broken
  log _         := pure ()
  depth         := 0

def Fault.noText : Fault :=
  .saying .valueError "bad repr"

def Source.mute : Source :=
  .reading (.direct (.object (.plain 0 "Bad" (.error .noText)))) "real" none

theorem Source.resolve_guards_broken : Fault.broken.isException = true ∧
    (Source.custom 0 (.ok "it")).attempt .broken () = (.error .broken, ()) ∧
    ∃ s, (Source.custom 0 (.ok "it")).resolve .broken () =
      (.ok (.outcome (.terminal .broken .null)), s) := by
  have quiet (entry : LogEntry) : (Host.broken.log entry).Returns := .pure trivial
  have guarded := resolve_guards quiet (.custom 0 (.ok "it")) ()
  exact ⟨rfl, rfl, guarded⟩

theorem Source.resolve_escapes : Fault.noText.isException = true ∧
    Source.mute.attempt .broken () = (.error .noText, ()) ∧
    Source.mute.resolve .broken () = (.error .noText, ()) :=
  ⟨rfl, rfl, rfl⟩

end BoundedWait
