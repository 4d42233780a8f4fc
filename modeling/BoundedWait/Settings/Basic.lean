import BoundedWait.Settings.Check
import BoundedWait.Policy.Basic

namespace BoundedWait

inductive BackoffStyle where
  | fixed
  | exponential
deriving DecidableEq, Repr

namespace BackoffStyle

def name : BackoffStyle → String
  | fixed       => "fixed"
  | exponential => "exponential"

def all : List BackoffStyle :=
  [fixed, exponential]

def ofName? (s : String) : Option BackoffStyle :=
  all.find? (·.name == s)

theorem ofName?_name (b : BackoffStyle) : ofName? b.name = some b := by
  cases b <;> decide

end BackoffStyle

structure WaitSettings where
  maxWait         : Float
  pollInterval    : Float
  backoff         : BackoffStyle
  multiplier      : Float
  maxPollInterval : Option Float
  retryTerminal   : Bool

namespace WaitSettings

def title : String := "EnsureSettings"

def default : WaitSettings where
  maxWait         := 60
  pollInterval    := 0.25
  backoff         := .fixed
  multiplier      := 2
  maxPollInterval := none
  retryTerminal   := false

-- The value of a field among those that were given; the last one of a name counts.
def given? (fields : List (String × Value)) (name : String) : Option Value :=
  (fields.reverse.find? (·.1 == name)).map (·.2)

def field {α : Type} (fields : List (String × Value)) (name : String) (absent : α)
    (read : Value → Except Complaint α) : Except Violation α :=
  match given? fields name with
  | some v => (read v).mapError (·.violation [name])
  | none   => .ok absent

def readBackoff (v : Value) : Except Complaint BackoffStyle := do
  let names := BackoffStyle.all.map (·.name)
  match BackoffStyle.ofName? (← readChoice names v) with
  | some b => return b
  | none   => throw (.notChoice names)

def maxWaitField : String := "max_wait_seconds"

def pollIntervalField : String := "poll_interval_seconds"

def backoffField : String := "backoff"

def multiplierField : String := "backoff_multiplier"

def maxPollIntervalField : String := "max_poll_interval_seconds"

def retryTerminalField : String := "retry_terminal"

def fits (s : WaitSettings) : Bool :=
  match s.maxPollInterval with
  | some limit => !(Number.ofFloat limit).lt (.ofFloat s.pollInterval)
  | none       => true

def checkFit (s : WaitSettings) : Except Violation WaitSettings :=
  if s.fits then .ok s
  else .error ((Complaint.inconsistent
    (maxPollIntervalField ++ " must be >= " ++ pollIntervalField)).violation [])

theorem checkFit_eq_ok_iff {s t : WaitSettings} : checkFit s = .ok t ↔ s = t ∧ s.fits = true := by
  unfold checkFit
  split
  case isTrue h => simp [h]
  case isFalse h => simp [h]

def complaints {α : Type} : Except Violation α → List Violation
  | .ok _    => []
  | .error v => [v]

def invalid (violations : List Violation) : Fault :=
  .mk 0 BuiltinClass.validationError (.invalid title violations) none

-- The settings with the given fields, and with defaults for the others. Fields of other names do
-- not matter.
def ofFields (fields : List (String × Value)) : Except Fault WaitSettings :=
  let maxWait := field fields maxWaitField default.maxWait (readNumber (.atLeast 0))
  let pollInterval := field fields pollIntervalField default.pollInterval (readNumber (.above 0))
  let backoff := field fields backoffField default.backoff readBackoff
  let multiplier := field fields multiplierField default.multiplier (readNumber (.atLeast 1))
  let maxPollInterval :=
    field fields maxPollIntervalField default.maxPollInterval (readNumber? (.above 0))
  let retryTerminal := field fields retryTerminalField default.retryTerminal readFlag
  match maxWait, pollInterval, backoff, multiplier, maxPollInterval, retryTerminal with
  | .ok w, .ok p, .ok b, .ok m, .ok c, .ok t => (checkFit ⟨w, p, b, m, c, t⟩).mapError (invalid [·])
  | _, _, _, _, _, _ =>
    .error (invalid (complaints maxWait ++ complaints pollInterval ++ complaints backoff ++
      complaints multiplier ++ complaints maxPollInterval ++ complaints retryTerminal))

def fields (s : WaitSettings) : List (String × Value) :=
  [(maxWaitField, .float s.maxWait),
   (pollIntervalField, .float s.pollInterval),
   (backoffField, .text s.backoff.name),
   (multiplierField, .float s.multiplier),
   (maxPollIntervalField, .ofOption (s.maxPollInterval.map Value.float)),
   (retryTerminalField, .bool s.retryTerminal)]

def retryOn (s : WaitSettings) : List OutcomeKind :=
  if s.retryTerminal then [.retryable, .terminal] else [.retryable]

-- The pause between two attempts. The longest pause only matters if the pauses grow.
def poll (s : WaitSettings) : Except Fault (Value ⊕ Interval) :=
  match s.backoff with
  | .fixed       => .ok (.inl (.float s.pollInterval))
  | .exponential => do
    let interval ← Interval.ofExponential (.float s.pollInterval) (.float s.multiplier)
      (.ofOption (s.maxPollInterval.map Value.float))
    return .inr interval

def policy (s : WaitSettings) : Except Fault Policy := do
  Policy.make (.float s.maxWait) (← s.poll) s.retryOn

theorem poll_fixed (s : WaitSettings) (h : s.backoff = .fixed) :
    s.poll = .ok (.inl (.float s.pollInterval)) := by
  simp [poll, h]

end WaitSettings

end BoundedWait
