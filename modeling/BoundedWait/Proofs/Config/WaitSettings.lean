import BoundedWait.Proofs.Config.Answers
import BoundedWait.Proofs.Config.Snapshot
import BoundedWait.Proofs.Settings.Violations
import Mathlib.Data.List.Basic

theorem List.exists_error_of_mapM {α β γ ε : Type} {f : α → Except ε β} {g : α → Except ε γ}
    {l : List α} (same : ∀ x ∈ l, ∀ e, f x = .error e ↔ g x = .error e)
    (fails : ∃ x ∈ l, ∃ e, f x = .error e) : ∃ e, l.mapM f = .error e ∧ l.mapM g = .error e := by
  induction l
  case nil =>
    have ⟨_, mem, _⟩ := fails
    cases mem
  case cons x rest ih =>
    rw [List.forall_mem_cons] at same
    rw [List.mapM_cons, List.mapM_cons]
    cases here : f x
    case error e => exact ⟨e, rfl, by rw [(same.1 e).mp here]; rfl⟩
    case ok y =>
      have ⟨z, there⟩ : ∃ z, g x = .ok z := by
        cases there : g x
        case ok z    => exact ⟨z, rfl⟩
        case error e => cases here.symm.trans ((same.1 e).mpr there)
      have later : ∃ x ∈ rest, ∃ e, f x = .error e := by
        have ⟨a, mem, e, failed⟩ := fails
        cases mem
        case head     => cases here.symm.trans failed
        case tail mem => exact ⟨a, mem, e, failed⟩
      have ⟨e, left, right⟩ := ih same.2 later
      exact ⟨e, by rw [left]; rfl, by rw [there, right]; rfl⟩

namespace BoundedWait

theorem Act.bind_of_eq {σ α β : Type} {a : Act σ α} {k : α → Act σ β} {s : σ} {r : Except Fault α}
    {q : α → Except Fault β} (first : a s = (r, s)) (next : ∀ x, k x s = (q x, s)) :
    (a >>= k) s = (r >>= q, s) := by
  rw [bind_apply, first]
  cases r
  case error => rfl
  case ok x  => exact next x

namespace Configuration

theorem lookup?_defaultEntries (key : String) : Value.lookup? defaultEntries (.text key) =
    (Keyed.get? defaults key).map fun value => .ofOption (value.map Value.text) := by
  have same (e : String × Option String) :
      (Value.text key).agrees (.text e.1) = decide (e.1 = key) := by
    simp [Value.agrees, eq_comm, beq_eq_decide]
  simp only [Value.lookup?, defaultEntries, Keyed.get?, List.find?_map, Option.map_map,
    Function.comp_def, same]

end Configuration

namespace WaitSettings

namespace Parameter

open BoundedWait.Configuration (defaultEntries)

variable {vars : Variables} {v : Value} {entries : List (Value × Value)} {p : Parameter} {f : Fault}

def key : Parameter → String
  | maxWait         => Configuration.maxWaitKey
  | pollInterval    => Configuration.pollIntervalKey
  | backoff         => Configuration.backoffKey
  | multiplier      => Configuration.multiplierKey
  | maxPollInterval => Configuration.maxPollIntervalKey
  | retryTerminal   => Configuration.retryTerminalKey

def standard : Parameter → Value
  | maxWait         => .text "60"
  | pollInterval    => .text "0.25"
  | backoff         => .text "fixed"
  | multiplier      => .text "2"
  | maxPollInterval => .null
  | retryTerminal   => .text "0"

def convert (p : Parameter) (v : Value) : Except Fault Value :=
  match p with
  | backoff         => do return .text (Text.lower (← v.display))
  | maxPollInterval => return Configuration.unlessEmpty v
  | retryTerminal   => do return .bool (← v.isOn)
  | _               => return v

def asked : List Parameter :=
  [maxPollInterval, maxWait, pollInterval, backoff, multiplier, retryTerminal]

def answer (vars : Variables) (settings : Value) (p : Parameter) : Except Fault Value := do
  p.convert (← Setting.lookUp vars settings defaultEntries p.key (some .null))

theorem mem_asked (p : Parameter) : p ∈ asked := by
  cases p
  all_goals decide

theorem lookup?_key (p : Parameter) :
    Value.lookup? defaultEntries (.text p.key) = some p.standard := by
  rw [Configuration.lookup?_defaultEntries]
  cases p
  all_goals rfl

theorem convert_backoff (s : String) :
    backoff.convert (.text s) = .ok (.text (Text.lower s)) := by
  rw [convert, Value.display_text]
  rfl

theorem convert_retryTerminal (s : String) : retryTerminal.convert (.text s) =
    .ok (.bool !offWords.contains (Text.lower (Text.trim s))) := by
  simp only [convert, Value.isOn, Value.display_text]
  rfl

theorem exists_convert {s : String} (shown : v.display = .ok s) (p : Parameter) :
    ∃ w, p.convert v = .ok w := by
  cases p
  case backoff =>
    rw [convert, shown]
    exact ⟨_, rfl⟩
  case retryTerminal =>
    have ⟨b, on⟩ : ∃ b, v.isOn = .ok b := by
      unfold Value.isOn
      split
      case h_1 => exact ⟨_, rfl⟩
      case h_2 => exact ⟨_, rfl⟩
      case h_3 =>
        rw [shown]
        exact ⟨_, rfl⟩
    rw [convert, on]
    exact ⟨_, rfl⟩
  all_goals exact ⟨_, rfl⟩

theorem exists_display_of_lookUp
    (answers : Setting.Answers vars entries defaultEntries p.key .null v) :
    ∃ s, v.display = .ok s := by
  cases answers
  case ofEntry s _ _ _ shown => exact ⟨s, shown⟩
  case ofVariable s _ _      => exact ⟨s, Value.display_text s⟩
  case ofDefault _ _ listed =>
    -- The default entries have something for each parameter.
    cases p.lookup?_key.symm.trans listed
    cases p
    case maxPollInterval => exact ⟨"None", by simp [standard, Value.display, Value.write]⟩
    all_goals exact ⟨_, Value.display_text _⟩
  case otherwise _ _ unlisted => cases p.lookup?_key.symm.trans unlisted

theorem answer_eq_error_iff :
    p.answer vars (.dict entries) = .error f ↔ Setting.Unspeakable entries p.key f := by
  unfold answer
  rw [Except.bind_eq_error_iff, Setting.lookUp_eq_error_iff, or_iff_left]
  rintro ⟨v, found, failed⟩
  have ⟨s, shown⟩ := exists_display_of_lookUp (Setting.lookUp_eq_ok_iff.mp found)
  have ⟨w, converted⟩ := p.exists_convert shown
  cases failed.symm.trans converted

end Parameter

variable {vars vars' : Variables} {settings : Value} {entries : List (Value × Value)}
  {w : Parameter → Value}

def ofSettings (vars : Variables) (settings : Value) : Except Fault WaitSettings := do
  ofFields (← Parameter.asked.mapM fun p => do return (p.field, ← p.answer vars settings))

def named (w : Parameter → Value) : List (String × Value) :=
  Parameter.asked.map fun p => (p.field, w p)

theorem given?_named (w : Parameter → Value) (p : Parameter) :
    given? (named w) p.field = some (w p) := by
  cases p
  all_goals rfl

theorem violation?_named (w : Parameter → Value) (p : Parameter) :
    p.violation? (named w) = (p.objection? (w p)).map (·.violation [p.field]) := by
  rw [Parameter.violation?, given?_named]
  rfl

theorem ofFields_of_asked (c w p b m t : Value) :
    ofFields [(maxPollIntervalField, c), (maxWaitField, w), (pollIntervalField, p),
      (backoffField, b), (multiplierField, m), (retryTerminalField, t)] =
    ofFields [(maxWaitField, w), (pollIntervalField, p), (backoffField, b), (multiplierField, m),
      (maxPollIntervalField, c), (retryTerminalField, t)] := by
  refine ofFields_congr fun p => ?_
  cases p
  all_goals rfl

theorem ofSettings_eq (answers : ∀ p : Parameter, p.answer vars settings = .ok (w p)) :
    ofSettings vars settings = ofFields (named w) := by
  have all : (fun p : Parameter => do return (p.field, ← p.answer vars settings)) =
      fun p => (pure (p.field, w p) : Except Fault (String × Value)) := by
    funext p
    rw [answers]
    rfl
  rw [ofSettings, all, List.mapM_pure]
  rfl

theorem ofSettings_congr
    (same : ∀ p : Parameter, p.answer vars' settings = p.answer vars settings) :
    ofSettings vars' settings = ofSettings vars settings := by
  simp only [ofSettings, same]

-- Each entry that a parameter could have has a text, if there is one.
def Legible (entries : List (Value × Value)) : Prop :=
  ∀ (p : Parameter) f, ¬ Setting.Unspeakable entries p.key f

theorem exists_answers (legible : Legible entries) (vars : Variables) :
    ∃ w : Parameter → Value, ∀ p : Parameter, p.answer vars (.dict entries) = .ok (w p) := by
  have answered (p : Parameter) : ∃ w, p.answer vars (.dict entries) = .ok w := by
    cases answered : p.answer vars (.dict entries)
    case ok w    => exact ⟨w, rfl⟩
    case error f => exact absurd (Parameter.answer_eq_error_iff.mp answered) (legible p f)
  exact ⟨fun p => (answered p).choose, fun p => (answered p).choose_spec⟩

theorem ofSettings_of_not_legible (silent : ¬ Legible entries) :
    ofSettings vars' (.dict entries) = ofSettings vars (.dict entries) := by
  simp only [Legible, Classical.not_forall, not_not] at silent
  have ⟨p, f, silent⟩ := silent
  have failed (vars : Variables) (p : Parameter) (f : Fault) :
      (do return (p.field, ← p.answer vars (.dict entries)) : Except Fault (String × Value)) =
        .error f ↔ Setting.Unspeakable entries p.key f := by
    rw [Except.bind_eq_error_iff, Parameter.answer_eq_error_iff, or_iff_left]
    exact fun ⟨_, _, returned⟩ => nomatch returned
  -- Which entries have no text does not depend on the variables, so that both fail at the same one.
  have ⟨e, left, right⟩ := List.exists_error_of_mapM (l := Parameter.asked)
    (fun p _ f => (failed vars' p f).trans (failed vars p f).symm)
    ⟨p, p.mem_asked, f, (failed vars' p f).mpr silent⟩
  rw [ofSettings, left, ofSettings, right]

theorem ofSettings_of_not_isMapping (unmapped : settings.isMapping = false) :
    ofSettings vars' settings = ofSettings vars settings := by
  refine ofSettings_congr fun p => ?_
  rw [Parameter.answer, Setting.lookUp_of_not_isMapping unmapped, Parameter.answer,
    Setting.lookUp_of_not_isMapping unmapped]

end WaitSettings

namespace Configuration

open WaitSettings (Parameter ofSettings)

variable {format : FileFormat} {c c₁ : Configuration} {v : Value} {f : Fault}

theorem waitSettings_of_snapshot (format : FileFormat) (remembered : c.snapshot = some v) :
    waitSettings format c = (ofSettings c.environment v, c) := by
  have looks (key : String) : get format key .null c =
      (Setting.lookUp c.environment v defaultEntries key (some .null), c) :=
    get_of_snapshot remembered key .null
  simp only [ofSettings, Parameter.asked, List.mapM_cons, List.mapM_nil, Parameter.answer,
    Parameter.convert, Parameter.key, Parameter.field, bind_assoc, pure_bind,
    WaitSettings.ofFields_of_asked]
  unfold waitSettings
  refine Act.bind_of_eq (looks _) fun _ => Act.bind_of_eq (looks _) fun _ => ?_
  refine Act.bind_of_eq (looks _) fun _ => Act.bind_of_eq (looks _) fun _ => ?_
  refine Act.bind_of_eq rfl fun _ => Act.bind_of_eq (looks _) fun _ => ?_
  exact Act.bind_of_eq (looks _) fun _ => Act.bind_of_eq rfl fun _ => rfl

theorem waitSettings_eq_bind (format : FileFormat) : ∃ use : Value → Action WaitSettings,
    waitSettings format = (do use (← settings format)) := by
  simp only [waitSettings, get, bind_assoc]
  exact ⟨_, rfl⟩

theorem waitSettings_of_settings (answered : settings format c = (.ok v, c₁)) :
    waitSettings format c = (ofSettings c₁.environment v, c₁) := by
  have ⟨use, begins⟩ := waitSettings_eq_bind format
  have remembered := remembered_of_settings answered
  rw [← waitSettings_of_snapshot format remembered, begins, Act.bind_apply, Act.bind_apply,
    answered, settings_of_snapshot format remembered]

theorem waitSettings_of_settings_error (failed : settings format c = (.error f, c₁)) :
    waitSettings format c = (.error f, c₁) := by
  have ⟨use, begins⟩ := waitSettings_eq_bind format
  rw [begins, Act.bind_apply, failed]

end Configuration

end BoundedWait
