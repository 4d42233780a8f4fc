import BoundedWait.Settings.Basic

namespace BoundedWait

namespace WaitSettings

inductive Parameter where
  | maxWait
  | pollInterval
  | backoff
  | multiplier
  | maxPollInterval
  | retryTerminal
deriving DecidableEq, Repr

def objection? {α : Type} (read : Value → Except Complaint α) (v : Value) : Option Complaint :=
  match read v with
  | .ok _            => none
  | .error complaint => some complaint

namespace Parameter

def all : List Parameter :=
  [maxWait, pollInterval, backoff, multiplier, maxPollInterval, retryTerminal]

def field : Parameter → String
  | maxWait         => maxWaitField
  | pollInterval    => pollIntervalField
  | backoff         => backoffField
  | multiplier      => multiplierField
  | maxPollInterval => maxPollIntervalField
  | retryTerminal   => retryTerminalField

def objection? : Parameter → Value → Option Complaint
  | maxWait         => WaitSettings.objection? (readNumber (.atLeast 0))
  | pollInterval    => WaitSettings.objection? (readNumber (.above 0))
  | backoff         => WaitSettings.objection? readBackoff
  | multiplier      => WaitSettings.objection? (readNumber (.atLeast 1))
  | maxPollInterval => WaitSettings.objection? (readNumber? (.above 0))
  | retryTerminal   => WaitSettings.objection? readFlag

theorem mem_all (p : Parameter) : p ∈ all := by
  cases p
  all_goals decide

theorem field_injective {p q : Parameter} (same : p.field = q.field) : p = q := by
  revert same
  cases p
  all_goals
    cases q
    all_goals decide

def violation? (given : List (String × Value)) (p : Parameter) : Option Violation :=
  ((given? given p.field).bind p.objection?).map (·.violation [p.field])

theorem violation?_eq_some_iff {given : List (String × Value)} {p : Parameter} {x : Violation} :
    p.violation? given = some x ↔ ∃ v complaint, given? given p.field = some v ∧
      p.objection? v = some complaint ∧ complaint.violation [p.field] = x := by
  simp only [violation?, Option.map_eq_some_iff, Option.bind_eq_some_iff]
  constructor
  case mp  => exact fun ⟨complaint, ⟨v, found, wrong⟩, said⟩ => ⟨v, complaint, found, wrong, said⟩
  case mpr => exact fun ⟨v, complaint, found, wrong, said⟩ => ⟨complaint, ⟨v, found, wrong⟩, said⟩

end Parameter

def violations (given : List (String × Value)) : List Violation :=
  Parameter.all.flatMap fun p => (p.violation? given).toList

variable {given given' : List (String × Value)} {x : Violation}

theorem mem_violations_iff :
    x ∈ violations given ↔ ∃ p : Parameter, p.violation? given = some x := by
  simp [violations, Parameter.mem_all]

theorem violation?_of_mem {p : Parameter} (mem : x ∈ violations given)
    (about : x.location = [p.field]) : p.violation? given = some x := by
  have ⟨q, said⟩ := mem_violations_iff.mp mem
  have ⟨_, complaint, _, _, made⟩ := Parameter.violation?_eq_some_iff.mp said
  rw [← made] at about
  -- No two parameters have one field.
  cases Parameter.field_injective (List.singleton_inj.mp about)
  exact said

theorem complaints_field {α : Type} (given : List (String × Value)) (name : String) (absent : α)
    (read : Value → Except Complaint α) :
    complaints (field given name absent read) =
      (((given? given name).bind (objection? read)).map (·.violation [name])).toList := by
  unfold field
  cases given? given name
  case none => rfl
  case some v =>
    simp only [Option.bind_some, objection?]
    cases read v
    all_goals rfl

theorem complaints_eq_nil {α : Type} {r : Except Violation α} (nothing : complaints r = []) :
    ∃ y, r = .ok y := by
  cases r
  case error => cases nothing
  case ok y  => exact ⟨y, rfl⟩

theorem violations_eq (given : List (String × Value)) : violations given =
    complaints (field given maxWaitField default.maxWait (readNumber (.atLeast 0))) ++
    complaints (field given pollIntervalField default.pollInterval (readNumber (.above 0))) ++
    complaints (field given backoffField default.backoff readBackoff) ++
    complaints (field given multiplierField default.multiplier (readNumber (.atLeast 1))) ++
    complaints (field given maxPollIntervalField default.maxPollInterval
      (readNumber? (.above 0))) ++
    complaints (field given retryTerminalField default.retryTerminal readFlag) := by
  simp only [complaints_field, violations, Parameter.all, List.flatMap_cons, List.flatMap_nil,
    List.append_nil, List.append_assoc]
  rfl

theorem ofFields_of_violations (wrong : violations given ≠ []) :
    ofFields given = .error (invalid (violations given)) := by
  unfold ofFields
  simp only
  split
  case h_1 w p b m c t =>
    refine absurd ?_ wrong
    simp only [violations_eq, w, p, b, m, c, t]
    rfl
  case h_2 => rw [violations_eq]

-- Fields that can all be read may still not fit together.
theorem ofFields_of_nil (right : violations given = []) :
    ∃ s, ofFields given = (checkFit s).mapError (invalid [·]) := by
  rw [violations_eq] at right
  simp only [List.append_eq_nil_iff, and_assoc] at right
  have ⟨w, p, b, m, c, t⟩ := right
  have ⟨_, w⟩ := complaints_eq_nil w
  have ⟨_, p⟩ := complaints_eq_nil p
  have ⟨_, b⟩ := complaints_eq_nil b
  have ⟨_, m⟩ := complaints_eq_nil m
  have ⟨_, c⟩ := complaints_eq_nil c
  have ⟨_, t⟩ := complaints_eq_nil t
  simp only [ofFields, w, p, b, m, c, t]
  exact ⟨_, rfl⟩

theorem mem_violations_of_ofFields {told : List Violation}
    (refused : ofFields given = .error (invalid told)) (mem : x ∈ told) (about : x.location ≠ []) :
    x ∈ violations given := by
  by_cases right : violations given = []
  case pos =>
    have ⟨s, made⟩ := ofFields_of_nil right
    rw [made] at refused
    unfold checkFit at refused
    split at refused <;> cases refused
    cases List.mem_singleton.mp mem
    exact absurd rfl about
  case neg =>
    rw [ofFields_of_violations right] at refused
    cases refused
    exact mem

-- Only what is given for the fields matters, and not in what order.
theorem ofFields_congr (same : ∀ p : Parameter, given? given p.field = given? given' p.field) :
    ofFields given = ofFields given' := by
  have w := same .maxWait
  have p := same .pollInterval
  have b := same .backoff
  have m := same .multiplier
  have c := same .maxPollInterval
  have t := same .retryTerminal
  simp only [Parameter.field] at w p b m c t
  simp only [ofFields, field, w, p, b, m, c, t]

end WaitSettings

end BoundedWait
