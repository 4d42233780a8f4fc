import BoundedWait.Config.Lookup

namespace BoundedWait

namespace Setting

variable {vars vars' : Variables} {entries defaults : List (Value × Value)} {key : String}
  {absent v w : Value} {f : Fault}

-- There is no entry for a key, or it is nothing, or its text is empty.
def Vacant (entries : List (Value × Value)) (key : String) : Prop :=
  ∀ v, Value.lookup? entries (.text key) = some v → v = .null ∨ v.display = .ok ""

def Unspeakable (entries : List (Value × Value)) (key : String) (f : Fault) : Prop :=
  ∃ v, Value.lookup? entries (.text key) = some v ∧ v.display = .error f

-- What a key stands for: the first of these four that there is.
inductive Answers (vars : Variables) (entries defaults : List (Value × Value)) (key : String)
    (absent : Value) : Value → Prop
  | ofEntry {v : Value} {s : String} (listed : Value.lookup? entries (.text key) = some v)
    (something : v ≠ .null) (shown : v.display = .ok s) (worded : s ≠ "") :
    Answers vars entries defaults key absent v
  | ofVariable {s : String} (vacant : Vacant entries key) (set : vars.get? key = some s) :
    Answers vars entries defaults key absent (.text s)
  | ofDefault {v : Value} (vacant : Vacant entries key) (unset : vars.get? key = none)
    (listed : Value.lookup? defaults (.text key) = some v) :
    Answers vars entries defaults key absent v
  | otherwise (vacant : Vacant entries key) (unset : vars.get? key = none)
    (unlisted : Value.lookup? defaults (.text key) = none) :
    Answers vars entries defaults key absent absent

theorem entry_dict (entries : List (Value × Value)) (key : String) :
    entry (.dict entries) key = .ok ((Value.lookup? entries (.text key)).getD .null) := rfl

theorem isBlank_of_something (something : v ≠ .null) :
    isBlank v = v.display.map String.isEmpty := by
  cases v
  case null => exact absurd rfl something
  all_goals rfl

theorem isBlank_of_vacant (vacant : Vacant entries key) :
    isBlank ((Value.lookup? entries (.text key)).getD .null) = .ok true := by
  cases looked : Value.lookup? entries (.text key)
  case none => rfl
  case some v =>
    by_cases something : v = .null
    case pos => rw [something]; rfl
    case neg =>
      have shown := (vacant v looked).resolve_left something
      rw [Option.getD_some, isBlank_of_something something, shown]
      rfl

theorem lookUp_of_answers (h : Answers vars entries defaults key absent v) :
    lookUp vars (.dict entries) defaults key (some absent) = .ok v := by
  cases h
  case ofEntry s worded listed something shown =>
    refine lookUp_of_setting (some absent) (by rw [entry_dict, listed, Option.getD_some]) ?_
    rw [isBlank_of_something something, shown]
    simpa [Except.map] using worded
  case ofVariable vacant set =>
    exact lookUp_of_variable (some absent) (entry_dict entries key) (isBlank_of_vacant vacant) set
  case ofDefault vacant unset listed =>
    rw [lookUp_of_neither _ (entry_dict entries key) (isBlank_of_vacant vacant) unset, fallback,
      listed]
    rfl
  case otherwise vacant unset unlisted =>
    rw [lookUp_of_neither _ (entry_dict entries key) (isBlank_of_vacant vacant) unset, fallback,
      unlisted]
    rfl

theorem lookUp_of_unspeakable (h : Unspeakable entries key f) :
    lookUp vars (.dict entries) defaults key (some absent) = .error f := by
  have ⟨v, listed, silent⟩ := h
  have something : v ≠ .null := by
    rintro rfl
    cases silent
  have judged : isBlank ((Value.lookup? entries (.text key)).getD .null) = .error f := by
    rw [listed, Option.getD_some, isBlank_of_something something, silent]
    rfl
  simp only [lookUp, entry_dict, bind, Except.bind, judged]

theorem answers_or_unspeakable (vars : Variables) (entries defaults : List (Value × Value))
    (key : String) (absent : Value) :
    (∃ v, Answers vars entries defaults key absent v) ∨ ∃ f, Unspeakable entries key f := by
  by_cases vacant : Vacant entries key
  case pos =>
    left
    cases set : vars.get? key
    case some s => exact ⟨_, .ofVariable vacant set⟩
    case none =>
      cases listed : Value.lookup? defaults (.text key)
      case some v => exact ⟨v, .ofDefault vacant set listed⟩
      case none   => exact ⟨absent, .otherwise vacant set listed⟩
  case neg =>
    simp only [Vacant, Classical.not_forall, not_or] at vacant
    have ⟨v, listed, something, worded⟩ := vacant
    cases shown : v.display
    case error f => exact .inr ⟨f, v, listed, shown⟩
    case ok s =>
      exact .inl ⟨v, .ofEntry listed something shown fun empty => worded (empty ▸ shown)⟩

theorem lookUp_eq_ok_iff : lookUp vars (.dict entries) defaults key (some absent) = .ok v ↔
    Answers vars entries defaults key absent v := by
  constructor
  case mp =>
    intro h
    cases answers_or_unspeakable vars entries defaults key absent
    case inl answered =>
      have ⟨w, answers⟩ := answered
      cases h.symm.trans (lookUp_of_answers answers)
      exact answers
    case inr failed =>
      have ⟨f, unspeakable⟩ := failed
      cases h.symm.trans (lookUp_of_unspeakable unspeakable)
  case mpr => exact lookUp_of_answers

theorem lookUp_eq_error_iff : lookUp vars (.dict entries) defaults key (some absent) = .error f ↔
    Unspeakable entries key f := by
  constructor
  case mp =>
    intro h
    cases answers_or_unspeakable vars entries defaults key absent
    case inl answered =>
      have ⟨w, answers⟩ := answered
      cases h.symm.trans (lookUp_of_answers answers)
    case inr failed =>
      have ⟨g, unspeakable⟩ := failed
      cases h.symm.trans (lookUp_of_unspeakable unspeakable)
      exact unspeakable
  case mpr => exact lookUp_of_unspeakable

theorem lookUp_congr {settings : Value} {absent : Option Value}
    (same : vars'.get? key = vars.get? key) :
    lookUp vars' settings defaults key absent = lookUp vars settings defaults key absent := by
  rw [lookUp, same, lookUp]

theorem lookUp_of_not_vacant (told : ¬ Vacant entries key) :
    lookUp vars' (.dict entries) defaults key (some absent) =
      lookUp vars (.dict entries) defaults key (some absent) := by
  rcases answers_or_unspeakable vars entries defaults key absent with ⟨v, answers⟩ | ⟨f, silent⟩
  case inl =>
    rw [lookUp_of_answers answers]
    cases answers
    case ofEntry s worded listed something shown =>
      exact lookUp_of_answers (.ofEntry listed something shown worded)
    case ofVariable vacant _   => exact absurd vacant told
    case ofDefault vacant _ _  => exact absurd vacant told
    case otherwise vacant _ _  => exact absurd vacant told
  case inr => rw [lookUp_of_unspeakable silent, lookUp_of_unspeakable silent]

end Setting

end BoundedWait
