import BoundedWait.Proofs.Config.Removal
import BoundedWait.Proofs.Config.WaitSettings

namespace BoundedWait

namespace WaitSettings

namespace Parameter

open BoundedWait.Configuration (defaultEntries)

variable {vars : Variables} {entries : List (Value × Value)} {p : Parameter}
  {removed : List Parameter} {complaint : Complaint}

theorem key_injective : Function.Injective key := by
  intro p q same
  revert same
  cases p
  all_goals
    cases q
    all_goals decide

def refusal? : Parameter → Option Complaint
  | maxWait         => some .notNumberText
  | pollInterval    => some .notNumberText
  | backoff         => some (.notChoice (BackoffStyle.all.map (·.name)))
  | multiplier      => some .notNumberText
  | maxPollInterval => none
  | retryTerminal   => none

theorem convert_blank (free : p.refusal? = none) :
    p.convert (.text "") = p.convert p.standard := by
  cases p
  case maxPollInterval => rfl
  case retryTerminal =>
    have off : (!offWords.contains (Text.lower (Text.trim ""))) =
        !offWords.contains (Text.lower (Text.trim "0")) := by decide +kernel
    rw [standard, convert_retryTerminal, convert_retryTerminal, off]
  all_goals cases free

theorem convert_blank_of_needed (needed : p.refusal? = some complaint) :
    p.convert (.text "") = .ok (.text "") ∧ p.objection? (.text "") = some complaint := by
  cases p
  all_goals cases needed
  case backoff =>
    have lower : Text.lower "" = "" := by decide +kernel
    rw [convert_backoff, lower]
    exact ⟨rfl, by decide +kernel⟩
  all_goals exact ⟨rfl, by decide +kernel⟩

theorem exists_convert_standard (p : Parameter) :
    ∃ w, p.convert p.standard = .ok w ∧ p.objection? w = none := by
  cases p
  case backoff       => exact ⟨_, convert_backoff _, by decide +kernel⟩
  case retryTerminal => exact ⟨_, convert_retryTerminal _, by decide +kernel⟩
  all_goals exact ⟨_, rfl, by decide +kernel⟩

theorem lookUp_of_blank (vacant : Setting.Vacant entries p.key)
    (blank : vars.get? p.key = some "") :
    Setting.lookUp vars (.dict entries) defaultEntries p.key (some .null) = .ok (.text "") :=
  Setting.lookUp_of_answers (.ofVariable vacant blank)

theorem lookUp_of_unset (vacant : Setting.Vacant entries p.key)
    (unset : vars.get? p.key = none) :
    Setting.lookUp vars (.dict entries) defaultEntries p.key (some .null) = .ok p.standard :=
  Setting.lookUp_of_answers (.ofDefault vacant unset p.lookup?_key)

-- A text is wanted where a parameter needs one and the settings have none, so that there is nothing
-- but the blank variable.
structure Wanted (entries : List (Value × Value)) (removed : List Parameter) (p : Parameter)
    (complaint : Complaint) : Prop where
  blank  : p ∈ removed
  vacant : Setting.Vacant entries p.key
  needed : p.refusal? = some complaint

theorem answer_without (blank : vars.Blank (removed.map key))
    (unwanted : ∀ complaint, ¬ Wanted entries removed p complaint) :
    p.answer (vars.without (removed.map key)) (.dict entries) = p.answer vars (.dict entries) := by
  by_cases among : p ∈ removed
  case neg =>
    have kept : (vars.without (removed.map key)).get? p.key = vars.get? p.key :=
      Variables.get?_without_of_not_mem ((List.mem_map_of_injective key_injective).not.mpr among)
    rw [answer, Setting.lookUp_congr kept, answer]
  case pos =>
    have mem : p.key ∈ removed.map key := List.mem_map_of_mem among
    by_cases vacant : Setting.Vacant entries p.key
    case neg => rw [answer, Setting.lookUp_of_not_vacant vacant, answer]
    case pos =>
      have free : p.refusal? = none := Option.eq_none_iff_forall_ne_some.mpr
        fun complaint needed => unwanted complaint ⟨among, vacant, needed⟩
      rw [answer, lookUp_of_unset vacant (Variables.get?_without_of_mem mem), answer,
        lookUp_of_blank vacant (blank _ mem)]
      -- A blank text that is allowed is converted like the standard value that takes its place.
      exact (convert_blank free).symm

namespace Wanted

theorem answer_blank (wanted : Wanted entries removed p complaint)
    (blank : vars.Blank (removed.map key)) :
    p.answer vars (.dict entries) = .ok (.text "") ∧ p.objection? (.text "") = some complaint := by
  have ⟨converted, wrong⟩ := convert_blank_of_needed wanted.needed
  rw [answer, lookUp_of_blank wanted.vacant (blank _ (List.mem_map_of_mem wanted.blank))]
  exact ⟨converted, wrong⟩

theorem answer_unset (wanted : Wanted entries removed p complaint) (vars : Variables) :
    ∃ w, p.answer (vars.without (removed.map key)) (.dict entries) = .ok w ∧
      p.objection? w = none := by
  have ⟨w, converted, right⟩ := p.exists_convert_standard
  rw [answer, lookUp_of_unset wanted.vacant
    (Variables.get?_without_of_mem (List.mem_map_of_mem wanted.blank))]
  exact ⟨w, converted, right⟩

end Wanted

end Parameter

open Parameter (Wanted)

variable {vars : Variables} {settings : Value} {entries : List (Value × Value)}
  {removed : List Parameter} {w : Parameter → Value} {p : Parameter} {complaint : Complaint}
  {x : Violation} {told : List Violation}

-- A blank variable is felt where a text is wanted, unless there is an entry without a text: that
-- ends the lookups before anything is checked.
inductive Felt : Value → List Parameter → Parameter → Complaint → Prop
  | mk {entries : List (Value × Value)} {removed : List Parameter} {p : Parameter}
    {complaint : Complaint} (legible : Legible entries)
    (wanted : Wanted entries removed p complaint) : Felt (.dict entries) removed p complaint

theorem told_of_wanted (blank : vars.Blank (removed.map Parameter.key))
    (answers : ∀ p : Parameter, p.answer vars (.dict entries) = .ok (w p))
    (wanted : Wanted entries removed p complaint) :
    complaint.violation [p.field] ∈ violations (named w) := by
  have ⟨answered, wrong⟩ := wanted.answer_blank blank
  have empty : w p = .text "" := Except.ok.inj ((answers p).symm.trans answered)
  refine mem_violations_iff.mpr ⟨p, ?_⟩
  rw [violation?_named, empty, wrong]
  rfl

theorem ofSettings_of_felt (blank : vars.Blank (removed.map Parameter.key))
    (felt : Felt settings removed p complaint) :
    ∃ told, ofSettings vars settings = .error (invalid told) ∧
      complaint.violation [p.field] ∈ told := by
  have ⟨legible, wanted⟩ := felt
  have ⟨w, answers⟩ := exists_answers legible vars
  have told := told_of_wanted blank answers wanted
  exact ⟨_, (ofSettings_eq answers).trans (ofFields_of_violations (List.ne_nil_of_mem told)), told⟩

theorem ofSettings_ne_of_felt (blank : vars.Blank (removed.map Parameter.key))
    (felt : Felt settings removed p complaint) :
    ofSettings (vars.without (removed.map Parameter.key)) settings ≠ ofSettings vars settings := by
  intro same
  have ⟨told, refused, mem⟩ := ofSettings_of_felt blank felt
  have ⟨legible, wanted⟩ := felt
  have ⟨w, answers⟩ := exists_answers legible (vars.without (removed.map Parameter.key))
  rw [refused, ofSettings_eq answers] at same
  -- Had both been refused alike, the standard value would be wrong in the same way.
  have still := violation?_of_mem (mem_violations_of_ofFields same mem nofun) rfl
  have ⟨v, answered, right⟩ := wanted.answer_unset vars
  have standard : w p = v := Except.ok.inj ((answers p).symm.trans answered)
  rw [violation?_named, standard, right] at still
  cases still

theorem ofSettings_without (blank : vars.Blank (removed.map Parameter.key))
    (unfelt : ∀ p complaint, ¬ Felt settings removed p complaint) :
    ofSettings (vars.without (removed.map Parameter.key)) settings = ofSettings vars settings := by
  cases settings
  case dict entries =>
    by_cases legible : Legible entries
    case pos =>
      exact ofSettings_congr fun p => Parameter.answer_without blank
        fun complaint wanted => unfelt p complaint ⟨legible, wanted⟩
    case neg => exact ofSettings_of_not_legible legible
  all_goals exact ofSettings_of_not_isMapping rfl

theorem mem_violations_without {w' : Parameter → Value}
    (blank : vars.Blank (removed.map Parameter.key))
    (answers : ∀ p : Parameter, p.answer vars (.dict entries) = .ok (w p))
    (answers' : ∀ p : Parameter,
      p.answer (vars.without (removed.map Parameter.key)) (.dict entries) = .ok (w' p))
    (mem : x ∈ violations (named w)) :
    (∃ p complaint, Wanted entries removed p complaint ∧ complaint.violation [p.field] = x) ∨
      x ∈ violations (named w') := by
  have ⟨p, said⟩ := mem_violations_iff.mp mem
  by_cases unwanted : ∀ complaint, ¬ Wanted entries removed p complaint
  case pos =>
    have same : w' p = w p := Except.ok.inj
      ((answers' p).symm.trans ((Parameter.answer_without blank unwanted).trans (answers p)))
    rw [violation?_named, ← same, ← violation?_named] at said
    exact .inr (mem_violations_iff.mpr ⟨p, said⟩)
  case neg =>
    simp only [Classical.not_forall, not_not] at unwanted
    have ⟨complaint, wanted⟩ := unwanted
    have expected := violation?_of_mem (told_of_wanted blank answers wanted) rfl
    exact .inl ⟨p, complaint, wanted, Option.some.inj (expected.symm.trans said)⟩

theorem told_without (blank : vars.Blank (removed.map Parameter.key))
    (refused : ofSettings vars settings = .error (invalid told)) (mem : x ∈ told) :
    (∃ p complaint, Felt settings removed p complaint ∧ complaint.violation [p.field] = x) ∨
      ∃ others, ofSettings (vars.without (removed.map Parameter.key)) settings =
        .error (invalid others) ∧ x ∈ others := by
  by_cases unfelt : ∀ p complaint, ¬ Felt settings removed p complaint
  case pos => exact .inr ⟨told, (ofSettings_without blank unfelt).trans refused, mem⟩
  case neg =>
    simp only [Classical.not_forall, not_not] at unfelt
    obtain ⟨_, _, legible, wanted⟩ := unfelt
    have ⟨w, answers⟩ := exists_answers legible vars
    have ⟨w', answers'⟩ := exists_answers legible (vars.without (removed.map Parameter.key))
    -- Something is wrong with the blank variables, so that what was told are all violations.
    have wrong := List.ne_nil_of_mem (told_of_wanted blank answers wanted)
    cases refused.symm.trans ((ofSettings_eq answers).trans (ofFields_of_violations wrong))
    rcases mem_violations_without blank answers answers' mem with
      ⟨p, complaint, wanted, about⟩ | still
    case inl => exact .inl ⟨p, complaint, ⟨legible, wanted⟩, about⟩
    case inr =>
      rw [ofSettings_eq answers', ofFields_of_violations (List.ne_nil_of_mem still)]
      exact .inr ⟨_, rfl, still⟩

end WaitSettings

namespace Configuration

open WaitSettings (Felt Parameter ofSettings)

variable {c : Configuration} {v : Value} {removed : List Parameter} {p : Parameter}
  {complaint : Complaint}

theorem key_not_mem_placeNames (removed : List Parameter) :
    ∀ name ∈ placeNames, name ∉ removed.map Parameter.key := by
  intro name place mem
  have ⟨p, _, same⟩ := List.mem_map.mp mem
  subst same
  revert place
  cases p
  all_goals decide

theorem waitSettings_of_felt (format : FileFormat)
    (blank : c.environment.Blank (removed.map Parameter.key))
    (found : (settings format c).1 = .ok v) (felt : Felt v removed p complaint) :
    ∃ told, (waitSettings format c).1 = .error (WaitSettings.invalid told) ∧
      complaint.violation [p.field] ∈ told := by
  have answered : settings format c = (.ok v, (settings format c).2) := Prod.ext found rfl
  rw [waitSettings_of_settings answered]
  exact WaitSettings.ofSettings_of_felt (blank_of_settings blank answered) felt

theorem waitSettings_without_cases (format : FileFormat)
    (blank : c.environment.Blank (removed.map Parameter.key))
    (unmentioned : c.snapshot = none →
      Unmentioned c.files (envPaths ⟨"", []⟩ c) (removed.map Parameter.key)) :
    (∃ f, (settings format c).1 = .error f ∧ (waitSettings format c).1 = .error f ∧
      (waitSettings format (c.without (removed.map Parameter.key))).1 = .error f) ∨
    ∃ v vars, (settings format c).1 = .ok v ∧
      vars.Blank (removed.map Parameter.key) ∧
      (waitSettings format c).1 = ofSettings vars v ∧
      (waitSettings format (c.without (removed.map Parameter.key))).1 =
        ofSettings (vars.without (removed.map Parameter.key)) v := by
  have same := settings_without format blank unmentioned (key_not_mem_placeNames removed)
  rcases answered : settings format c with ⟨f | v, c₁⟩
  all_goals rw [answered] at same
  case error =>
    rw [waitSettings_of_settings_error answered, waitSettings_of_settings_error same]
    exact .inl ⟨f, rfl, rfl, rfl⟩
  case ok =>
    rw [waitSettings_of_settings answered, waitSettings_of_settings same]
    exact .inr ⟨v, _, rfl, blank_of_settings blank answered, rfl, rfl⟩

-- A blank variable that is felt is a reason for a refusal. Without the blank variables there are
-- the same settings exactly if none of them is felt, and what else is wrong stays wrong. A file
-- that is still to be read must not mention them: it would find a variable that can be set.
theorem waitSettings_of_blank (format : FileFormat)
    (blank : c.environment.Blank (removed.map Parameter.key)) :
    let found := (settings format c).1
    let before := (waitSettings format c).1
    let after := (waitSettings format (c.without (removed.map Parameter.key))).1
    (∀ v p complaint, found = .ok v → Felt v removed p complaint →
      ∃ told, before = .error (WaitSettings.invalid told) ∧
        complaint.violation [p.field] ∈ told) ∧
    ((c.snapshot = none →
        Unmentioned c.files (envPaths ⟨"", []⟩ c) (removed.map Parameter.key)) →
      (after = before ↔ ∀ v p complaint, found = .ok v → ¬ Felt v removed p complaint) ∧
      ∀ told x, before = .error (WaitSettings.invalid told) → x ∈ told →
        (∃ v p complaint, found = .ok v ∧ Felt v removed p complaint ∧
          complaint.violation [p.field] = x) ∨
        ∃ others, after = .error (WaitSettings.invalid others) ∧ x ∈ others) := by
  intro found before after
  refine ⟨fun v p complaint => waitSettings_of_felt format blank, fun unmentioned => ?_⟩
  rcases waitSettings_without_cases format blank unmentioned with
    ⟨f, nothing, failed, fails⟩ | ⟨v, vars, got, still, made, makes⟩
  case inl =>
    rw [show found = .error f from nothing, show before = .error f from failed,
      show after = .error f from fails]
    exact ⟨iff_of_true rfl nofun, fun told x refused mem => .inr ⟨told, refused, mem⟩⟩
  case inr =>
    rw [show found = .ok v from got, show before = _ from made, show after = _ from makes]
    refine ⟨⟨?different, ?equal⟩, fun told x refused mem => ?others⟩
    case different =>
      rintro same _ p complaint ⟨⟩ felt
      exact WaitSettings.ofSettings_ne_of_felt still felt same
    case equal =>
      exact fun unfelt => WaitSettings.ofSettings_without still fun p complaint =>
        unfelt v p complaint rfl
    case others =>
      rcases WaitSettings.told_without still refused mem with ⟨p, complaint, felt, about⟩ | wrong
      case inl => exact .inl ⟨v, p, complaint, rfl, felt, about⟩
      case inr => exact .inr wrong

-- The settings file has a wait, and a file that sets variables says nothing of waits. The variables
-- for the wait and for the longest pause are blank.
def provided : Configuration where
  environment :=
    .set (.set (.set .empty overrideName "settings.yaml") maxWaitKey "") maxPollIntervalKey ""
  files       :=
    ⟨[], [[]], [([".env"], "A=1\n"), (["settings.yaml"], "DEFERRED_MAX_WAIT: '30'")]⟩
  system      := "Linux"
  accountHome := "/"
  snapshot    := none
  log         := []

theorem blank_provided : provided.environment.Blank
    ([Parameter.maxWait, Parameter.maxPollInterval].map Parameter.key) := by
  unfold Variables.Blank
  decide +kernel

theorem envPaths_provided : envPaths ⟨"", []⟩ provided =
    [⟨"", [".env"]⟩, ⟨"", [".env.development"]⟩, ⟨"", [".env.development.local"]⟩] := by
  decide +kernel

theorem unmentioned_provided : Unmentioned provided.files (envPaths ⟨"", []⟩ provided)
    [maxWaitKey, maxPollIntervalKey] := by
  have silent : ∀ s ∈ ["A=1\n", ""], ∀ name ∈ [maxWaitKey, maxPollIntervalKey],
      ¬ EnvFile.Mentions s name := by decide +kernel
  rw [envPaths_provided]
  intro path mem s read
  have said : s ∈ ["A=1\n", ""] := by
    simp only [List.mem_cons, List.not_mem_nil, or_false] at mem
    rcases mem with rfl | rfl | rfl
    all_goals
      cases read
      decide
  exact silent s said

def entryText? (key : String) : Value → Option String
  | .dict entries =>
    match Value.lookup? entries (.text key) with
    | some (.text s) => some s
    | _              => none
  | _ => none

theorem exists_entry_of_entryText? {r : Except Fault Value} {key s : String}
    (said : r.toOption.bind (entryText? key) = some s) :
    ∃ entries, r = .ok (.dict entries) ∧
      Value.lookup? entries (.text key) = some (.text s) := by
  cases r
  case error => cases said
  case ok v =>
    change entryText? key v = some s at said
    unfold entryText? at said
    split at said
    case h_1 entries =>
      split at said
      case h_1 looked =>
        cases said
        exact ⟨entries, rfl, looked⟩
      case h_2 => cases said
    case h_2 => cases said

theorem settings_provided : ∃ entries c, settings .yaml provided = (.ok (.dict entries), c) ∧
    Value.lookup? entries (.text maxWaitKey) = some (.text "30") := by
  have general : loadEnvFile provided.files ⟨"", [".env"]⟩ provided.environment =
      (.ok (), provided.environment.set "A" "1") :=
    loadEnvFile_of_single (s := "A=1\n") rfl (by decide +kernel) (by decide +kernel)
      (by simp [Variables.refusal?])
  have set : pass provided.files provided.environment =
      (.ok (), provided.environment.set "A" "1") := by
    have paths : envFiles ⟨"", []⟩ (stage provided.environment) = _ := envPaths_provided
    rw [pass, paths]
    exact Act.bind_eq_ok_iff.mpr ⟨_, _, general, rfl⟩
  have said : ({ provided with environment := provided.environment.set "A" "1" }.loaded
      .yaml).toOption.bind (entryText? maxWaitKey) = some "30" := by
    decide +kernel
  obtain ⟨entries, read, looked⟩ := exists_entry_of_entryText? said
  obtain ⟨c, answered⟩ := settings_of_mapping (c := provided) rfl
    (finds_eq_ok_iff.mpr ⟨_, set, read, rfl⟩)
  exact ⟨entries, c, answered, looked⟩

theorem not_felt_provided (found : (settings .yaml provided).1 = .ok v) :
    ¬ Felt v [.maxWait, .maxPollInterval] p complaint := by
  have ⟨entries, c, answered, looked⟩ := settings_provided
  rw [answered] at found
  cases found
  rintro ⟨_, wanted⟩
  have among := wanted.blank
  simp only [List.mem_cons, List.not_mem_nil, or_false] at among
  rcases among with rfl | rfl
  case inl =>
    cases wanted.vacant _ looked
    case inl null  => cases null
    case inr empty =>
      rw [Value.display_text] at empty
      exact absurd (Except.ok.inj empty) (by decide)
  case inr => cases wanted.needed

def unprovided : Configuration :=
  { provided with
    environment := .set .empty maxWaitKey ""
    files       := .emptyAt []
    snapshot    := some (.dict []) }

theorem blank_unprovided :
    unprovided.environment.Blank ([Parameter.maxWait].map Parameter.key) := by
  unfold Variables.Blank
  decide +kernel

theorem felt_unprovided : Felt (.dict []) [.maxWait] .maxWait .notNumberText :=
  ⟨(fun _ _ ⟨_, listed, _⟩ => nomatch listed), ⟨List.mem_singleton_self _, nofun, rfl⟩⟩

-- Two blank variables that are not felt, since one of them stands behind a setting and the other
-- one need not be a number, and a single one that is.
theorem waitSettings_of_blank_provided :
    (waitSettings .yaml (provided.without [maxWaitKey, maxPollIntervalKey])).1 =
      (waitSettings .yaml provided).1 ∧
    (waitSettings .yaml (unprovided.without [maxWaitKey])).1 ≠ (waitSettings .yaml unprovided).1 ∧
    ∃ told, (waitSettings .yaml unprovided).1 = .error (WaitSettings.invalid told) ∧
      Complaint.notNumberText.violation [WaitSettings.maxWaitField] ∈ told := by
  have known : (settings .yaml unprovided).1 = .ok (.dict []) :=
    congrArg Prod.fst (settings_of_snapshot .yaml rfl)
  have ⟨_, unfelt⟩ := waitSettings_of_blank .yaml blank_provided
  have ⟨refused, felt⟩ := waitSettings_of_blank .yaml blank_unprovided
  have different : _ ≠ _ := fun same => (felt nofun).1.mp same _ _ _ known felt_unprovided
  exact ⟨(unfelt fun _ => unmentioned_provided).1.mpr fun _ _ _ => not_felt_provided, different,
    refused _ _ _ known felt_unprovided⟩

theorem waitSettings_refuses_blank :
    ¬ ∀ (c : Configuration) (entries : List (Value × Value)) (p : Parameter),
      c.snapshot = some (.dict entries) → c.environment.get? p.key = some "" →
      (waitSettings .yaml { c with environment := c.environment.unset p.key }).1 =
        (waitSettings .yaml c).1 := by
  intro claimed
  have same := claimed unprovided [] .maxWait rfl (by decide +kernel)
  rw [waitSettings_of_snapshot .yaml rfl, waitSettings_of_snapshot .yaml rfl] at same
  exact WaitSettings.ofSettings_ne_of_felt blank_unprovided felt_unprovided same

end Configuration

end BoundedWait
