import BoundedWait.Config.Access

namespace BoundedWait

theorem Act.snd_bind {σ α β : Type} {a : Act σ α} {k : α → Act σ β} {s : σ} (h : (a s).2 = s)
    (hk : ∀ x, (k x s).2 = s) : ((a >>= k) s).2 = s := by
  rw [bind_apply]
  rcases made : a s with ⟨f | x, s'⟩
  all_goals
    rw [made] at h
    cases h
  case error => rfl
  case ok    => exact hk x

def Value.isMapping : Value → Bool
  | .dict _ => true
  | _       => false

theorem Setting.exists_lookUp (vars : Variables) (entries defaults : List (Value × Value))
    {key : String} (absent : Value)
    (legible : ∀ v, Value.lookup? entries (.text key) = some v → ∃ s, v.display = .ok s) :
    ∃ answer, lookUp vars (.dict entries) defaults key (some absent) = .ok answer := by
  have found : entry (.dict entries) key =
      .ok ((Value.lookup? entries (.text key)).getD .null) := rfl
  have ⟨blank, judged⟩ : ∃ blank,
      isBlank ((Value.lookup? entries (.text key)).getD .null) = .ok blank := by
    cases looked : Value.lookup? entries (.text key)
    case none => exact ⟨true, rfl⟩
    case some v =>
      have ⟨s, shown⟩ := legible v looked
      cases v <;> simp_all [isBlank, bind, Except.bind, pure, Except.pure]
  cases blank
  case false => exact ⟨_, lookUp_of_setting (some absent) found judged⟩
  case true =>
    cases set : vars.get? key
    case some s => exact ⟨_, lookUp_of_variable (some absent) found judged set⟩
    case none =>
      rw [lookUp_of_neither (some absent) found judged set, fallback]
      cases Value.lookup? defaults (.text key) <;> exact ⟨_, rfl⟩

theorem Setting.lookUp_of_not_isMapping {v : Value} (unmapped : v.isMapping = false)
    (vars : Variables) (defaults : List (Value × Value)) (key : String) (absent : Option Value) :
    lookUp vars v defaults key absent = .error (Misuse.noAttribute v.typeName "get").fault := by
  cases v
  case dict => cases unmapped
  all_goals rfl

namespace Configuration

variable {format : FileFormat} {c c' : Configuration} {v : Value}

-- What a first access reads: the files that set variables, and then the settings file.
def finds (format : FileFormat) : Action Value := do
  loadEnvFiles ⟨"", []⟩
  loadSettings format

theorem finds_of_unchanged (h : loadEnvFiles ⟨"", []⟩ c = (.ok (), c)) :
    finds format c = (c.loaded format, c) := by
  rw [finds, Act.bind_apply, h]
  rfl

theorem snapshot_of_finds {r : Except Fault Value} (h : finds format c = (r, c')) :
    c'.snapshot = c.snapshot := by
  have kept : (loadEnvFiles ⟨"", []⟩ c).2.snapshot = c.snapshot := rfl
  unfold finds at h
  rw [Act.bind_apply] at h
  rcases made : loadEnvFiles ⟨"", []⟩ c with ⟨f | _, c₁⟩
  all_goals
    rw [made] at h kept
    cases h
    exact kept

theorem settings_of_forgotten (format : FileFormat) (forgotten : c.snapshot = none) :
    settings format c =
      match finds format c with
      | (.error f, c₁) => (.error f, c₁)
      | (.ok v, c₁)    =>
        if v.truthy then
          match v.length with
          | .ok n    => (.ok v, { c₁ with snapshot := some v, log := loadedEntry n :: c₁.log })
          | .error f => (.error f, { c₁ with snapshot := some v })
        else (.ok v, { c₁ with snapshot := some v }) := by
  unfold settings finds load
  simp only [Act.bind_apply, Act.get, forgotten]
  rcases loadEnvFiles ⟨"", []⟩ c with ⟨f | _, c₁⟩
  case error => rfl
  case ok =>
    simp only [loadSettings]
    rcases c₁.loaded format with f | v
    case error => rfl
    case ok =>
      cases truthy : v.truthy
      case false => simp [remember, Act.update, truthy]
      case true =>
        -- The settings are remembered before their number is told, which fails on what has no
        -- length.
        rcases measured : v.length with f | n
        all_goals simp [remember, record, Act.update, truthy, measured]

theorem snapshot_of_settings (format : FileFormat) (forgotten : c.snapshot = none) :
    (settings format c).2.snapshot = (finds format c).1.toOption := by
  rw [settings_of_forgotten format forgotten]
  rcases found : finds format c with ⟨f | v, c₁⟩
  case error => exact (snapshot_of_finds found).trans forgotten
  case ok =>
    dsimp only
    split
    case isTrue  => split <;> rfl
    case isFalse => rfl

theorem remembered_of_settings (h : settings format c = (.ok v, c')) : c'.snapshot = some v := by
  cases before : c.snapshot
  case some w =>
    rw [settings_of_snapshot format before] at h
    cases h
    exact before
  case none =>
    rw [settings_of_forgotten format before] at h
    split at h
    case h_1 => cases h
    case h_2 =>
      split at h
      case isFalse => cases h; rfl
      case isTrue  => split at h <;> cases h; rfl

theorem settings_of_mapping {entries : List (Value × Value)} (forgotten : c.snapshot = none)
    (found : finds format c = (.ok (.dict entries), c')) :
    ∃ c₁, settings format c = (.ok (.dict entries), c₁) := by
  rw [settings_of_forgotten format forgotten, found]
  dsimp only [Value.length]
  split <;> exact ⟨_, rfl⟩

theorem get_of_mapping {entries : List (Value × Value)}
    (h : settings format c = (.ok (.dict entries), c')) {key : String} (absent : Value)
    (legible : ∀ v, Value.lookup? entries (.text key) = some v → ∃ s, v.display = .ok s) :
    ∃ answer, get format key absent c = (.ok answer, c') := by
  have ⟨answer, looked⟩ :=
    Setting.exists_lookUp c'.environment entries defaultEntries absent legible
  refine ⟨answer, ?_⟩
  rw [get, Act.bind_apply, h]
  simp [Act.get, looked]

theorem get_of_snapshot (h : c.snapshot = some v) (key : String) (absent : Value) :
    get format key absent c =
      (Setting.lookUp c.environment v defaultEntries key (some absent), c) := by
  simp [get, settings_of_snapshot format h, Act.get]

theorem waitSettings_leaves (h : c.snapshot = some v) : (waitSettings format c).2 = c := by
  have gets (key : String) : (get format key .null c).2 = c := by rw [get_of_snapshot h]
  unfold waitSettings
  refine Act.snd_bind (gets _) fun _ => Act.snd_bind (gets _) fun _ => ?_
  refine Act.snd_bind (gets _) fun _ => Act.snd_bind (gets _) fun _ => ?_
  refine Act.snd_bind rfl fun _ => Act.snd_bind (gets _) fun _ => ?_
  exact Act.snd_bind (gets _) fun _ => Act.snd_bind rfl fun _ => rfl

end Configuration

inductive Request where
  | settings
  | get (key : String) (absent : Value)
  | waitSettings

namespace Request

open BoundedWait.Configuration (Action finds)

variable {format : FileFormat} {request : Request} {c c' : Configuration} {v : Value}

def made (format : FileFormat) : Request → Action Unit
  | settings       => do let _ ← Configuration.settings format
  | get key absent => do let _ ← Configuration.get format key absent
  | waitSettings   => do let _ ← Configuration.waitSettings format

theorem begins_with_settings (format : FileFormat) (request : Request) :
    ∃ use : Value → Action Unit,
      request.made format = (do use (← Configuration.settings format)) := by
  cases request
  all_goals
    simp only [made, Configuration.get, Configuration.waitSettings, bind_assoc]
    exact ⟨_, rfl⟩

theorem made_of_settings_eq_error {f : Fault}
    (h : Configuration.settings format c = (.error f, c')) :
    request.made format c = (.error f, c') := by
  have ⟨use, begins⟩ := request.begins_with_settings format
  rw [begins, Act.bind_apply, h]

-- Once the settings are there, a request does what it would have done had they been there before.
theorem made_of_settings_eq_ok (h : Configuration.settings format c = (.ok v, c'))
    (remembered : c'.snapshot = some v) : request.made format c = request.made format c' := by
  have ⟨use, begins⟩ := request.begins_with_settings format
  rw [begins, Act.bind_apply, Act.bind_apply, h,
    Configuration.settings_of_snapshot format remembered]

theorem leaves_of_snapshot (h : c.snapshot = some v) : (request.made format c).2 = c := by
  cases request
  case settings =>
    exact Act.snd_bind (by rw [Configuration.settings_of_snapshot format h]) fun _ => rfl
  case get key absent =>
    exact Act.snd_bind (by rw [Configuration.get_of_snapshot h]) fun _ => rfl
  case waitSettings =>
    exact Act.snd_bind (Configuration.waitSettings_leaves h) fun _ => rfl

theorem made_of_not_isMapping (h : c.snapshot = some v) (unmapped : v.isMapping = false)
    (keyed : request ≠ settings) :
    request.made format c = (.error (Misuse.noAttribute v.typeName "get").fault, c) := by
  have got (key : String) (absent : Value) : Configuration.get format key absent c =
      (.error (Misuse.noAttribute v.typeName "get").fault, c) := by
    rw [Configuration.get_of_snapshot h, Setting.lookUp_of_not_isMapping unmapped]
  cases request
  case settings       => exact absurd rfl keyed
  case get key absent => rw [made, Act.bind_apply, got]
  case waitSettings   => simp only [made, Configuration.waitSettings, Act.bind_apply, got]

theorem snapshot_of_made (format : FileFormat) (request : Request) (forgotten : c.snapshot = none) :
    (request.made format c).2.snapshot = (finds format c).1.toOption := by
  rw [← Configuration.snapshot_of_settings format forgotten]
  rcases answered : Configuration.settings format c with ⟨f | v, c'⟩
  case error => rw [made_of_settings_eq_error answered]
  case ok =>
    have remembered := Configuration.remembered_of_settings answered
    rw [made_of_settings_eq_ok answered remembered, leaves_of_snapshot remembered]

theorem raises_of_not_isMapping (forgotten : c.snapshot = none)
    (found : finds format c = (.ok v, c')) (unmapped : v.isMapping = false)
    (keyed : request ≠ settings) : ∃ f, (request.made format c).1 = .error f := by
  rcases answered : Configuration.settings format c with ⟨f | w, c₁⟩
  case error => exact ⟨f, by rw [made_of_settings_eq_error answered]⟩
  case ok =>
    have remembered := Configuration.remembered_of_settings answered
    -- What was found is remembered even if the access then failed.
    have same : w = v := by
      have holds := Configuration.snapshot_of_settings format forgotten
      rw [answered, found, remembered] at holds
      exact Option.some.inj holds
    rw [made_of_settings_eq_ok answered remembered,
      made_of_not_isMapping remembered (same ▸ unmapped) keyed]
    exact ⟨_, rfl⟩

-- The first access after a start or after the settings were forgotten. A fault in reading leaves
-- no settings behind, so an access after the repair reads the file again. What is no mapping stays:
-- all who ask for a key fail on it, now and later, whatever the files hold by then.
theorem made_of_forgotten (format : FileFormat) (request : Request) {c : Configuration}
    (forgotten : c.snapshot = none) :
    (request.made format c).2.snapshot = (finds format c).1.toOption ∧
    (∀ f c₁, finds format c = (.error f, c₁) →
      request.made format c = (.error f, c₁) ∧
      ∀ files entries c₂, finds format { c₁ with files } = (.ok (.dict entries), c₂) →
        (∃ c₃, Configuration.settings format { c₁ with files } = (.ok (.dict entries), c₃)) ∧
        ∀ key absent,
          (∀ v, Value.lookup? entries (.text key) = some v → ∃ s, v.display = .ok s) →
          ∃ answer c₃, Configuration.get format key absent { c₁ with files } = (.ok answer, c₃)) ∧
    (∀ v c₁, finds format c = (.ok v, c₁) → v.isMapping = false → request ≠ settings →
      (∃ f, (request.made format c).1 = .error f) ∧
      ∀ c₂, c₂.snapshot = (request.made format c).2.snapshot →
        request.made format c₂ = (.error (Misuse.noAttribute v.typeName "get").fault, c₂)) := by
  have cached := snapshot_of_made format request forgotten
  refine ⟨cached, ?broken, ?spoiled⟩
  case broken =>
    intro f c₁ found
    have failed : Configuration.settings format c = (.error f, c₁) := by
      rw [Configuration.settings_of_forgotten format forgotten, found]
    refine ⟨made_of_settings_eq_error failed, fun files entries c₂ repaired => ?_⟩
    have again : { c₁ with files }.snapshot = none :=
      (Configuration.snapshot_of_finds found).trans forgotten
    have ⟨c₃, answered⟩ := Configuration.settings_of_mapping again repaired
    refine ⟨⟨c₃, answered⟩, fun key absent legible => ?_⟩
    have ⟨answer, got⟩ := Configuration.get_of_mapping answered absent legible
    exact ⟨answer, c₃, got⟩
  case spoiled =>
    intro v c₁ found unmapped keyed
    refine ⟨raises_of_not_isMapping forgotten found unmapped keyed, fun c₂ kept => ?_⟩
    rw [cached, found] at kept
    exact made_of_not_isMapping kept unmapped keyed

def settingsOnly (text : String) : Files :=
  ⟨[], [[]], [(["settings.yaml"], text)]⟩

def holding (text : String) : Configuration where
  environment := .set .empty Configuration.overrideName "settings.yaml"
  files       := settingsOnly text
  system      := "Linux"
  accountHome := "/"
  snapshot    := none
  log         := []

theorem finds_torn : ∃ f, finds .yaml (holding "[1") = (.error f, holding "[1") := by
  have torn : ((holding "[1").loaded .yaml).toOption.isNone = true := by decide +kernel
  rw [Configuration.finds_of_unchanged rfl]
  generalize (holding "[1").loaded .yaml = r at torn
  cases r
  case error f => exact ⟨f, rfl⟩
  case ok      => cases torn

theorem finds_listed : ∃ v, finds .yaml (holding "- 1") = (.ok v, holding "- 1") ∧
    v.isMapping = false := by
  have listed : ((holding "- 1").loaded .yaml).toOption.any (!·.isMapping) = true := by
    decide +kernel
  rw [Configuration.finds_of_unchanged rfl]
  generalize (holding "- 1").loaded .yaml = r at listed
  cases r
  case error => cases listed
  case ok v  => exact ⟨v, rfl, by simpa [Except.toOption] using listed⟩

def entries? : Value → Option (List (Value × Value))
  | .dict entries => some entries
  | _             => none

theorem finds_mended : ∃ entries,
    finds .yaml (holding "A: 1") = (.ok (.dict entries), holding "A: 1") ∧
    Value.lookup? entries (.text "B") = none := by
  have mended : (((holding "A: 1").loaded .yaml).toOption.bind entries?).any
      (fun entries => (Value.lookup? entries (.text "B")).isNone) = true := by
    decide +kernel
  rw [Configuration.finds_of_unchanged rfl]
  generalize (holding "A: 1").loaded .yaml = r at mended
  cases r
  case error => cases mended
  case ok v =>
    cases v
    case dict entries => exact ⟨entries, rfl, Option.isNone_iff_eq_none.mp mended⟩
    all_goals cases mended

-- A list that is not closed is read again once it has become a mapping. A list that is closed
-- stays.
theorem made_of_forgotten_holding :
    ((∃ f, (get "B" .null).made .yaml (holding "[1") = (.error f, holding "[1")) ∧
      ∃ answer c, Configuration.get .yaml "B" .null (holding "A: 1") = (.ok answer, c)) ∧
    ∃ f, ∀ files,
      (get "B" .null).made .yaml { ((get "B" .null).made .yaml (holding "- 1")).2 with files } =
        (.error f, { ((get "B" .null).made .yaml (holding "- 1")).2 with files }) := by
  constructor
  case left =>
    have ⟨f, torn⟩ := finds_torn
    have ⟨entries, mended, absent⟩ := finds_mended
    have forgotten : (holding "[1").snapshot = none := rfl
    have same : holding "A: 1" = { holding "[1" with files := settingsOnly "A: 1" } := rfl
    rw [same] at mended ⊢
    generalize holding "[1" = c at *
    have ⟨_, broken, _⟩ := made_of_forgotten .yaml (get "B" .null) forgotten
    have ⟨failed, repaired⟩ := broken f c torn
    have ⟨_, again⟩ := repaired _ entries _ mended
    refine ⟨⟨f, failed⟩, again "B" .null fun w looked => ?_⟩
    cases absent.symm.trans looked
  case right =>
    have ⟨v, listed, unmapped⟩ := finds_listed
    have forgotten : (holding "- 1").snapshot = none := rfl
    generalize holding "- 1" = c at *
    have ⟨_, _, spoiled⟩ := made_of_forgotten .yaml (get "B" .null) forgotten
    have ⟨_, kept⟩ := spoiled v c listed unmapped (fun same => nomatch same)
    exact ⟨_, fun files => kept { ((get "B" .null).made .yaml c).2 with files } rfl⟩

theorem made_leaves_settings :
    ¬ ∀ (request : Request) (c c' : Configuration) (f : Fault), c.snapshot = none →
      (∀ entries c₁, finds .yaml c ≠ (.ok (.dict entries), c₁)) →
      request.made .yaml c = (.error f, c') → c'.snapshot = none := by
  intro claimed
  have ⟨v, listed, unmapped⟩ := finds_listed
  have forgotten : (holding "- 1").snapshot = none := rfl
  generalize holding "- 1" = c at *
  have ⟨f, raised⟩ := raises_of_not_isMapping forgotten listed unmapped
    (fun same : get "B" .null = settings => nomatch same)
  have unusable (entries : List (Value × Value)) (c₁ : Configuration) :
      finds .yaml c ≠ (.ok (.dict entries), c₁) := by
    intro mapped
    cases listed.symm.trans mapped
    cases unmapped
  have nothing := claimed (get "B" .null) c _ f forgotten unusable (Prod.ext raised rfl)
  rw [snapshot_of_made .yaml (get "B" .null) forgotten, listed] at nothing
  cases nothing

end Request

end BoundedWait
