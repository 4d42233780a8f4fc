import BoundedWait.Proofs.Config.Saving
import BoundedWait.Proofs.Config.Snapshot
import BoundedWait.Proofs.Yaml.Output

namespace BoundedWait

mutual

-- What settings are made of: nothing, defined numbers, texts, octets, lists and mappings, and
-- tuples if these are to be counted.
def Value.isData (tuples : Bool) : Value → Bool
  | .null         => true
  | .number n     => n.eq n
  | .text _       => true
  | .bytes _      => true
  | .list items   => Value.areData tuples items
  | .tuple items  => tuples && Value.areData tuples items
  | .dict entries => Value.holdData tuples entries
  | _             => false

def Value.areData (tuples : Bool) : List Value → Bool
  | []      => true
  | v :: vs => v.isData tuples && Value.areData tuples vs

def Value.holdData (tuples : Bool) : List (Value × Value) → Bool
  | []           => true
  | (k, v) :: es => k.isData tuples && v.isData tuples && Value.holdData tuples es

end

theorem Value.isMapping_of_equals {v : Value} {entries : List (Value × Value)}
    (h : v.equals (.dict entries) = true) : v.isMapping = true := by
  cases v
  case dict => rfl
  all_goals simp [Value.equals, Value.agrees] at h

namespace FileFormat

variable {format : FileFormat} {v : Value}

theorem write_eq_of_isNone (h : (format.write v).2.isNone = true) :
    format.write v = ((format.write v).1, none) :=
  Prod.ext rfl (Option.isNone_iff_eq_none.mp h)

theorem keeps_of_read
    (h : (format.read (format.write v).1).toOption.any (·.equals v) = true) : format.Keeps v := by
  intro text written
  rw [written] at h
  cases made : format.read text
  case error =>
    rw [made] at h
    cases h
  case ok w =>
    rw [made] at h
    exact ⟨w, rfl, h⟩

theorem refuses_of_read (h : (format.read (format.write v).1).toOption.isNone = true) :
    format.Refuses v := by
  intro text written
  rw [written] at h
  cases refused : format.read text
  case error f => exact ⟨f, rfl⟩
  case ok =>
    rw [refused] at h
    cases h

end FileFormat

namespace Configuration

variable {format : FileFormat} {v w : Value} {entries : List (Value × Value)}
  {c c' : Configuration} {path : Path} {text content : String} {p : Place}

theorem settingsOf_of_isMapping (h : v.isMapping = true) : settingsOf v = v := by
  cases v
  case dict entries =>
    cases entries
    case nil  => rfl
    case cons => rfl
  all_goals cases h

theorem saved_ok (h : saveSettings format v c = (.ok (), c')) :
    ∃ (path : Path) (files : Files) (p : Place),
      c.settingsPath = .ok path ∧ files.writable path = .ok p ∧
      format.write v = ((format.write v).1, none) ∧
      c' = { c with files := files.store p (format.write v).1 } := by
  generalize ended : Except.ok () = r at h
  cases saved h
  case written path files p place made opened =>
    refine ⟨path, files, p, place, opened, ?_, rfl⟩
    cases stopped : (format.write v).2
    case none => exact Prod.ext rfl stopped
    case some =>
      rw [stopped] at ended
      cases ended
  all_goals cases ended

theorem load_of_saved (lines : format.FeedsLines v) (h : saveSettings format v c = (.ok (), c')) :
    format.write v = ((format.write v).1, none) ∧
      loadSettings format c' = (settingsOf <$> format.read (format.write v).1, c') := by
  have ⟨path, files, p, place, opened, written, after⟩ := saved_ok h
  refine ⟨written, Prod.ext ?_ rfl⟩
  rw [after, loadSettings, loaded_of_store format _ place opened, Files.lineFed_of_not_mem lines]

theorem load_of_keeps (lines : format.FeedsLines (.dict entries))
    (keeps : format.Keeps (.dict entries))
    (h : saveSettings format (.dict entries) c = (.ok (), c')) :
    ∃ w, loadSettings format c' = (.ok w, c') ∧ w.equals (.dict entries) = true := by
  have ⟨written, loaded⟩ := load_of_saved lines h
  have ⟨w, made, equal⟩ := keeps _ written
  refine ⟨w, ?_, equal⟩
  rw [loaded, made, Except.map_ok, settingsOf_of_isMapping (Value.isMapping_of_equals equal)]

theorem load_of_refuses (lines : format.FeedsLines v) (refuses : format.Refuses v)
    (h : saveSettings format v c = (.ok (), c')) :
    ∃ f, loadSettings format c' = (.error f, c') := by
  have ⟨written, loaded⟩ := load_of_saved lines h
  have ⟨f, refused⟩ := refuses _ written
  exact ⟨f, by rw [loaded, refused]; rfl⟩

theorem saveSettings_of_bare (format : FileFormat) (v : Value) (place : c.settingsPath = .ok path)
    (named : ∀ step ∈ path.parts, step ≠ "") (bare : path.parent.bareText = "") :
    saveSettings format v c = (.error (Files.noEntry ""), c) := by
  have inner : ∀ step ∈ path.parent.parts, step ≠ "" :=
    fun step mem => named step (List.dropLast_subset _ mem)
  rw [saveSettings_eq, place]
  dsimp only
  rw [Files.make_bare bare inner]

theorem saveSettings_of_writable (written : format.write v = (content, none))
    (place : c.settingsPath = .ok path) (named : ∀ step ∈ path.parts, step ≠ "")
    (writable : c.files.Writable path) (inside : path.parent.bareText ≠ "") :
    ∃ files, saveSettings format v c = (.ok (), { c with files }) ∧
      (∀ d, files.isDirectory d = true ↔
        c.files.isDirectory d = true ∨ d ∈ c.files.passed path) ∧
      ∀ q, files.document? q =
        if q = c.files.target path then some content else c.files.document? q := by
  have ⟨files, made, added, dirs, opened⟩ := writable.make named inside
  refine ⟨files.store (c.files.target path) content, ?_, fun d => ⟨added.makes d, ?_⟩, fun q => ?_⟩
  case refine_1 =>
    rw [saveSettings_eq, place]
    dsimp only
    rw [made]
    dsimp only
    rw [opened, written]
    rfl
  case refine_2 => exact fun h => h.elim (added.keeps d) (dirs d)
  case refine_3 => rw [Files.document?_store, added.document?]

-- Settings that were saved without a fault are loaded as equal ones if there is no tuple in them,
-- and otherwise they cannot be loaded at all.
theorem load_after_save (data : (Value.dict entries).isData true = true)
    (lines : format.FeedsLines (.dict entries))
    (keeps : (Value.dict entries).isData false = true → format.Keeps (.dict entries))
    (refuses : (Value.dict entries).isData true = true → (Value.dict entries).isData false = false →
      format.Refuses (.dict entries))
    (saved : saveSettings format (.dict entries) c = (.ok (), c')) :
    ((Value.dict entries).isData false = true →
      ∃ w, loadSettings format c' = (.ok w, c') ∧ w.equals (.dict entries) = true) ∧
    ((Value.dict entries).isData false = false →
      ∃ f, loadSettings format c' = (.error f, c')) :=
  ⟨fun plain => load_of_keeps lines (keeps plain) saved,
    fun mixed => load_of_refuses lines (refuses data mixed) saved⟩

def listed : List (Value × Value) :=
  [(.text "limits", .list [.int 1, .text "two words"])]

def coupled : List (Value × Value) :=
  [(.text "limits", .tuple [.int 1, .text "two words"])]

theorem yaml_listed :
    (Value.dict listed).isData true = true ∧ (Value.dict listed).isData false = true ∧
    FileFormat.yaml.write (.dict listed) = ((FileFormat.yaml.write (.dict listed)).1, none) ∧
    FileFormat.yaml.Keeps (.dict listed) :=
  ⟨by decide +kernel, by decide +kernel, FileFormat.write_eq_of_isNone (by decide +kernel),
    FileFormat.keeps_of_read (by decide +kernel)⟩

theorem yaml_coupled :
    (Value.dict coupled).isData true = true ∧ (Value.dict coupled).isData false = false ∧
    FileFormat.yaml.write (.dict coupled) = ((FileFormat.yaml.write (.dict coupled)).1, none) ∧
    FileFormat.yaml.Refuses (.dict coupled) :=
  ⟨by decide +kernel, by decide +kernel, FileFormat.write_eq_of_isNone (by decide +kernel),
    FileFormat.refuses_of_read (by decide +kernel)⟩

theorem writable_nested :
    (located "conf/settings.yaml" []).files.Writable (.ofText "conf/settings.yaml") where
  short := ⟨by decide, by decide⟩
  start := rfl
  file  := rfl
  apart := by decide
  free  := by decide

theorem writable_bare : (located "settings.yaml" []).files.Writable (.ofText "settings.yaml") where
  short := ⟨by decide, by decide⟩
  start := rfl
  file  := rfl
  apart := by decide
  free  := by decide

def housed : Configuration :=
  { located "conf/settings.yaml" [] with files := ⟨[], [[], ["conf"]], []⟩ }

theorem writable_housed : housed.files.Writable (.ofText "conf/settings.yaml") where
  short := ⟨by decide, by decide⟩
  start := rfl
  file  := rfl
  apart := by decide
  free  := by decide

theorem saved_housed (written : FileFormat.yaml.write v = ((FileFormat.yaml.write v).1, none)) :
    ∃ c', saveSettings .yaml v housed = (.ok (), c') := by
  have ⟨_, saved, _⟩ := saveSettings_of_writable written rfl
    (fun _ => Path.ne_empty_of_mem_ofText) writable_housed (by decide)
  exact ⟨_, saved⟩

theorem load_after_save_coupled :
    (∃ c c' w, saveSettings .yaml (.dict listed) c = (.ok (), c') ∧
      loadSettings .yaml c' = (.ok w, c') ∧ w.equals (.dict listed) = true) ∧
    ∃ c c' f, saveSettings .yaml (.dict coupled) c = (.ok (), c') ∧
      loadSettings .yaml c' = (.error f, c') := by
  constructor
  case left =>
    have ⟨data, plain, written, keeps⟩ := yaml_listed
    have ⟨c', saved⟩ := saved_housed written
    have ⟨same, _⟩ := load_after_save data (FileFormat.feedsLines_yaml _) (fun _ => keeps)
      (fun _ mixed => absurd (plain.symm.trans mixed) (by decide)) saved
    have ⟨w, loaded, equal⟩ := same plain
    exact ⟨_, c', w, saved, loaded, equal⟩
  case right =>
    have ⟨data, mixed, written, refuses⟩ := yaml_coupled
    have ⟨c', saved⟩ := saved_housed written
    have ⟨_, lost⟩ := load_after_save data (FileFormat.feedsLines_yaml _)
      (fun plain => absurd (plain.symm.trans mixed) (by decide)) (fun _ _ => refuses) saved
    have ⟨f, loaded⟩ := lost mixed
    exact ⟨_, c', f, saved, loaded⟩

theorem load_after_save_loses :
    ¬ ∀ (entries : List (Value × Value)) (c c' : Configuration) (path : Path),
      c.settingsPath = .ok path → c.files.isDirectory (c.files.target path.parent) = true →
      (∀ e ∈ entries, ∃ key, e.1 = .text key) → (Value.dict entries).isData true = true →
      saveSettings .yaml (.dict entries) c = (.ok (), c') →
      ∃ w, loadSettings .yaml c' = (.ok w, c') ∧ w.equals (.dict entries) = true := by
  intro claimed
  -- A tuple is written with a tag that no reader knows.
  have ⟨data, _, written, refuses⟩ := yaml_coupled
  have ⟨c', saved⟩ := saved_housed written
  have ⟨w, loaded, _⟩ :=
    claimed coupled housed c' _ rfl (by decide) (by simp [coupled]) data saved
  have ⟨f, lost⟩ := load_of_refuses (FileFormat.feedsLines_yaml _) refuses saved
  cases loaded.symm.trans lost

-- A mapping is saved where a variable says: the directories on the way are made, the file is
-- written, nothing else changes, and loading gives the mapping back. A file name without any
-- directory is refused.
theorem saveSettings_at_override (override : c.environment.get? overrideName = some text)
    (given : text.isEmpty = false) (writable : c.files.Writable (.ofText text))
    (written : format.write (.dict entries) = (content, none))
    (lines : format.FeedsLines (.dict entries)) (keeps : format.Keeps (.dict entries)) :
    ((Path.ofText text).parent.bareText ≠ "" →
      ∃ files w, saveSettings format (.dict entries) c = (.ok (), { c with files }) ∧
        (∀ d, files.isDirectory d = true ↔
          c.files.isDirectory d = true ∨ d ∈ c.files.passed (.ofText text)) ∧
        (∀ q, files.document? q =
          if q = c.files.target (.ofText text) then some content else c.files.document? q) ∧
        loadSettings format { c with files } = (.ok w, { c with files }) ∧
        w.equals (.dict entries) = true) ∧
    ((Path.ofText text).parent.bareText = "" →
      saveSettings format (.dict entries) c = (.error (Files.noEntry ""), c)) := by
  have place := settingsPath_of_override override given
  have named : ∀ step ∈ (Path.ofText text).parts, step ≠ "" := fun _ => Path.ne_empty_of_mem_ofText
  refine ⟨fun inside => ?inside, saveSettings_of_bare format _ place named⟩
  case inside =>
    have ⟨files, saved, directories, documents⟩ :=
      saveSettings_of_writable written place named writable inside
    have ⟨w, loaded, equal⟩ := load_of_keeps lines keeps saved
    exact ⟨files, w, saved, directories, documents, loaded, equal⟩

theorem saveSettings_at_override_located :
    (∃ c files w, saveSettings .yaml (.dict listed) c = (.ok (), { c with files }) ∧
      c.files.isDirectory ["conf"] = false ∧ files.isDirectory ["conf"] = true ∧
      loadSettings .yaml { c with files } = (.ok w, { c with files }) ∧
      w.equals (.dict listed) = true) ∧
    ∃ c, saveSettings .yaml (.dict listed) c = (.error (Files.noEntry ""), c) := by
  have ⟨_, _, written, keeps⟩ := yaml_listed
  constructor
  case left =>
    have ⟨stored, _⟩ := saveSettings_at_override (c := located "conf/settings.yaml" []) rfl rfl
      writable_nested written (FileFormat.feedsLines_yaml _) keeps
    have ⟨files, w, saved, directories, _, loaded, equal⟩ := stored (by decide)
    exact ⟨_, files, w, saved, rfl, (directories ["conf"]).mpr (.inr (by decide)), loaded, equal⟩
  case right =>
    have ⟨_, refused⟩ := saveSettings_at_override (c := located "settings.yaml" []) rfl rfl
      writable_bare written (FileFormat.feedsLines_yaml _) keeps
    exact ⟨_, refused rfl⟩

theorem saveSettings_at_override_fails :
    ¬ ∀ (text content : String) (entries : List (Value × Value)) (c : Configuration),
      c.environment.get? overrideName = some text → text.isEmpty = false →
      c.files.Writable (.ofText text) → FileFormat.yaml.write (.dict entries) = (content, none) →
      FileFormat.yaml.Keeps (.dict entries) →
      ∃ c', saveSettings .yaml (.dict entries) c = (.ok (), c') := by
  intro claimed
  have ⟨_, _, written, keeps⟩ := yaml_listed
  have ⟨c', saved⟩ := claimed "settings.yaml" _ listed (located "settings.yaml" []) rfl rfl
    writable_bare written keeps
  have refused := saveSettings_of_bare (c := located "settings.yaml" []) .yaml (.dict listed)
    (settingsPath_of_override rfl rfl) (fun _ => Path.ne_empty_of_mem_ofText) rfl
  cases saved.symm.trans refused

end Configuration

end BoundedWait
