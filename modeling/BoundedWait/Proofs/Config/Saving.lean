import BoundedWait.Config.Storage
import BoundedWait.Proofs.Config.Directories

namespace BoundedWait

namespace Files

variable {f : Files} {p : Place} {path : Path} {text : String}

theorem withLineFeeds_of_not_mem {cs : List Char} (h : '\r' ∉ cs) : withLineFeeds cs = cs := by
  fun_induction withLineFeeds cs
  case case1 => simp at h
  case case2 => simp at h
  case case3 ih => rw [ih (fun mem => h (List.mem_cons_of_mem _ mem))]
  case case4 => rfl

theorem lineFed_of_not_mem (h : '\r' ∉ text.toList) : lineFed text = text := by
  rw [lineFed, withLineFeeds_of_not_mem h, String.ofList_toList]

theorem locate_store (text : String) (h : f.locate path = .ok p) :
    (f.store p text).locate path = .ok p := by
  rw [locate_eq_ok_iff] at h ⊢
  exact h

theorem checkExists_store (text : String) (h : f.locate path = .ok p) :
    (f.store p text).checkExists path = .ok true := by
  simp [checkExists, locate_store text h, hasEntry, document?_store]

theorem read_store (text : String) (h : f.writable path = .ok p) :
    (f.store p text).read path = .ok (lineFed text) := by
  have ⟨located, file⟩ := writable_eq_ok_iff.mp h
  have kept : (f.store p text).isDirectory p = false := file
  rw [read, find_eq_ok_iff.mpr (locate_store text located)]
  simp [bind, Except.bind, kept, document?_store]
  rfl

theorem walk_ne_nameTooLong {steps : List String}
    (short : ∀ step ∈ steps, step.utf8ByteSize ≤ longestName) :
    f.walk p steps ≠ .error .nameTooLong := by
  induction steps generalizing p
  case nil => simp [walk]
  case cons step steps ih =>
    rw [List.forall_mem_cons] at short
    rw [walk, if_neg (Nat.not_lt.mpr short.1)]
    split
    case isTrue  => exact ih short.2
    case isFalse => split <;> simp

theorem checkExists_of_missing (short : path.IsShort)
    (missing : ∃ d ∈ f.passed path, f.isDirectory d = false) : f.checkExists path = .ok false := by
  have ⟨d, mem, absent⟩ := missing
  have closed (q : Place) : f.locate path ≠ .ok q := by
    intro located
    have there := (locate_eq_ok_iff.mp located).2.1 d mem
    exact absurd (there.symm.trans absent) (by decide)
  have legible : f.locate path ≠ .error .nameTooLong := by
    rw [locate, if_neg (Nat.not_lt.mpr short.whole)]
    exact walk_ne_nameTooLong short.steps
  rw [checkExists]
  split
  case h_1 located => exact absurd located (closed _)
  case h_2 located => exact absurd located legible
  case h_3         => rfl

end Files

namespace Configuration

variable {format : FileFormat} {v : Value} {c c' : Configuration} {path : Path} {files : Files}
  {p : Place} {f : Fault} {r : Except Fault Unit}

def ended : Option Fault → Except Fault Unit
  | some f => .error f
  | none   => .ok ()

inductive Saved (format : FileFormat) (v : Value) (c : Configuration) :
    Except Fault Unit → Configuration → Prop
  | homeless {f : Fault} (place : c.settingsPath = .error f) : Saved format v c (.error f) c
  | unmade {path : Path} {files : Files} {f : Fault} (place : c.settingsPath = .ok path)
    (made : Files.make path.parent c.files = (.error f, files)) :
    Saved format v c (.error f) { c with files }
  | unopened {path : Path} {files : Files} {f : Fault} (place : c.settingsPath = .ok path)
    (made : Files.make path.parent c.files = (.ok (), files))
    (opened : files.writable path = .error f) : Saved format v c (.error f) { c with files }
  | written {path : Path} {files : Files} {p : Place} (place : c.settingsPath = .ok path)
    (made : Files.make path.parent c.files = (.ok (), files))
    (opened : files.writable path = .ok p) :
    Saved format v c (ended (format.write v).2)
      { c with files := files.store p (format.write v).1 }

theorem saveSettings_eq (format : FileFormat) (v : Value) (c : Configuration) :
    saveSettings format v c =
      match c.settingsPath with
      | .error f => (.error f, c)
      | .ok path =>
        match Files.make path.parent c.files with
        | (.error f, files) => (.error f, { c with files })
        | (.ok _, files)    =>
          match files.writable path with
          | .error f => (.error f, { c with files })
          | .ok p    =>
            (ended (format.write v).2, { c with files := files.store p (format.write v).1 }) := by
  simp only [saveSettings, Act.bind_apply, Act.get, Act.of_apply, onFiles]
  cases c.settingsPath
  case error => rfl
  case ok path =>
    dsimp only
    rcases Files.make path.parent c.files with ⟨_ | _, files⟩
    case error => rfl
    case ok =>
      dsimp only [Files.write]
      cases files.writable path
      case error => rfl
      case ok p =>
        show (match (format.write v).2 with
          | some f => Act.raise f
          | none   => pure ()) { c with files := files.store p (format.write v).1 } = _
        cases (format.write v).2
        all_goals rfl

theorem saved (h : saveSettings format v c = (r, c')) : Saved format v c r c' := by
  rw [saveSettings_eq] at h
  split at h
  case h_1 place => cases h; exact .homeless place
  case h_2 place =>
    split at h
    case h_1 made => cases h; exact .unmade place made
    case h_2 made =>
      split at h
      case h_1 opened => cases h; exact .unopened place made opened
      case h_2 opened => cases h; exact .written place made opened

theorem loaded_of_store (format : FileFormat) (text : String) (place : c.settingsPath = .ok path)
    (opened : files.writable path = .ok p) :
    { c with files := files.store p text }.loaded format =
      settingsOf <$> format.read (Files.lineFed text) := by
  have located := (Files.writable_eq_ok_iff.mp opened).1
  have same : { c with files := files.store p text }.settingsPath = .ok path := place
  rw [loaded, same]
  simp only [bind, Except.bind, Files.checkExists_store text located, Files.read_store text opened]
  rfl

theorem loaded_of_missing (format : FileFormat) (place : c.settingsPath = .ok path)
    (missing : c.files.checkExists path = .ok false) : c.loaded format = .ok (.dict []) := by
  rw [loaded, place]
  simp only [bind, Except.bind, missing]
  rfl

theorem loaded_congr (format : FileFormat) (same : files = c.files) :
    { c with files }.loaded format = c.loaded format := by
  rw [same]

theorem loaded_of_pathExists (format : FileFormat) (there : c.files.pathExists path = true)
    (made : Files.make path.parent c.files = (r, files)) :
    { c with files }.loaded format = c.loaded format := by
  have same := Files.make_of_pathExists (Files.pathExists_parent there)
  rw [made] at same
  exact loaded_congr format same

theorem loaded_of_unmade (format : FileFormat) (place : c.settingsPath = .ok path)
    (made : Files.make path.parent c.files = (.error f, files))
    (proper : c.files.pathExists path = true ∨ c.files.Aims path) :
    { c with files }.loaded format = c.loaded format := by
  rcases proper with there | aims
  case inl => exact loaded_of_pathExists format there made
  case inr =>
    have added := Files.make_extends made
    rcases Files.make_missing (Files.isShort_parent aims.short) made with ⟨_, same⟩ | missing
    case inl => exact loaded_congr format same
    case inr =>
      rw [added.lineage, Files.lineage_parent aims.parts_ne_nil] at missing
      -- What could not be made is lacking afterwards, so it was lacking before: there were no
      -- settings then, and there are none now.
      have ⟨d, mem, absent⟩ := missing
      have before : c.files.isDirectory d = false :=
        Bool.eq_false_iff.mpr fun there => by simp [added.keeps d there] at absent
      rw [loaded_of_missing format place
        (Files.checkExists_of_missing aims.short ⟨d, mem, before⟩)]
      exact loaded_of_missing format place
        (Files.checkExists_of_missing aims.short (by rw [added.passed]; exact missing))

theorem loaded_of_unopened (format : FileFormat)
    (made : Files.make path.parent c.files = (.ok (), files))
    (opened : files.writable path = .error f)
    (proper : c.files.pathExists path = true ∨ c.files.Aims path) :
    { c with files }.loaded format = c.loaded format := by
  rcases proper with there | aims
  case inl => exact loaded_of_pathExists format there made
  case inr =>
    have added := Files.make_extends made
    have dirs := Files.isDirectory_of_make made
    have lineage := Files.lineage_parent (f := c.files) aims.parts_ne_nil
    rw [added.lineage, lineage] at dirs
    rw [lineage] at added
    -- In directories that were just made, a path that a file can have is writable.
    have writable := Files.writable_eq_ok_iff.mpr
      ⟨Files.locate_eq_ok_iff.mpr ⟨aims.short, by rw [added.passed]; exact dirs, added.target path⟩,
        aims.isDirectory_target added⟩
    cases writable.symm.trans opened

-- A failure before the file is open leaves all files as they are, and loading does what it did; for
-- that, something has to be there, or the path has to be one that a file can have. A failure in
-- writing leaves what was written by then, and nothing else changes.
theorem saveSettings_failure (h : saveSettings format v c = (.error f, c')) :
    c' = { c with files := c'.files } ∧
    ((c'.files.documents = c.files.documents ∧
      ((∀ path, c.settingsPath = .ok path →
          c.files.pathExists path = true ∨ c.files.Aims path) →
        (loadSettings format c').1 = (loadSettings format c).1)) ∨
    ∃ path p text, c.settingsPath = .ok path ∧ c'.files.locate path = .ok p ∧
      format.write v = (text, some f) ∧
      (∀ q, c'.files.document? q = if q = p then some text else c.files.document? q) ∧
      (loadSettings format c').1 = settingsOf <$> format.read (Files.lineFed text)) := by
  generalize failed : Except.error f = r at h
  cases saved h
  case homeless => exact ⟨rfl, .inl ⟨rfl, fun _ => rfl⟩⟩
  case unmade path files g place made =>
    exact ⟨rfl, .inl ⟨(Files.make_extends made).documents, fun proper =>
      loaded_of_unmade format place made (proper path place)⟩⟩
  case unopened path files g place made opened =>
    exact ⟨rfl, .inl ⟨(Files.make_extends made).documents, fun proper =>
      loaded_of_unopened format made opened (proper path place)⟩⟩
  case written path files p place made opened =>
    refine ⟨rfl, .inr ⟨path, p, (format.write v).1, place, ?_, ?_, fun q => ?_, ?_⟩⟩
    case refine_1 => exact Files.locate_store _ (Files.writable_eq_ok_iff.mp opened).1
    case refine_2 =>
      cases stopped : (format.write v).2
      case none =>
        rw [stopped] at failed
        cases failed
      case some =>
        rw [stopped] at failed
        cases failed
        exact Prod.ext rfl stopped
    case refine_3 => rw [Files.document?_store, (Files.make_extends made).document?]
    case refine_4 => exact loaded_of_store format _ place opened

-- Nothing but the root directory and some files, and a variable that says where the settings are.
def located (location : String) (documents : List (Place × String)) : Configuration where
  environment := .set .empty overrideName location
  files       := ⟨[], [[]], documents⟩
  system      := "Linux"
  accountHome := "/"
  snapshot    := none
  log         := []

def occupied (location content : String) : Configuration :=
  located location [(["settings.yaml"], content)]

def unwritable : Value :=
  .dict [(.text "B", .source (.invoking (.direct (.int 1)) (.mk (.member "bit_length") [] [] [])))]

theorem saved_unwritable : ∃ f, saveSettings .yaml unwritable (occupied "/settings.yaml" "A: 1") =
    (.error f, occupied "/settings.yaml" "") := by
  have nothing : (FileFormat.yaml.write unwritable).1 = "" := by decide +kernel
  have refused : (FileFormat.yaml.write unwritable).2.isSome = true := by decide +kernel
  have ⟨f, stopped⟩ := Option.isSome_iff_exists.mp refused
  have written : FileFormat.yaml.write unwritable = ("", some f) := Prod.ext nothing stopped
  exact ⟨f, by rw [saveSettings_eq, written]; rfl⟩

theorem saveSettings_failure_unwritable :
    (∃ f c', saveSettings .yaml (.dict []) (occupied "settings.yaml" "A: 1") = (.error f, c') ∧
      (loadSettings .yaml c').1 = (loadSettings .yaml (occupied "settings.yaml" "A: 1")).1) ∧
    ∃ f c' text, saveSettings .yaml unwritable (occupied "/settings.yaml" "A: 1") =
        (.error f, c') ∧
      FileFormat.yaml.write unwritable = (text, some f) ∧
      c'.files.document? ["settings.yaml"] = some text := by
  constructor
  case left =>
    have raised : saveSettings .yaml (.dict []) (occupied "settings.yaml" "A: 1") =
        (.error (Files.noEntry ""), occupied "settings.yaml" "A: 1") := by
      rw [saveSettings_eq]
      rfl
    rcases (saveSettings_failure raised).2 with ⟨_, same⟩ | ⟨_, _, text, _, _, stopped, _⟩
    case inl =>
      refine ⟨_, _, raised, same fun path place => .inl ?_⟩
      cases place
      rfl
    case inr =>
      have written : (FileFormat.yaml.write (.dict [])).2.isNone = true := by decide +kernel
      rw [stopped] at written
      cases written
  case right =>
    have ⟨f, raised⟩ := saved_unwritable
    rcases (saveSettings_failure raised).2 with
      ⟨kept, _⟩ | ⟨_, _, text, place, reached, stopped, changed, _⟩
    case inl => exact absurd kept (by decide)
    case inr =>
      cases place
      cases reached
      exact ⟨f, _, text, raised, stopped, changed _⟩

theorem saveSettings_empties :
    ¬ ∀ (v : Value) (c c' : Configuration) (f : Fault),
      saveSettings .yaml v c = (.error f, c') →
      (∀ path, c.settingsPath = .ok path → c'.files.read path = c.files.read path) ∧
      (loadSettings .yaml c').1 = (loadSettings .yaml c).1 := by
  intro claimed
  have ⟨f, raised⟩ := saved_unwritable
  have same : Except.ok "" = Except.ok "A: 1" :=
    (claimed _ _ _ f raised).1 (.ofText "/settings.yaml") rfl
  exact absurd (Except.ok.inj same) (by decide)

end Configuration

end BoundedWait
