import BoundedWait.Config.Access

namespace BoundedWait

namespace Keyed

variable {κ α : Type} [DecidableEq κ]

theorem mem_keys_assign {entries : List (κ × α)} {key other : κ} {value : α}
    (h : other ∈ (assign entries key value).map (·.1)) :
    other = key ∨ other ∈ entries.map (·.1) := by
  induction entries
  case nil => simpa [assign] using h
  case cons e rest ih =>
    unfold assign at h
    split at h <;> simp only [List.map_cons, List.mem_cons] at h ⊢
    case isTrue same => exact h.imp_right .inr
    case isFalse     =>
      cases h
      case inl first => exact .inr (.inl first)
      case inr later => exact (ih later).imp_right .inr

theorem nodup_assign {entries : List (κ × α)} (h : (entries.map (·.1)).Nodup) (key : κ)
    (value : α) : ((assign entries key value).map (·.1)).Nodup := by
  induction entries
  case nil => simp [assign]
  case cons e rest ih =>
    rw [List.map_cons, List.nodup_cons] at h
    unfold assign
    split <;> rw [List.map_cons, List.nodup_cons]
    case isTrue same => exact ⟨same ▸ h.1, h.2⟩
    case isFalse other =>
      refine ⟨fun mem => ?_, ih h.2⟩
      cases mem_keys_assign mem
      case inl same  => exact other same
      case inr again => exact h.1 again

end Keyed

namespace Variables

variable {vars vars' : Variables} {name value : String}

theorem get?_of_offer (h : offer name value vars = (.ok (), vars')) (other : String) :
    vars'.get? other = (vars.get? other).or (if name = other then some value else none) := by
  unfold offer put at h
  split at h
  case isTrue set =>
    cases h
    split
    case isTrue same =>
      have ⟨v, got⟩ := Option.isSome_iff_exists.mp set
      rw [← same, got]
      rfl
    case isFalse => rw [Option.or_none]
  case isFalse unset =>
    split at h <;> cases h
    rw [get?_set]
    by_cases same : name = other
    case pos =>
      subst same
      simp [Option.not_isSome_iff_eq_none.mp unset]
    case neg => simp [same, Ne.symm same]

theorem offer_returns_iff :
    (∃ vars', offer name value vars = (.ok (), vars')) ↔
      vars.isSet name = true ∨ refusal? name value = none := by
  unfold offer put
  split
  case isTrue set   => simp [set]
  case isFalse unset => split <;> simp_all

theorem offer_of_not_isSet (unset : vars.isSet name = false)
    (allowed : refusal? name value = none) :
    offer name value vars = (.ok (), vars.set name value) := by
  simp [offer, put, unset, allowed]

end Variables

namespace EnvFile

variable {vars vars' : Variables} {bindings : List (String × Option String)}

-- What a text defines where the variables are as given. Each name stands there once, perhaps
-- without a value.
def definitions (vars : Variables) (s : String) : List (String × Option String) :=
  if isSwitchedOff vars then []
  else resolve vars (EnvFile.bindings (String.ofList (withoutMark s.toList)))

def definition? (vars : Variables) (s name : String) : Option String :=
  (Keyed.get? (definitions vars s) name).join

def Permitted (vars : Variables) (bindings : List (String × Option String)) : Prop :=
  ∀ name value, (name, some value) ∈ bindings →
    vars.isSet name = true ∨ Variables.refusal? name value = none

theorem load_apply (s : String) (vars : Variables) :
    load s vars = offerAll (definitions vars s) vars := by
  unfold load definitions
  split
  case isTrue  => rfl
  case isFalse => rfl

theorem nodup_definitions (vars : Variables) (s : String) :
    ((definitions vars s).map (·.1)).Nodup := by
  unfold definitions
  split
  case isTrue => exact .nil
  case isFalse =>
    unfold resolve
    refine List.foldlRecOn _ _
      (motive := fun soFar : List (String × Option String) => (soFar.map (·.1)).Nodup) ?none ?more
    case none => exact .nil
    case more => exact fun soFar once line _ => Keyed.nodup_assign once _ _

theorem get?_of_offerAll (once : (bindings.map (·.1)).Nodup)
    (h : offerAll bindings vars = (.ok (), vars')) (name : String) :
    vars'.get? name = (vars.get? name).or (Keyed.get? bindings name).join := by
  induction bindings generalizing vars
  case nil =>
    cases h
    simp
  case cons b rest ih =>
    obtain ⟨other, value⟩ := b
    rw [List.map_cons, List.nodup_cons] at once
    rw [Keyed.get?_cons]
    cases value
    case none =>
      rw [ih once.2 h]
      split
      case isTrue same => simp [Keyed.get?_eq_none_of_not_mem (same ▸ once.1)]
      case isFalse     => rfl
    case some v =>
      obtain ⟨_, _, offered, rest⟩ := Act.bind_eq_ok_iff.mp h
      -- What is set by now is not set again, and the name does not come back later.
      rw [ih once.2 rest, Variables.get?_of_offer offered]
      split
      case isTrue same => simp [Keyed.get?_eq_none_of_not_mem (same ▸ once.1)]
      case isFalse     => simp

theorem permitted_cons_none {name : String} :
    Permitted vars ((name, none) :: bindings) ↔ Permitted vars bindings := by
  simp [Permitted]

theorem permitted_cons_some {name value : String} (once : name ∉ bindings.map (·.1))
    (h : Variables.offer name value vars = (.ok (), vars')) :
    Permitted vars ((name, some value) :: bindings) ↔ Permitted vars' bindings := by
  -- Nothing but the name that was offered is set, and it is not among the others.
  have later (other v : String) (mem : (other, some v) ∈ bindings) :
      vars'.isSet other = vars.isSet other := by
    have ne : name ≠ other := fun same => once (same ▸ List.mem_map_of_mem mem)
    rw [Variables.isSet, Variables.get?_of_offer h, if_neg ne, Option.or_none, Variables.isSet]
  constructor
  case mp =>
    intro all other v mem
    rw [later other v mem]
    exact all other v (.tail _ mem)
  case mpr =>
    intro rest other v mem
    cases mem
    case head     => exact Variables.offer_returns_iff.mp ⟨vars', h⟩
    case tail mem =>
      rw [← later other v mem]
      exact rest other v mem

theorem offerAll_returns_iff (once : (bindings.map (·.1)).Nodup) :
    (∃ vars', offerAll bindings vars = (.ok (), vars')) ↔ Permitted vars bindings := by
  induction bindings generalizing vars
  case nil => simp [offerAll, Permitted]
  case cons b rest ih =>
    obtain ⟨name, value⟩ := b
    rw [List.map_cons, List.nodup_cons] at once
    cases value
    case none => exact (ih once.2).trans permitted_cons_none.symm
    case some v =>
      constructor
      case mp =>
        rintro ⟨last, offered⟩
        obtain ⟨_, _, first, others⟩ := Act.bind_eq_ok_iff.mp offered
        exact (permitted_cons_some once.1 first).mpr ((ih once.2).mp ⟨last, others⟩)
      case mpr =>
        intro all
        obtain ⟨_, first⟩ := Variables.offer_returns_iff.mpr (all name v (.head _))
        obtain ⟨last, others⟩ := (ih once.2).mpr ((permitted_cons_some once.1 first).mp all)
        exact ⟨last, Act.bind_eq_ok_iff.mpr ⟨_, _, first, others⟩⟩

theorem get?_of_load {s : String} (h : load s vars = (.ok (), vars')) (name : String) :
    vars'.get? name = (vars.get? name).or (definition? vars s name) :=
  get?_of_offerAll (nodup_definitions vars s) (load_apply s vars ▸ h) name

theorem load_returns_iff {s : String} :
    (∃ vars', load s vars = (.ok (), vars')) ↔ Permitted vars (definitions vars s) := by
  simp only [load_apply]
  exact offerAll_returns_iff (nodup_definitions vars s)

end EnvFile

namespace Configuration

variable {files : Files} {path : Path} {paths : List Path} {vars vars' : Variables}

def envText (files : Files) (path : Path) : Except Fault String := do
  if (← files.checkExists path) && files.isFile path then files.read path else return ""

def definition? (files : Files) (path : Path) (vars : Variables) (name : String) : Option String :=
  match envText files path with
  | .ok s    => EnvFile.definition? vars s name
  | .error _ => none

def Loads (files : Files) (path : Path) (vars : Variables) : Prop :=
  ∃ s, envText files path = .ok s ∧ EnvFile.Permitted vars (EnvFile.definitions vars s)

-- The files of a list with the variables as each of them finds them.
def turns (files : Files) : List Path → Variables → List (Path × Variables)
  | [], _              => []
  | path :: rest, vars => (path, vars) :: turns files rest (loadEnvFile files path vars).2

-- The value that the first of some files has for a variable that defines it at its turn.
def firstDefinition? (files : Files) (paths : List Path) (vars : Variables) (name : String) :
    Option String :=
  (turns files paths vars).findSome? fun turn => definition? files turn.1 turn.2 name

theorem firstDefinition?_cons (files : Files) (path : Path) (rest : List Path) (vars : Variables)
    (name : String) :
    firstDefinition? files (path :: rest) vars name = (definition? files path vars name).or
      (firstDefinition? files rest (loadEnvFile files path vars).2 name) := by
  unfold firstDefinition?
  rw [turns, List.findSome?_cons]
  cases definition? files path vars name <;> rfl

theorem load_empty (vars : Variables) : EnvFile.load "" vars = (.ok (), vars) := by
  rw [EnvFile.load_apply]
  unfold EnvFile.definitions
  split
  case isTrue  => rfl
  case isFalse => rfl

theorem loadEnvFile_apply (files : Files) (path : Path) (vars : Variables) :
    loadEnvFile files path vars =
      match envText files path with
      | .ok s    => EnvFile.load s vars
      | .error f => (.error f, vars) := by
  unfold loadEnvFile envText
  rw [Act.bind_apply, Act.of_apply]
  rcases files.checkExists path with f | there
  case error => rfl
  case ok =>
    simp only [bind, Except.bind]
    split
    case isTrue =>
      show (Act.of (files.read path) >>= EnvFile.load) vars = _
      rw [Act.bind_apply, Act.of_apply]
      cases files.read path <;> rfl
    case isFalse => exact (load_empty vars).symm

theorem loadEnvFile_of_single {s name value : String} (said : envText files path = .ok s)
    (defined : EnvFile.definitions vars s = [(name, some value)])
    (unset : vars.isSet name = false) (allowed : Variables.refusal? name value = none) :
    loadEnvFile files path vars = (.ok (), vars.set name value) := by
  simp only [loadEnvFile_apply, said, EnvFile.load_apply, defined, EnvFile.offerAll]
  rw [Act.bind_apply, Variables.offer_of_not_isSet unset allowed]
  rfl

theorem get?_of_loadEnvFile (h : loadEnvFile files path vars = (.ok (), vars')) (name : String) :
    vars'.get? name = (vars.get? name).or (definition? files path vars name) := by
  rw [loadEnvFile_apply] at h
  unfold definition?
  split at h
  case h_1 s read => exact EnvFile.get?_of_load h name
  case h_2        => cases h

theorem loadEnvFile_returns_iff :
    (∃ vars', loadEnvFile files path vars = (.ok (), vars')) ↔ Loads files path vars := by
  unfold Loads
  rw [loadEnvFile_apply]
  rcases envText files path with f | s
  case error => simp
  case ok    => simp [EnvFile.load_returns_iff]

theorem get?_forM_of_isSet {name value : String} (h : vars.get? name = some value) :
    ((paths.forM (loadEnvFile files)) vars).2.get? name = some value := by
  induction paths generalizing vars
  case nil => exact h
  case cons path rest ih =>
    have kept : (loadEnvFile files path vars).2.get? name = some value := by
      rw [loadEnvFile_apply]
      split
      case h_1 s read => exact EnvFile.get?_load_of_isSet s h
      case h_2        => exact h
    show ((do loadEnvFile files path; rest.forM (loadEnvFile files)) vars).2.get? name = some value
    rw [Act.bind_apply]
    rcases made : loadEnvFile files path vars with ⟨f | _, vars'⟩
    all_goals rw [made] at kept
    case error => exact kept
    case ok    => exact ih kept

theorem get?_of_forM (h : (paths.forM (loadEnvFile files)) vars = (.ok (), vars'))
    (name : String) :
    vars'.get? name = (vars.get? name).or (firstDefinition? files paths vars name) := by
  induction paths generalizing vars
  case nil =>
    cases h
    simp [firstDefinition?, turns]
  case cons path rest ih =>
    have ⟨_, _, first, others⟩ := Act.bind_eq_ok_iff.mp h
    rw [ih others, get?_of_loadEnvFile first, Option.or_assoc, firstDefinition?_cons, first]

theorem forM_returns_iff :
    (∃ vars', (paths.forM (loadEnvFile files)) vars = (.ok (), vars')) ↔
      ∀ turn ∈ turns files paths vars, Loads files turn.1 turn.2 := by
  induction paths generalizing vars
  case nil => exact iff_of_true ⟨vars, rfl⟩ fun _ mem => nomatch mem
  case cons path rest ih =>
    rw [turns, List.forall_mem_cons, ← loadEnvFile_returns_iff, ← ih]
    constructor
    case mp =>
      intro ⟨last, h⟩
      have ⟨_, _, first, others⟩ := Act.bind_eq_ok_iff.mp h
      exact ⟨⟨_, first⟩, ⟨last, first ▸ others⟩⟩
    case mpr =>
      intro ⟨⟨_, first⟩, ⟨last, others⟩⟩
      rw [first] at others
      exact ⟨last, Act.bind_eq_ok_iff.mpr ⟨_, _, first, others⟩⟩

def envPaths (base : Path) (c : Configuration) : List Path :=
  envFiles base (stage c.environment)

theorem loadEnvFiles_apply (base : Path) (c : Configuration) :
    loadEnvFiles base c =
      let run := ((envPaths base c).forM (loadEnvFile c.files)) c.environment
      (run.1, { c with environment := run.2 }) := rfl

-- The variables that were set before keep their values, whatever becomes of the files. Each of the
-- others gets its value from the first file that defines it.
theorem loadEnvFiles_prefers_first (base : Path) (c : Configuration) :
    (∀ name value, c.environment.get? name = some value →
      (loadEnvFiles base c).2.environment.get? name = some value) ∧
    ((∃ c', loadEnvFiles base c = (.ok (), c')) ↔
      ∀ turn ∈ turns c.files (envPaths base c) c.environment, Loads c.files turn.1 turn.2) ∧
    (∀ c', loadEnvFiles base c = (.ok (), c') →
      c' = { c with environment := c'.environment } ∧
      ∀ name, c'.environment.get? name = (c.environment.get? name).or
        (firstDefinition? c.files (envPaths base c) c.environment name)) := by
  rw [← forM_returns_iff]
  simp only [loadEnvFiles_apply]
  refine ⟨fun name value h => get?_forM_of_isSet h, ?returns, ?sets⟩
  case returns =>
    constructor
    case mp  => exact fun ⟨c', h⟩ => ⟨_, Prod.ext (Prod.mk.inj h).1 rfl⟩
    case mpr => exact fun ⟨vars, h⟩ => ⟨{ c with environment := vars }, by rw [h]⟩
  case sets =>
    intro c' h
    have ⟨returned, left⟩ := Prod.mk.inj h
    cases left
    exact ⟨rfl, get?_of_forM (Prod.ext returned rfl)⟩

def layered : Configuration where
  environment := .empty
  files       := ⟨[], [[]], [([".env"], "A=1\n"), ([".env.development"], "A=2\n")]⟩
  system      := "Linux"
  accountHome := "/"
  snapshot    := none
  log         := []

theorem envPaths_layered : envPaths ⟨"", []⟩ layered =
    [⟨"", [".env"]⟩, ⟨"", [".env.development"]⟩, ⟨"", [".env.development.local"]⟩] := by
  decide +kernel

theorem loadEnvFile_general : loadEnvFile layered.files ⟨"", [".env"]⟩ layered.environment =
    (.ok (), .set .empty "A" "1") :=
  loadEnvFile_of_single (s := "A=1\n") rfl (by decide +kernel) rfl (by simp [Variables.refusal?])

theorem loadEnvFile_special :
    loadEnvFile layered.files ⟨"", [".env.development"]⟩ (.set .empty "A" "1") =
      (.ok (), .set .empty "A" "1") := by
  have said : envText layered.files ⟨"", [".env.development"]⟩ = .ok "A=2\n" := rfl
  have defined : EnvFile.definitions (.set .empty "A" "1") "A=2\n" = [("A", some "2")] := by
    decide +kernel
  simp only [loadEnvFile_apply, said, EnvFile.load_apply, defined, EnvFile.offerAll]
  rfl

theorem loadEnvFiles_layered : loadEnvFiles ⟨"", []⟩ layered =
    (.ok (), { layered with environment := .set .empty "A" "1" }) := by
  have run : ((envPaths ⟨"", []⟩ layered).forM (loadEnvFile layered.files)) layered.environment =
      (.ok (), .set .empty "A" "1") := by
    rw [envPaths_layered]
    refine Act.bind_eq_ok_iff.mpr ⟨_, _, loadEnvFile_general, ?_⟩
    exact Act.bind_eq_ok_iff.mpr ⟨_, _, loadEnvFile_special, rfl⟩
  rw [loadEnvFiles_apply, run]

theorem loadEnvFiles_prefers_first_layered :
    loadEnvFiles ⟨"", []⟩ layered =
      (.ok (), { layered with environment := .set .empty "A" "1" }) ∧
    (Variables.set .empty "A" "1").get? "A" = some "1" := by
  have ⟨_, _, sets⟩ := loadEnvFiles_prefers_first ⟨"", []⟩ layered
  refine ⟨loadEnvFiles_layered, ((sets _ loadEnvFiles_layered).2 "A").trans ?_⟩
  decide +kernel

-- Were it the last file that counted, the variable would have the value of the special one.
theorem loadEnvFiles_ignores_special :
    ¬ ∀ (base : Path) (c c' : Configuration) (name value : String),
      loadEnvFiles base c = (.ok (), c') → c.environment.get? name = none →
      (turns c.files (envPaths base c) c.environment).reverse.findSome?
        (fun turn => definition? c.files turn.1 turn.2 name) = some value →
      c'.environment.get? name = some value := by
  intro claimed
  have last :
      (turns layered.files (envPaths ⟨"", []⟩ layered) layered.environment).reverse.findSome?
        (fun turn => definition? layered.files turn.1 turn.2 "A") = some "2" := by
    simp only [envPaths_layered, turns, loadEnvFile_general, loadEnvFile_special]
    decide +kernel
  have other := claimed ⟨"", []⟩ layered _ "A" "2" loadEnvFiles_layered rfl last
  exact absurd other (by decide +kernel)

end Configuration

end BoundedWait
