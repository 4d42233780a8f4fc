import BoundedWait.Proofs.Config.EnvFiles
import BoundedWait.Proofs.Config.Snapshot

namespace BoundedWait

namespace Keyed

variable {κ α β : Type} [DecidableEq κ]

theorem map_assign (f : α → β) (entries : List (κ × α)) (key : κ) (value : α) :
    (assign entries key value).map (fun e => (e.1, f e.2)) =
      assign (entries.map fun e => (e.1, f e.2)) key (f value) := by
  induction entries
  case nil => rfl
  case cons e rest ih =>
    unfold assign
    by_cases same : e.1 = key
    case pos => simp [same]
    case neg => simp [same, ih]

end Keyed

namespace Variables

variable {vars vars' vars'' : Variables} {name : String}

-- Variables that have a value have the same one later on.
def KeptBy (vars vars' : Variables) : Prop :=
  ∀ name value, vars.get? name = some value → vars'.get? name = some value

theorem KeptBy.trans (h : vars.KeptBy vars') (h' : vars'.KeptBy vars'') : vars.KeptBy vars'' :=
  fun name value set => h' name value (h name value set)

theorem KeptBy.isSet (h : vars.KeptBy vars') (set : vars.isSet name = true) :
    vars'.isSet name = true := by
  have ⟨value, got⟩ := Option.isSome_iff_exists.mp set
  exact Option.isSome_iff_exists.mpr ⟨value, h name value got⟩

theorem isSet_of_get?_or {value : String}
    (h : vars'.get? name = (vars.get? name).or (some value)) : vars'.isSet name = true := by
  rw [isSet, h, Option.isSome_or, Option.isSome_some, Bool.or_true]

end Variables

namespace EnvFile

open Variables (KeptBy)

variable {vars vars' vars'' : Variables} {s name value : String}

-- The names that are bound, each with whether it has a value in the end.
def bound (bindings : List (String × Option String)) : List (String × Bool) :=
  bindings.foldl (fun soFar (name, value) => Keyed.assign soFar name value.isSome) []

theorem map_resolve (vars : Variables) (bindings : List (String × Option String)) :
    (resolve vars bindings).map (fun e => (e.1, e.2.isSome)) = bound bindings := by
  unfold resolve bound
  refine (List.foldl_hom (List.map fun e : String × Option String => (e.1, e.2.isSome)) ?_).symm
  intro soFar (name, value)
  rw [Keyed.map_assign Option.isSome, Option.isSome_map]

theorem mem_bound_iff {bindings : List (String × Option String)} :
    (name, true) ∈ bound bindings ↔ ∃ value, (name, some value) ∈ resolve vars bindings := by
  rw [← map_resolve vars, List.mem_map]
  constructor
  case mp =>
    intro ⟨(other, value?), mem, same⟩
    obtain ⟨rfl, some⟩ := Prod.mk.inj same
    obtain ⟨value, rfl⟩ := Option.isSome_iff_exists.mp some
    exact ⟨value, mem⟩
  case mpr => exact fun ⟨value, mem⟩ => ⟨_, mem, rfl⟩

theorem isSwitchedOff_of_keptBy (kept : vars.KeptBy vars') (off : isSwitchedOff vars = true) :
    isSwitchedOff vars' = true := by
  unfold isSwitchedOff at *
  split at off
  case h_1 word set =>
    rw [kept switchName word set]
    exact off
  case h_2          => cases off

-- Later on a text defines no more variables than before, even if their values are other ones.
theorem exists_mem_definitions (kept : vars.KeptBy vars')
    (mem : (name, some value) ∈ definitions vars' s) :
    ∃ value, (name, some value) ∈ definitions vars s := by
  unfold definitions at *
  split at mem
  case isTrue => cases mem
  case isFalse on =>
    rw [if_neg fun off => on (isSwitchedOff_of_keptBy kept off)]
    -- Which names have a value does not depend on the variables, only which value they have.
    exact mem_bound_iff.mp (mem_bound_iff.mpr ⟨value, mem⟩)

theorem definition?_of_mem (mem : (name, some value) ∈ definitions vars s) :
    definition? vars s name = some value := by
  rw [definition?, Keyed.get?_of_mem (nodup_definitions vars s) mem]
  rfl

def Settled (vars : Variables) (s : String) : Prop :=
  ∀ name value, (name, some value) ∈ definitions vars s → vars.isSet name = true

theorem offerAll_of_isSet {bindings : List (String × Option String)}
    (set : ∀ name value, (name, some value) ∈ bindings → vars.isSet name = true) :
    offerAll bindings vars = (.ok (), vars) := by
  induction bindings
  case nil => rfl
  case cons b rest ih =>
    have later := ih fun name value mem => set name value (.tail _ mem)
    rcases b with ⟨name, _ | value⟩
    case none => exact later
    case some =>
      have offered : Variables.offer name value vars = (.ok (), vars) :=
        if_pos (set name value (.head _))
      exact Act.bind_eq_ok_iff.mpr ⟨(), vars, offered, later⟩

theorem load_idle_iff : load s vars = (.ok (), vars) ↔ Settled vars s := by
  constructor
  case mp =>
    intro h name value mem
    exact Variables.isSet_of_get?_or (definition?_of_mem mem ▸ get?_of_load h name)
  case mpr =>
    intro settled
    rw [load_apply]
    exact offerAll_of_isSet settled

theorem settled_of_load (h : load s vars = (.ok (), vars')) (kept : vars'.KeptBy vars'') :
    Settled vars'' s := by
  intro name value mem
  have before : vars.KeptBy vars' := fun name value set => by rw [get?_of_load h, set]; rfl
  have ⟨value, mem⟩ := exists_mem_definitions (before.trans kept) mem
  exact kept.isSet (Variables.isSet_of_get?_or (definition?_of_mem mem ▸ get?_of_load h name))

end EnvFile

namespace Configuration

open Variables (KeptBy)

variable {format : FileFormat} {files : Files} {path : Path} {paths : List Path}
  {vars vars' vars'' : Variables} {c c₁ c₂ : Configuration} {v : Value}

-- A file can be read and has nothing left to set.
def Idle (files : Files) (path : Path) (vars : Variables) : Prop :=
  ∃ s, envText files path = .ok s ∧ EnvFile.Settled vars s

theorem loadEnvFile_idle_iff :
    loadEnvFile files path vars = (.ok (), vars) ↔ Idle files path vars := by
  unfold Idle
  rw [loadEnvFile_apply]
  rcases envText files path with f | s
  case error => simp
  case ok    => simp [EnvFile.load_idle_iff]

theorem idle_of_loadEnvFile (h : loadEnvFile files path vars = (.ok (), vars'))
    (kept : vars'.KeptBy vars'') : Idle files path vars'' := by
  rw [loadEnvFile_apply] at h
  split at h
  case h_1 s read => exact ⟨s, read, EnvFile.settled_of_load h kept⟩
  case h_2        => cases h

theorem keptBy_of_forM (h : (paths.forM (loadEnvFile files)) vars = (.ok (), vars')) :
    vars.KeptBy vars' := by
  intro name value set
  have kept : ((paths.forM (loadEnvFile files)) vars).2.get? name = some value :=
    get?_forM_of_isSet set
  rwa [h] at kept

theorem idle_of_forM (h : (paths.forM (loadEnvFile files)) vars = (.ok (), vars'))
    (kept : vars'.KeptBy vars'') : ∀ path ∈ paths, Idle files path vars'' := by
  induction paths generalizing vars
  case nil => exact fun _ mem => nomatch mem
  case cons path rest ih =>
    have ⟨_, _, first, others⟩ := Act.bind_eq_ok_iff.mp h
    rw [List.forall_mem_cons]
    -- What a file sets is kept by the files after it.
    exact ⟨idle_of_loadEnvFile first ((keptBy_of_forM others).trans kept), ih others⟩

theorem forM_idle_iff :
    (paths.forM (loadEnvFile files)) vars = (.ok (), vars) ↔
      ∀ path ∈ paths, Idle files path vars := by
  constructor
  case mp => exact fun h => idle_of_forM h fun _ _ set => set
  case mpr =>
    intro idle
    induction paths
    case nil => rfl
    case cons path rest ih =>
      rw [List.forall_mem_cons] at idle
      exact Act.bind_eq_ok_iff.mpr ⟨_, _, loadEnvFile_idle_iff.mpr idle.1, ih idle.2⟩

-- A reading of all files for the stage that is named at its start.
def pass (files : Files) : Act Variables Unit := fun vars =>
  ((envFiles ⟨"", []⟩ (stage vars)).forM (loadEnvFile files)) vars

theorem loadEnvFiles_eq_pass (c : Configuration) :
    loadEnvFiles ⟨"", []⟩ c =
      ((pass c.files c.environment).1,
        { c with environment := (pass c.files c.environment).2 }) := rfl

def Settled (files : Files) (vars : Variables) : Prop :=
  ∀ path ∈ envFiles ⟨"", []⟩ (stage vars), Idle files path vars

theorem pass_idle_iff : pass files vars = (.ok (), vars) ↔ Settled files vars :=
  forM_idle_iff

theorem settled_of_pass (h : pass files vars = (.ok (), vars'))
    (same : stage vars' = stage vars) : Settled files vars' := by
  unfold Settled
  rw [same]
  exact idle_of_forM h fun _ _ set => set

theorem stage_of_get? (h : vars'.get? "ENV" = vars.get? "ENV") : stage vars' = stage vars := by
  rw [stage, stage, h]

-- The first reading may change the stage, the second one does not. If there still is no stage by
-- then, it reads the same files as the first one.
theorem stage_of_passes (first : pass files vars = (.ok (), vars'))
    (second : pass files vars' = (.ok (), vars'')) : stage vars'' = stage vars' := by
  cases named : vars'.get? "ENV"
  case some name => exact stage_of_get? ((keptBy_of_forM second "ENV" name named).trans named.symm)
  case none =>
    have unnamed : vars.get? "ENV" = none := by
      cases before : vars.get? "ENV"
      case none      => rfl
      case some name => exact absurd (keptBy_of_forM first "ENV" name before) (by simp [named])
    have settled := settled_of_pass first (stage_of_get? (named.trans unnamed.symm))
    rw [pass_idle_iff.mpr settled] at second
    rw [(Prod.mk.inj second).2]

theorem finds_eq_ok_iff :
    finds format c = (.ok v, c₁) ↔
      ∃ vars, pass c.files c.environment = (.ok (), vars) ∧
        { c with environment := vars }.loaded format = .ok v ∧
        { c with environment := vars } = c₁ := by
  rw [finds, Act.bind_eq_ok_iff, loadEnvFiles_eq_pass]
  constructor
  case mp =>
    rintro ⟨_, _, set, read⟩
    obtain ⟨returned, rfl⟩ := Prod.mk.inj set
    obtain ⟨found, rfl⟩ := Prod.mk.inj read
    exact ⟨_, Prod.ext returned rfl, found, rfl⟩
  case mpr =>
    rintro ⟨vars, set, found, left⟩
    rw [set]
    exact ⟨_, _, rfl, Prod.ext found left⟩

def announced (v : Value) : Except Fault (List LogEntry) :=
  if v.truthy then do return [loadedEntry (← v.length)] else .ok []

theorem settings_of_found (unread : c.snapshot = none) (found : finds format c = (.ok v, c₁)) :
    settings format c =
      match announced v with
      | .ok entries => (.ok v, { c₁ with snapshot := some v, log := entries ++ c₁.log })
      | .error f    => (.error f, { c₁ with snapshot := some v }) := by
  rw [settings_of_forgotten format unread, found]
  unfold announced
  cases nonempty : v.truthy
  case false => simp [nonempty]
  case true =>
    cases measured : v.length
    all_goals simp [nonempty, measured, bind, Except.bind, pure, Except.pure]

theorem settings_eq_ok_iff (unread : c.snapshot = none) :
    settings format c = (.ok v, c₁) ↔
      ∃ vars entries, pass c.files c.environment = (.ok (), vars) ∧
        { c with environment := vars }.loaded format = .ok v ∧ announced v = .ok entries ∧
        { c with environment := vars, snapshot := some v, log := entries ++ c.log } = c₁ := by
  constructor
  case mp =>
    intro h
    rcases found : finds format c with ⟨f | w, c'⟩
    case error =>
      rw [settings_of_forgotten format unread, found] at h
      cases h
    case ok =>
      have ⟨vars, set, read, left⟩ := finds_eq_ok_iff.mp found
      rw [settings_of_found unread found] at h
      split at h <;> cases h
      case h_1 entries told =>
        subst left
        exact ⟨vars, entries, set, read, told, rfl⟩
  case mpr =>
    intro ⟨vars, entries, set, read, told, left⟩
    rw [settings_of_found unread (finds_eq_ok_iff.mpr ⟨vars, set, read, rfl⟩), told, ← left]

-- Neither the variables nor the lookup of any setting tell two configurations apart.
def Unchanged (format : FileFormat) (c c' : Configuration) : Prop :=
  c'.environment = c.environment ∧
    ∀ key absent, (get format key absent c').1 = (get format key absent c).1

end Configuration

def Request.remade (format : FileFormat) (request : Request) : Configuration.Action Unit := do
  Configuration.forget
  request.made format

namespace Configuration

variable {format : FileFormat} {c c₁ : Configuration} {v : Value}

theorem state_of_made (h : settings format c = (.ok v, c₁)) (request : Request) :
    (request.made format c).2 = c₁ := by
  have remembered := remembered_of_settings h
  rw [Request.made_of_settings_eq_ok h remembered, Request.leaves_of_snapshot remembered]

theorem unchanged_of_settled {entries : List LogEntry} (read : c.snapshot = some v)
    (loaded : c.loaded format = .ok v) (told : announced v = .ok entries)
    (settled : Settled c.files c.environment) (request : Request) :
    Unchanged format c (request.remade format c).2 := by
  have again : settings format { c with snapshot := none } =
      (.ok v, { c with snapshot := some v, log := entries ++ c.log }) :=
    (settings_eq_ok_iff rfl).mpr
      ⟨c.environment, entries, pass_idle_iff.mpr settled, loaded, told, rfl⟩
  have left : (request.remade format c).2 =
      { c with snapshot := some v, log := entries ++ c.log } := state_of_made again request
  rw [left]
  refine ⟨rfl, fun key absent => ?_⟩
  -- The two configurations differ in their logs only.
  rw [get_of_snapshot read, get_of_snapshot rfl]

-- Reading the configuration again changes nothing as long as no file for the stage has anything
-- left to set. So it is if the first reading has left the stage as it was, and after the second
-- one in any case.
theorem reload_settles (format : FileFormat) {c c₁ : Configuration} {v : Value}
    (unread : c.snapshot = none) (first : settings format c = (.ok v, c₁)) :
    (∀ request : Request, (request.made format c).2 = c₁) ∧
    (stage c₁.environment = stage c.environment → Settled c₁.files c₁.environment) ∧
    (Settled c₁.files c₁.environment →
      ∀ request : Request, Unchanged format c₁ (request.remade format c₁).2) ∧
    ∀ w c₂, settings format { c₁ with snapshot := none } = (.ok w, c₂) →
      (c₂.environment = c₁.environment → Settled c₁.files c₁.environment) ∧
      ∀ request : Request, Unchanged format c₂ (request.remade format c₂).2 := by
  have ⟨vars, entries, set, loaded, told, left⟩ := (settings_eq_ok_iff unread).mp first
  subst left
  refine ⟨state_of_made first, settled_of_pass set, unchanged_of_settled rfl loaded told, ?_⟩
  intro w c₂ second
  have ⟨vars', entries', set', loaded', told', left⟩ := (settings_eq_ok_iff rfl).mp second
  subst left
  have settled := settled_of_pass set' (stage_of_passes set set')
  refine ⟨fun same => ?_, unchanged_of_settled rfl loaded' told' settled⟩
  have same : vars' = vars := same
  rw [same] at set'
  exact pass_idle_iff.mp set'

theorem settings_layered : settings .yaml layered =
    (.ok (.dict []),
      { layered with environment := .set .empty "A" "1", snapshot := some (.dict []) }) := by
  have set : pass layered.files layered.environment = (.ok (), .set .empty "A" "1") := by
    have := loadEnvFiles_layered
    rw [loadEnvFiles_eq_pass] at this
    have ⟨returned, left⟩ := Prod.mk.inj this
    exact Prod.ext returned (congrArg environment left)
  exact (settings_eq_ok_iff rfl).mpr ⟨_, [], set, rfl, rfl, rfl⟩

theorem reload_settles_layered :
    ∃ c, settings .yaml layered = (.ok (.dict []), c) ∧
      Unchanged .yaml c ((Request.get "A" .null).remade .yaml c).2 := by
  have ⟨_, settled, unchanged, _⟩ := reload_settles .yaml rfl settings_layered
  exact ⟨_, settings_layered, unchanged (settled (by decide +kernel)) (.get "A" .null)⟩

def staged : Configuration where
  environment := .empty
  files       := ⟨[], [[]], [([".env"], "ENV=prod\n"), ([".env.prod"], "A=1\n")]⟩
  system      := "Linux"
  accountHome := "/"
  snapshot    := none
  log         := []

theorem loadEnvFile_staged : loadEnvFile staged.files ⟨"", [".env"]⟩ .empty =
    (.ok (), .set .empty "ENV" "prod") :=
  loadEnvFile_of_single (s := "ENV=prod\n") rfl (by decide +kernel) rfl
    (by simp [Variables.refusal?])

-- Only the stage is set at first, and the file for it has not been looked for by then.
theorem settings_staged : settings .yaml staged =
    (.ok (.dict []),
      { staged with environment := .set .empty "ENV" "prod", snapshot := some (.dict []) }) := by
  have paths : envFiles ⟨"", []⟩ (stage staged.environment) =
      [⟨"", [".env"]⟩, ⟨"", [".env.development"]⟩, ⟨"", [".env.development.local"]⟩] := by
    decide +kernel
  have set : pass staged.files staged.environment = (.ok (), .set .empty "ENV" "prod") := by
    rw [pass, paths]
    exact Act.bind_eq_ok_iff.mpr ⟨_, _, loadEnvFile_staged, rfl⟩
  exact (settings_eq_ok_iff rfl).mpr ⟨_, [], set, rfl, rfl, rfl⟩

theorem settings_staged_again :
    settings .yaml { staged with environment := .set .empty "ENV" "prod" } =
      (.ok (.dict []),
        { staged with
          environment := .set (.set .empty "ENV" "prod") "A" "1"
          snapshot := some (.dict []) }) := by
  have paths : envFiles ⟨"", []⟩ (stage (.set .empty "ENV" "prod")) =
      [⟨"", [".env"]⟩, ⟨"", [".env.prod"]⟩, ⟨"", [".env.prod.local"]⟩] := by
    decide +kernel
  have general : loadEnvFile staged.files ⟨"", [".env"]⟩ (.set .empty "ENV" "prod") =
      (.ok (), .set .empty "ENV" "prod") :=
    loadEnvFile_idle_iff.mpr (idle_of_loadEnvFile loadEnvFile_staged fun _ _ set => set)
  have special : loadEnvFile staged.files ⟨"", [".env.prod"]⟩ (.set .empty "ENV" "prod") =
      (.ok (), .set (.set .empty "ENV" "prod") "A" "1") :=
    loadEnvFile_of_single (s := "A=1\n") rfl (by decide +kernel) rfl (by simp [Variables.refusal?])
  have set : pass staged.files (.set .empty "ENV" "prod") =
      (.ok (), .set (.set .empty "ENV" "prod") "A" "1") := by
    rw [pass, paths]
    refine Act.bind_eq_ok_iff.mpr ⟨_, _, general, ?_⟩
    exact Act.bind_eq_ok_iff.mpr ⟨_, _, special, rfl⟩
  exact (settings_eq_ok_iff rfl).mpr ⟨_, [], set, rfl, rfl, rfl⟩

-- The file for the stage is found by the second reading alone.
theorem reload_strays :
    ¬ ∀ (c c₁ : Configuration) (v : Value) (request : Request), c.snapshot = none →
      settings .yaml c = (.ok v, c₁) → Unchanged .yaml c₁ (request.remade .yaml c₁).2 := by
  intro claimed
  have ⟨same, _⟩ := claimed staged _ _ .settings rfl settings_staged
  have left : ((Request.settings).remade .yaml
      { staged with environment := .set .empty "ENV" "prod", snapshot := some (.dict []) }).2 =
        _ := state_of_made settings_staged_again .settings
  rw [left] at same
  have absent := congrArg (Variables.get? · "A") same
  revert absent
  decide +kernel

end Configuration

end BoundedWait
