import BoundedWait.Proofs.Config.Reload
import Mathlib.Data.List.Basic

namespace BoundedWait

namespace Variables

variable {α β : Type} {vars : Variables} {names : List String} {name value other : String}

def without (vars : Variables) (names : List String) : Variables :=
  names.foldl unset vars

def Blank (vars : Variables) (names : List String) : Prop :=
  ∀ name ∈ names, vars.get? name = some ""

theorem without_cons (vars : Variables) (name : String) (names : List String) :
    vars.without (name :: names) = (vars.unset name).without names := rfl

theorem get?_without (vars : Variables) (names : List String) (name : String) :
    (vars.without names).get? name = if name ∈ names then none else vars.get? name := by
  induction names generalizing vars
  case nil => simp [without]
  case cons other rest ih =>
    rw [without_cons, ih, get?_unset]
    by_cases first : name = other
    case pos => simp [first]
    case neg => simp [first]

theorem get?_without_of_mem (mem : name ∈ names) : (vars.without names).get? name = none := by
  rw [get?_without, if_pos mem]

theorem get?_without_of_not_mem (kept : name ∉ names) :
    (vars.without names).get? name = vars.get? name := by
  rw [get?_without, if_neg kept]

theorem unset_set (vars : Variables) (ne : name ≠ other) (value : String) :
    (vars.set name value).unset other = (vars.unset other).set name value := by
  simp [unset, set, Keyed.erase, Keyed.put, List.filter_filter, ne, Bool.and_comm]

theorem without_set (vars : Variables) (kept : name ∉ names) (value : String) :
    (vars.set name value).without names = (vars.without names).set name value := by
  induction names generalizing vars
  case nil => rfl
  case cons other rest ih =>
    rw [List.mem_cons, not_or] at kept
    rw [without_cons, without_cons, unset_set vars kept.1, ih _ kept.2]

-- A computation does to the other variables what it does without the blank ones, and leaves these
-- as they are.
def Oblivious (names : List String) (a : Act Variables α) : Prop :=
  ∀ vars, vars.Blank names →
    a (vars.without names) = ((a vars).1, (a vars).2.without names) ∧ (a vars).2.Blank names

namespace Oblivious

theorem of (r : Except Fault α) : Oblivious names (.of r) :=
  fun _ blank => ⟨rfl, blank⟩

theorem bind {a : Act Variables α} {k : α → Act Variables β} (first : Oblivious names a)
    (next : ∀ x, Oblivious names (k x)) : Oblivious names (a >>= k) := by
  intro vars blank
  have ⟨same, kept⟩ := first vars blank
  rw [Act.bind_apply, Act.bind_apply, same]
  rcases made : a vars with ⟨f | x, vars'⟩
  all_goals rw [made] at kept
  case error => exact ⟨rfl, kept⟩
  case ok    => exact next x vars' kept

theorem offer (kept : name ∉ names) (value : String) :
    Oblivious names (Variables.offer name value) := by
  intro vars blank
  have same : (vars.without names).isSet name = vars.isSet name := by
    rw [isSet, get?_without_of_not_mem kept, isSet]
  constructor
  case left =>
    unfold Variables.offer put
    rw [same]
    split
    case isTrue  => rfl
    case isFalse =>
      split
      case h_1 => rfl
      case h_2 => rw [without_set vars kept]
  case right => exact fun other mem => get?_offer name value (blank other mem)

end Oblivious

end Variables

namespace EnvFile

open Variables (Oblivious)

variable {vars : Variables} {names : List String} {s : String}

theorem suffix_drop_of_eq {cs after : List Char} {c : Char} {n : Nat}
    (rest : cs.drop n = c :: after) : after <:+ cs :=
  ((List.suffix_cons c after).trans (rest ▸ List.suffix_refl _)).trans (List.drop_suffix n cs)

theorem infix_of_reference? {cs name absent after : List Char}
    (h : reference? cs = some (name, absent, after)) : name <:+: cs ∧ after <:+ cs := by
  unfold reference? at h
  split at h
  case h_2 => cases h
  case h_1 rest =>
    have within : rest <:+ '$' :: '\x7b' :: rest :=
      (List.suffix_cons _ rest).trans (List.suffix_cons _ _)
    -- The name ends at the first brace or colon, and the rest begins behind it.
    have named := (List.takeWhile_prefix fun c => c != '\x7d' && c != ':').isInfix.trans
      within.isInfix
    simp only at h
    split at h
    case h_1 rest' closed =>
      cases h
      exact ⟨named, (suffix_drop_of_eq closed).trans within⟩
    case h_2 more opened =>
      split at h
      case h_2 => cases h
      case h_1 closed =>
        cases h
        have later : more <:+ rest := (List.suffix_cons _ more).trans (suffix_drop_of_eq opened)
        exact ⟨named, ((suffix_drop_of_eq closed).trans later).trans within⟩
    case h_3 => cases h

theorem expandWith_congr {find find' : String → Option String} {n : Nat} {cs : List Char}
    (same : ∀ name : List Char, name <:+: cs →
      find (String.ofList name) = find' (String.ofList name)) :
    expandWith find n cs = expandWith find' n cs := by
  -- On the room for the expansion. What is left of a text holds no names but those of the text.
  induction n generalizing cs
  case zero => rfl
  case succ n ih =>
    unfold expandWith
    split
    case h_1 name absent after found =>
      have ⟨named, later⟩ := infix_of_reference? found
      rw [same name named, ih fun other within => same other (within.trans later.isInfix)]
    case h_2 =>
      split
      case h_1 => rfl
      case h_2 c rest _ =>
        rw [ih fun other within => same other (within.trans (List.suffix_cons c rest).isInfix)]

-- A file has a value for a variable or perhaps refers to it.
def Mentions (s name : String) : Prop :=
  ∃ b ∈ bindings (String.ofList (withoutMark s.toList)),
    b.1 = name ∨ ∃ text ∈ b.2, name.toList <:+: text.toList

instance (s name : String) : Decidable (Mentions s name) :=
  inferInstanceAs (Decidable (∃ b ∈ _, _ ∨ ∃ text ∈ _, _))

theorem lookUp_without {soFar : List (String × Option String)} {name : String}
    (kept : name ∉ names) : lookUp (vars.without names) soFar name = lookUp vars soFar name := by
  rw [lookUp, Variables.get?_without_of_not_mem kept, lookUp]

theorem expand_without {soFar : List (String × Option String)} {text : String}
    (unmentioned : ∀ name ∈ names, ¬ name.toList <:+: text.toList) :
    expand (lookUp (vars.without names) soFar) text = expand (lookUp vars soFar) text := by
  refine congrArg String.ofList (expandWith_congr fun name within => lookUp_without fun mem => ?_)
  exact unmentioned _ mem (by rwa [String.toList_ofList])

theorem resolve_without {bindings : List (String × Option String)}
    (unmentioned : ∀ other text, (other, some text) ∈ bindings →
      ∀ name ∈ names, ¬ name.toList <:+: text.toList) :
    resolve (vars.without names) bindings = resolve vars bindings := by
  refine List.foldl_ext _ _ _ fun soFar (other, value) mem => ?_
  cases value
  case none      => rfl
  case some text => simp only [Option.map_some, expand_without (unmentioned other text mem)]

theorem mem_of_mem_resolve {bindings : List (String × Option String)} {name : String}
    (mem : name ∈ (resolve vars bindings).map (·.1)) : name ∈ bindings.map (·.1) := by
  revert mem
  unfold resolve
  refine List.foldlRecOn _ _ (motive := fun soFar : List (String × Option String) =>
    name ∈ soFar.map (·.1) → name ∈ bindings.map (·.1)) ?none ?more
  case none => exact nofun
  case more =>
    intro soFar before (other, value) within mem
    cases Keyed.mem_keys_assign mem
    case inl same    => exact same ▸ List.mem_map_of_mem within
    case inr earlier => exact before earlier

theorem definitions_without (unmentioned : ∀ name ∈ names, ¬ Mentions s name)
    (kept : switchName ∉ names) : definitions (vars.without names) s = definitions vars s := by
  have same : isSwitchedOff (vars.without names) = isSwitchedOff vars := by
    rw [isSwitchedOff, Variables.get?_without_of_not_mem kept, isSwitchedOff]
  unfold definitions
  rw [same, resolve_without]
  exact fun _ text mem name among within =>
    unmentioned name among ⟨_, mem, .inr ⟨text, rfl, within⟩⟩

theorem not_mem_definitions (unmentioned : ∀ name ∈ names, ¬ Mentions s name) :
    ∀ b ∈ definitions vars s, b.1 ∉ names := by
  intro b mem among
  unfold definitions at mem
  split at mem
  case isTrue => cases mem
  case isFalse =>
    have ⟨bound, within, same⟩ := List.mem_map.mp (mem_of_mem_resolve (List.mem_map_of_mem mem))
    exact unmentioned _ among ⟨bound, within, .inl same⟩

theorem oblivious_offerAll {bindings : List (String × Option String)}
    (kept : ∀ b ∈ bindings, b.1 ∉ names) : Oblivious names (offerAll bindings) := by
  induction bindings
  case nil => exact .of (.ok ())
  case cons b rest ih =>
    rw [List.forall_mem_cons] at kept
    rcases b with ⟨name, _ | value⟩
    case none => exact ih kept.2
    case some => exact .bind (.offer kept.1 value) fun _ => ih kept.2

theorem oblivious_load (unmentioned : ∀ name ∈ names, ¬ Mentions s name)
    (kept : switchName ∉ names) : Oblivious names (load s) := by
  intro vars blank
  rw [load_apply, load_apply, definitions_without unmentioned kept]
  exact oblivious_offerAll (not_mem_definitions unmentioned) vars blank

end EnvFile

namespace Configuration

open Variables (Oblivious)

variable {format : FileFormat} {files : Files} {path : Path} {paths : List Path}
  {names : List String} {c c₁ : Configuration} {v : Value}

def Unmentioned (files : Files) (paths : List Path) (names : List String) : Prop :=
  ∀ path ∈ paths, ∀ s, envText files path = .ok s → ∀ name ∈ names, ¬ EnvFile.Mentions s name

theorem oblivious_loadEnvFile
    (unmentioned : ∀ s, envText files path = .ok s → ∀ name ∈ names, ¬ EnvFile.Mentions s name)
    (kept : EnvFile.switchName ∉ names) : Oblivious names (loadEnvFile files path) := by
  intro vars blank
  rw [loadEnvFile_apply, loadEnvFile_apply]
  cases read : envText files path
  case error => exact ⟨rfl, blank⟩
  case ok s  => exact EnvFile.oblivious_load (unmentioned s read) kept vars blank

theorem oblivious_forM (unmentioned : Unmentioned files paths names)
    (kept : EnvFile.switchName ∉ names) : Oblivious names (paths.forM (loadEnvFile files)) := by
  induction paths
  case nil => exact .of (.ok ())
  case cons path rest ih =>
    unfold Unmentioned at unmentioned
    rw [List.forall_mem_cons] at unmentioned
    exact .bind (oblivious_loadEnvFile unmentioned.1 kept) fun _ => ih unmentioned.2

def without (c : Configuration) (names : List String) : Configuration :=
  { c with environment := c.environment.without names }

def placeNames : List String :=
  [EnvFile.switchName, "ENV", overrideName, "HOME", "APPDATA"]

theorem stage_without (kept : "ENV" ∉ names) (vars : Variables) :
    stage (vars.without names) = stage vars :=
  stage_of_get? (Variables.get?_without_of_not_mem kept)

theorem loaded_without (format : FileFormat) (kept : ∀ name ∈ placeNames, name ∉ names)
    (c : Configuration) : (c.without names).loaded format = c.loaded format := by
  have get?_same {name : String} (place : name ∈ placeNames) :
      (c.without names).environment.get? name = c.environment.get? name :=
    Variables.get?_without_of_not_mem (kept name place)
  have path : (c.without names).settingsPath = c.settingsPath := by
    simp only [settingsPath, systemPath, home, get?_same (show overrideName ∈ _ by decide),
      get?_same (show "HOME" ∈ _ by decide), get?_same (show "APPDATA" ∈ _ by decide)]
    rfl
  rw [loaded, path]
  rfl

theorem loadEnvFiles_without (blank : c.environment.Blank names)
    (unmentioned : Unmentioned c.files (envPaths ⟨"", []⟩ c) names)
    (kept : ∀ name ∈ placeNames, name ∉ names) :
    loadEnvFiles ⟨"", []⟩ (c.without names) =
      ((loadEnvFiles ⟨"", []⟩ c).1, (loadEnvFiles ⟨"", []⟩ c).2.without names) := by
  have switch := kept EnvFile.switchName (by decide)
  have ⟨same, _⟩ := oblivious_forM unmentioned switch c.environment blank
  have paths : envPaths ⟨"", []⟩ (c.without names) = envPaths ⟨"", []⟩ c := by
    rw [envPaths, envPaths, without, stage_without (kept "ENV" (by decide))]
  simp only [loadEnvFiles_apply, paths]
  rw [without, same]
  rfl

theorem finds_without (format : FileFormat) (blank : c.environment.Blank names)
    (unmentioned : Unmentioned c.files (envPaths ⟨"", []⟩ c) names)
    (kept : ∀ name ∈ placeNames, name ∉ names) :
    finds format (c.without names) = ((finds format c).1, (finds format c).2.without names) := by
  unfold finds
  rw [Act.bind_apply, Act.bind_apply, loadEnvFiles_without blank unmentioned kept]
  rcases loadEnvFiles ⟨"", []⟩ c with ⟨f | _, c₁⟩
  case error => rfl
  case ok =>
    show ((c₁.without names).loaded format, _) = _
    rw [loaded_without format kept]
    rfl

theorem settings_without (format : FileFormat) (blank : c.environment.Blank names)
    (unmentioned : c.snapshot = none → Unmentioned c.files (envPaths ⟨"", []⟩ c) names)
    (kept : ∀ name ∈ placeNames, name ∉ names) :
    settings format (c.without names) =
      ((settings format c).1, (settings format c).2.without names) := by
  cases remembered : c.snapshot
  case some v =>
    have also : (c.without names).snapshot = some v := remembered
    rw [settings_of_snapshot format remembered, settings_of_snapshot format also]
  case none =>
    have also : (c.without names).snapshot = none := remembered
    have same := finds_without format blank (unmentioned remembered) kept
    rcases found : finds format c with ⟨f | v, c₁⟩
    all_goals rw [found] at same
    case error =>
      rw [settings_of_forgotten format remembered, settings_of_forgotten format also, same, found]
    case ok =>
      rw [settings_of_found remembered found, settings_of_found also same]
      cases announced v
      all_goals rfl

theorem blank_of_settings (blank : c.environment.Blank names)
    (h : settings format c = (.ok v, c₁)) : c₁.environment.Blank names := by
  cases remembered : c.snapshot
  case some w =>
    rw [settings_of_snapshot format remembered] at h
    cases h
    exact blank
  case none =>
    have ⟨vars, _, set, _, _, left⟩ := (settings_eq_ok_iff remembered).mp h
    subst left
    exact fun name mem => keptBy_of_forM set name "" (blank name mem)

end Configuration

end BoundedWait
