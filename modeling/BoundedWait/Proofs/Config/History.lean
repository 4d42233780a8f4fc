import BoundedWait.Proofs.Config.Answers
import BoundedWait.Proofs.Config.Reload
import Mathlib.Data.List.Basic
import Mathlib.Data.List.Induction

theorem Except.toOption_eq_some_iff {ε α : Type} {r : Except ε α} {x : α} :
    r.toOption = some x ↔ r = .ok x := by
  cases r <;> simp [Except.toOption]

theorem Except.toOption_eq_none_iff {ε α : Type} {r : Except ε α} :
    r.toOption = none ↔ ∃ e, r = .error e := by
  cases r <;> simp [Except.toOption]

namespace BoundedWait

theorem Variables.assign_of_allowed {vars : Variables} {name value : String}
    (allowed : refusal? name value = none) :
    assign name (some value) vars = (.ok (), vars.set name value) := by
  simp [assign, put, allowed]

namespace Configuration

variable {format : FileFormat} {files : Files} {path : Path} {paths : List Path}
  {vars : Variables} {c start : Configuration} {v w : Value}

def Bare (c : Configuration) : Prop :=
  ∀ path ∈ envPaths ⟨"", []⟩ c, c.files.isFile path = false

theorem loadEnvFile_of_not_isFile (missing : files.isFile path = false) :
    (loadEnvFile files path vars).2 = vars := by
  unfold loadEnvFile
  refine Act.snd_bind rfl fun there => ?_
  rw [missing, Bool.and_false]
  rfl

theorem forM_of_not_isFile (missing : ∀ path ∈ paths, files.isFile path = false) :
    ((paths.forM (loadEnvFile files)) vars).2 = vars := by
  induction paths
  case nil => rfl
  case cons path rest ih =>
    rw [List.forall_mem_cons] at missing
    exact Act.snd_bind (loadEnvFile_of_not_isFile missing.1) fun _ => ih missing.2

def reading (format : FileFormat) (c : Configuration) : Except Fault Value :=
  (finds format c).1

theorem finds_of_bare (bare : Bare c) : finds format c = (reading format c, c) := by
  have kept : (pass c.files c.environment).2 = c.environment := forM_of_not_isFile bare
  refine Prod.ext rfl (Act.snd_bind ?_ fun _ => rfl)
  rw [loadEnvFiles_eq_pass, kept]

theorem reading_eq (snapshot : Option Value) (log : List LogEntry) :
    reading format { c with snapshot, log } = reading format c := by
  unfold reading finds
  rw [Act.bind_apply, Act.bind_apply, loadEnvFiles_eq_pass, loadEnvFiles_eq_pass]
  rcases pass c.files c.environment with ⟨f | _, vars⟩
  case error => rfl
  case ok    => rfl

theorem settings_of_not_reading {f : Fault} (bare : Bare c) (unread : c.snapshot = none)
    (failed : reading format c = .error f) : settings format c = (.error f, c) := by
  rw [settings_of_forgotten format unread, finds_of_bare bare, failed]

theorem settings_of_bare (format : FileFormat) (bare : Bare c) (unread : c.snapshot = none) :
    ∃ log, (settings format c).2 =
      { c with snapshot := (reading format c).toOption, log } := by
  cases read : reading format c
  case error f =>
    rw [settings_of_not_reading bare unread read]
    refine ⟨c.log, ?_⟩
    show c = { c with snapshot := none }
    rw [← unread]
  case ok v =>
    rw [settings_of_found unread (read ▸ finds_of_bare bare)]
    cases announced v
    case error => exact ⟨c.log, rfl⟩
    case ok    => exact ⟨_, rfl⟩

theorem settings_of_reading {entries : List (Value × Value)} (bare : Bare c)
    (unread : c.snapshot = none) (read : reading format c = .ok (.dict entries)) :
    ∃ c₁, settings format c = (.ok (.dict entries), c₁) ∧ c₁.environment = c.environment := by
  have ⟨c₁, answered⟩ := settings_of_mapping unread (read ▸ finds_of_bare bare)
  have ⟨log, left⟩ := settings_of_bare format bare unread
  rw [answered] at left
  have same := congrArg environment left
  exact ⟨c₁, answered, same⟩

theorem get_apply (format : FileFormat) (key : String) (absent : Value) (c : Configuration) :
    get format key absent c =
      match settings format c with
      | (.ok v, c₁)    =>
        (Setting.lookUp c₁.environment v defaultEntries key (some absent), c₁)
      | (.error f, c₁) => (.error f, c₁) := by
  rw [get, Act.bind_apply]
  rcases settings format c with ⟨f | v, c₁⟩
  all_goals rfl

theorem snd_made (format : FileFormat) (request : Request) (c : Configuration) :
    (request.made format c).2 = (settings format c).2 := by
  rcases answered : settings format c with ⟨f | v, c₁⟩
  case error => rw [Request.made_of_settings_eq_error answered]
  case ok    => exact state_of_made answered request

-- What happens to a configuration: its surroundings change, or it is used.
inductive Occurrence where
  | assign (name : String) (value : Option String)
  | rewrite (files : Files)
  | ask (request : Request)
  | forget

namespace Occurrence

def made (format : FileFormat) : Occurrence → Action Unit
  | assign name value => onVariables (Variables.assign name value)
  | rewrite files     => setFiles files
  | ask request       => request.made format
  | forget            => Configuration.forget

def altered (c : Configuration) : Occurrence → Configuration
  | assign name value => { c with environment := (Variables.assign name value c.environment).2 }
  | rewrite files     => { c with files }
  | ask _             => c
  | forget            => c

end Occurrence

abbrev History := List Occurrence

variable {history before earlier : History} {o : Occurrence} {request : Request}

def after (format : FileFormat) (history : History) (c : Configuration) : Configuration :=
  history.foldl (fun c o => (o.made format c).2) c

def surroundings (history : History) (c : Configuration) : Configuration :=
  history.foldl Occurrence.altered c

-- The accesses since the settings were forgotten last, each given by what has happened before it.
def Accessed (history before : History) : Prop :=
  ∃ request later, history = before ++ .ask request :: later ∧ .forget ∉ later

-- The settings that were read by the first of these accesses that could read any.
def Counts (format : FileFormat) (start : Configuration) (history : History) (v : Value) : Prop :=
  ∃ before, Accessed history before ∧ reading format (surroundings before start) = .ok v ∧
    ∀ earlier, Accessed history earlier → earlier.length < before.length →
      ∃ f, reading format (surroundings earlier start) = .error f

theorem after_concat (format : FileFormat) (history : History) (o : Occurrence)
    (c : Configuration) :
    after format (history ++ [o]) c = (o.made format (after format history c)).2 :=
  List.foldl_append

theorem surroundings_concat (history : History) (o : Occurrence) (c : Configuration) :
    surroundings (history ++ [o]) c = o.altered (surroundings history c) :=
  List.foldl_append

theorem after_append (format : FileFormat) (history later : History) (c : Configuration) :
    after format (history ++ later) c = after format later (after format history c) :=
  List.foldl_append

theorem Accessed.length_lt (h : Accessed history before) : before.length < history.length := by
  have ⟨request, later, parts, _⟩ := h
  simp [parts]

theorem Accessed.isPrefix (h : Accessed history before) : before <+: history :=
  have ⟨_, _, parts, _⟩ := h
  ⟨_, parts.symm⟩

theorem eq_of_prefix_singleton (within : before <+: [o]) : before = [] ∨ before = [o] := by
  rcases List.prefix_cons_iff.mp within with none | ⟨rest, all, none⟩
  case inl => exact .inl none
  case inr => exact .inr (by rw [all, List.prefix_nil.mp none])

theorem last_or_later {last asked : Occurrence} {later : History}
    (parts : history ++ [last] = before ++ asked :: later) :
    (before = history ∧ asked = last) ∨
      ∃ others, later = others ++ [last] ∧ history = before ++ asked :: others := by
  rcases List.eq_nil_or_concat' later with rfl | ⟨others, final, rfl⟩
  case inl =>
    have ⟨same, end'⟩ := List.append_inj' parts rfl
    exact .inl ⟨same.symm, (List.cons.inj end').1.symm⟩
  case inr =>
    rw [← List.cons_append, ← List.append_assoc] at parts
    have ⟨same, end'⟩ := List.append_inj' parts rfl
    exact .inr ⟨others, by rw [end'], same⟩

theorem accessed_concat (kept : o ≠ .forget) : Accessed (history ++ [o]) before ↔
    Accessed history before ∨ before = history ∧ ∃ request, o = .ask request := by
  constructor
  case mp =>
    intro ⟨request, later, parts, unforgotten⟩
    rcases last_or_later parts with ⟨same, asked⟩ | ⟨others, rfl, earlier⟩
    case inl => exact .inr ⟨same, request, asked.symm⟩
    case inr =>
      exact .inl ⟨request, others, earlier, fun mem =>
        unforgotten (List.mem_append_left _ mem)⟩
  case mpr =>
    rintro (⟨request, later, rfl, unforgotten⟩ | ⟨rfl, request, rfl⟩)
    case inl =>
      refine ⟨request, later ++ [o], by simp, fun mem => ?_⟩
      rcases List.mem_append.mp mem with mem | mem
      case inl => exact unforgotten mem
      case inr => exact kept (List.mem_singleton.mp mem).symm
    case inr => exact ⟨request, [], rfl, List.not_mem_nil⟩

theorem accessed_ask : Accessed (history ++ [.ask request]) before ↔
    Accessed history before ∨ before = history := by
  simp [accessed_concat]

theorem not_accessed_forget : ¬ Accessed (history ++ [.forget]) before := by
  intro ⟨request, later, parts, unforgotten⟩
  rcases last_or_later parts with ⟨_, asked⟩ | ⟨others, rfl, _⟩
  case inl => cases asked
  case inr => exact unforgotten (List.mem_append_right _ (.head _))

theorem Counts.unique (h : Counts format start history v) (h' : Counts format start history w) :
    v = w := by
  have ⟨before, accessed, read, first⟩ := h
  have ⟨before', accessed', read', first'⟩ := h'
  rcases Nat.lt_trichotomy before.length before'.length with less | same | greater
  case inl =>
    have ⟨f, failed⟩ := first' before accessed less
    cases read.symm.trans failed
  case inr.inl =>
    have prefixes := List.prefix_of_prefix_length_le accessed.isPrefix accessed'.isPrefix
      (Nat.le_of_eq same)
    cases prefixes.eq_of_length same
    cases read.symm.trans read'
    rfl
  case inr.inr =>
    have ⟨f, failed⟩ := first before' accessed' greater
    cases read'.symm.trans failed

theorem Counts.concat (h : Counts format start history v) (kept : o ≠ .forget) :
    Counts format start (history ++ [o]) v := by
  have ⟨before, accessed, read, first⟩ := h
  refine ⟨before, (accessed_concat kept).mpr (.inl accessed), read, fun earlier again less => ?_⟩
  rcases (accessed_concat kept).mp again with again | ⟨rfl, _⟩
  case inl => exact first earlier again less
  case inr => exact absurd less (Nat.lt_asymm accessed.length_lt)

theorem Counts.exists_reading (h : Counts format start (history ++ [.ask request]) v) :
    ∃ before, before <+: history ∧ reading format (surroundings before start) = .ok v := by
  have ⟨before, accessed, read, _⟩ := h
  rcases accessed_ask.mp accessed with accessed | rfl
  case inl => exact ⟨before, accessed.isPrefix, read⟩
  case inr => exact ⟨before, List.prefix_refl before, read⟩

structure Reflects (format : FileFormat) (start : Configuration) (history : History)
    (c : Configuration) : Prop where
  around   : c = { surroundings history start with snapshot := c.snapshot, log := c.log }
  known    : ∀ v, c.snapshot = some v → Counts format start history v
  unknown  : c.snapshot = none → ∀ before, Accessed history before →
    ∃ f, reading format (surroundings before start) = .error f

namespace Reflects

variable {c' : Configuration}

theorem environment_eq (h : Reflects format start history c) :
    c.environment = (surroundings history start).environment := by
  rw [h.around]

theorem reading_eq (h : Reflects format start history c) :
    reading format c = reading format (surroundings history start) := by
  rw [h.around, Configuration.reading_eq]

theorem bare (h : Reflects format start history c) (bare : Bare (surroundings history start)) :
    Bare c := by
  rw [h.around]
  exact bare

theorem altered (h : Reflects format start history c) (same : c'.snapshot = c.snapshot)
    (outside : ∀ request, o ≠ .ask request) (kept : o ≠ .forget)
    (around : c' =
      { surroundings (history ++ [o]) start with snapshot := c'.snapshot, log := c'.log }) :
    Reflects format start (history ++ [o]) c' where
  around  := around
  known   := fun v known => (h.known v (same ▸ known)).concat kept
  unknown := by
    intro unknown before accessed
    rcases (accessed_concat kept).mp accessed with accessed | ⟨_, request, asked⟩
    case inl => exact h.unknown (same ▸ unknown) before accessed
    case inr => exact absurd asked (outside request)

theorem asked (h : Reflects format start history c)
    (bare : c.snapshot = none → Bare (surroundings history start)) :
    Reflects format start (history ++ [.ask request]) (request.made format c).2 := by
  have kept : Occurrence.ask request ≠ .forget := nofun
  rw [snd_made]
  cases remembered : c.snapshot
  case some v =>
    rw [settings_of_snapshot format remembered]
    refine ⟨surroundings_concat _ _ _ ▸ h.around, fun v known => (h.known v known).concat kept, ?_⟩
    intro unknown
    cases remembered.symm.trans unknown
  case none =>
    have ⟨log, left⟩ := settings_of_bare format (h.bare (bare remembered)) remembered
    have failed := h.unknown remembered
    rw [left, h.reading_eq]
    refine ⟨?around, ?known, ?unknown⟩
    case around =>
      rw [surroundings_concat, h.around]
      rfl
    case known =>
      intro v known
      refine ⟨history, accessed_ask.mpr (.inr rfl), Except.toOption_eq_some_iff.mp known, ?_⟩
      -- Had an earlier access found settings, they would be known by now.
      intro earlier accessed less
      rcases accessed_ask.mp accessed with accessed | rfl
      case inl => exact failed earlier accessed
      case inr => exact absurd less (Nat.lt_irrefl _)
    case unknown =>
      intro unknown before accessed
      rcases accessed_ask.mp accessed with accessed | rfl
      case inl => exact failed before accessed
      case inr => exact Except.toOption_eq_none_iff.mp unknown

theorem step (h : Reflects format start history c)
    (bare : c.snapshot = none → Bare (surroundings history start)) (o : Occurrence) :
    Reflects format start (history ++ [o]) (o.made format c).2 := by
  cases o
  case assign name value =>
    refine h.altered rfl nofun nofun ?_
    rw [surroundings_concat, h.around]
    rfl
  case rewrite files =>
    refine h.altered rfl nofun nofun ?_
    rw [surroundings_concat, h.around]
    rfl
  case ask request => exact h.asked bare
  case forget =>
    refine ⟨?_, nofun, fun _ before accessed => absurd accessed not_accessed_forget⟩
    rw [surroundings_concat, h.around]
    rfl

end Reflects

theorem reflects_after (format : FileFormat) (unread : start.snapshot = none)
    (bare : ∀ before, before <+: history → Bare (surroundings before start)) :
    Reflects format start history (after format history start) := by
  -- The last occurrence is the one that is made after all others.
  induction history using List.reverseRecOn
  case nil =>
    refine ⟨rfl, fun v known => ?_, fun _ before accessed => ?_⟩
    case refine_1 => cases unread.symm.trans known
    case refine_2 => exact absurd accessed.length_lt (Nat.not_lt_zero _)
  case append_singleton history o ih =>
    have earlier := ih fun before within => bare before (within.trans (List.prefix_append _ _))
    rw [after_concat]
    exact earlier.step (fun _ => bare history (List.prefix_append _ _)) o

namespace Reflects

theorem snapshot_of_counts (h : Reflects format start history c)
    (counts : Counts format start history v) : c.snapshot = some v := by
  cases remembered : c.snapshot
  case some w =>
    cases (h.known w remembered).unique counts
    rfl
  case none =>
    have ⟨before, accessed, read, _⟩ := counts
    have ⟨f, failed⟩ := h.unknown remembered before accessed
    cases failed.symm.trans read

theorem later {later : History} (h : Reflects format start history c)
    (counts : Counts format start history v) (kept : .forget ∉ later) :
    Reflects format start (history ++ later) (after format later c) ∧
      Counts format start (history ++ later) v := by
  induction later generalizing history c
  case nil =>
    rw [List.append_nil]
    exact ⟨h, counts⟩
  case cons o later ih =>
    rw [List.mem_cons, not_or] at kept
    have remembered := h.snapshot_of_counts counts
    have next := h.step (fun unknown => nomatch unknown.symm.trans remembered) o
    have counts := counts.concat fun same => kept.1 same.symm
    rw [List.append_cons]
    exact ih next counts kept.2

theorem get_of_known (h : Reflects format start history c) (counts : Counts format start history v)
    (key : String) (absent : Value) : get format key absent c =
      (Setting.lookUp (surroundings history start).environment v defaultEntries key (some absent),
        c) := by
  rw [get_of_snapshot (h.snapshot_of_counts counts), h.environment_eq]

theorem get_of_counts {entries : List (Value × Value)} (h : Reflects format start history c)
    (bare : Bare (surroundings history start))
    (counts : Counts format start (history ++ [.ask request]) (.dict entries)) (key : String)
    (absent : Value) :
    (get format key absent c).1 =
      Setting.lookUp (surroundings history start).environment (.dict entries) defaultEntries key
        (some absent) := by
  have kept : Occurrence.ask request ≠ .forget := nofun
  cases remembered : c.snapshot
  case some w =>
    have known := h.known w remembered
    cases (known.concat kept).unique counts
    rw [h.get_of_known known]
  case none =>
    have ⟨before, accessed, read, _⟩ := counts
    -- Nothing is known, so that the settings which count are those that this very request reads.
    rcases accessed_ask.mp accessed with accessed | rfl
    case inl =>
      have ⟨f, failed⟩ := h.unknown remembered before accessed
      cases failed.symm.trans read
    case inr =>
      have ⟨c₁, answered, same⟩ :=
        settings_of_reading (h.bare bare) remembered (h.reading_eq.trans read)
      rw [get_apply, answered, ← h.environment_eq, ← same]

theorem get_of_not_counts (h : Reflects format start history c)
    (bare : Bare (surroundings history start))
    (nothing : ∀ v, ¬ Counts format start (history ++ [.ask request]) v) (key : String)
    (absent : Value) :
    ∃ f, reading format (surroundings history start) = .error f ∧
      (get format key absent c).1 = .error f := by
  have kept : Occurrence.ask request ≠ .forget := nofun
  cases remembered : c.snapshot
  case some v => exact absurd ((h.known v remembered).concat kept) (nothing v)
  case none =>
    cases read : reading format c
    case ok v =>
      have left := Request.snapshot_of_made format request remembered
      have known := (h.asked fun _ => bare).known v (left.trans (congrArg Except.toOption read))
      exact absurd known (nothing v)
    case error f =>
      have failed := settings_of_not_reading (h.bare bare) remembered read
      exact ⟨f, h.reading_eq ▸ read, by rw [get_apply, failed]⟩

end Reflects

-- A setting is looked up in the first settings that could be read since they were forgotten, and in
-- the environment as it is by then. If none could be read, it fails as reading fails.
theorem get_after (format : FileFormat) {start : Configuration} {history : History}
    (unread : start.snapshot = none)
    (bare : ∀ before, before <+: history → Bare (surroundings before start))
    (mapped : ∀ before v, before <+: history →
      reading format (surroundings before start) = .ok v → v.isMapping = true)
    (key : String) (absent : Value) :
    let vars := (surroundings history start).environment
    let answer (history : History) := (get format key absent (after format history start)).1
    (∀ v, Counts format start (history ++ [.ask (.get key absent)]) v →
      ∃ entries, v = .dict entries ∧
        (∀ w, answer history = .ok w ↔
          Setting.Answers vars entries defaultEntries key absent w) ∧
        ∀ f, answer history = .error f ↔ Setting.Unspeakable entries key f) ∧
    ((∀ v, ¬ Counts format start (history ++ [.ask (.get key absent)]) v) →
      ∃ f, reading format (surroundings history start) = .error f ∧ answer history = .error f) ∧
    ∀ v, Counts format start history v →
      (∀ later, .forget ∉ later → (surroundings (history ++ later) start).environment = vars →
        answer (history ++ later) = answer history) ∧
      ∀ entries s, v = .dict entries → Setting.Vacant entries key →
        Variables.refusal? key s = none →
        answer (history ++ [.assign key (some s)]) = .ok (.text s) := by
  intro vars answer
  have left := reflects_after format unread bare
  have here := bare history (List.prefix_refl history)
  refine ⟨fun v counts => ?answered, fun nothing => left.get_of_not_counts here nothing key absent,
    fun v counts => ⟨fun later kept same => ?unseen, ?seen⟩⟩
  case answered =>
    have ⟨before, within, read⟩ := counts.exists_reading
    have isMapping := mapped before v within read
    cases v
    case dict entries =>
      refine ⟨entries, rfl, fun w => ?_, fun f => ?_⟩
      all_goals
        show (get format key absent _).1 = _ ↔ _
        rw [left.get_of_counts here counts]
      case refine_1 => exact Setting.lookUp_eq_ok_iff
      case refine_2 => exact Setting.lookUp_eq_error_iff
    all_goals cases isMapping
  case unseen =>
    have ⟨left', counts'⟩ := left.later counts kept
    show (get format key absent _).1 = (get format key absent _).1
    rw [after_append, left'.get_of_known counts', left.get_of_known counts, same]
  -- The environment is asked anew each time. Only the settings are kept.
  case seen =>
    rintro entries s rfl vacant allowed
    have kept : Occurrence.forget ∉ [Occurrence.assign key (some s)] := by simp
    have ⟨left', counts'⟩ := left.later counts kept
    show (get format key absent _).1 = _
    rw [after_append, left'.get_of_known counts', surroundings_concat]
    refine Setting.lookUp_of_answers (.ofVariable vacant ?_)
    simp only [Occurrence.altered, Variables.assign_of_allowed allowed, Variables.get?_set, if_pos]

theorem get_after_holding : ∃ entries,
    Counts .yaml (Request.holding "A: 1") [.ask (.get "B" .null)] (.dict entries) ∧
    (∀ files, (get .yaml "B" .null (after .yaml [.ask (.get "B" .null), .rewrite files]
      (Request.holding "A: 1"))).1 = .ok .null) ∧
    (get .yaml "B" .null (after .yaml [.ask (.get "B" .null), .assign "B" (some "x")]
      (Request.holding "A: 1"))).1 = .ok (.text "x") := by
  have ⟨entries, found, missing⟩ := Request.finds_mended
  have bare : Bare (Request.holding "A: 1") := by
    unfold Bare
    decide +kernel
  have unset : (Request.holding "A: 1").environment.get? "B" = none := by decide +kernel
  have unread : (Request.holding "A: 1").snapshot = none := rfl
  generalize Request.holding "A: 1" = start at *
  have read : reading .yaml start = .ok (.dict entries) := congrArg Prod.fst found
  have vacant : Setting.Vacant entries "B" := fun v listed => nomatch missing.symm.trans listed
  have around {before : History} (within : before <+: [.ask (.get "B" .null)]) :
      surroundings before start = start := by
    rcases eq_of_prefix_singleton within with rfl | rfl
    all_goals rfl
  have mapped (before : History) (v : Value) (within : before <+: [.ask (.get "B" .null)])
      (found : reading .yaml (surroundings before start) = .ok v) : v.isMapping = true := by
    rw [around within, read] at found
    cases found
    rfl
  have ⟨answered, _, later⟩ := get_after .yaml unread
    (fun before within => (around within).symm ▸ bare) mapped "B" .null
  have counts : Counts .yaml start [.ask (.get "B" .null)] (.dict entries) :=
    ⟨[], ⟨_, [], rfl, List.not_mem_nil⟩, read, fun _ _ less => absurd less (Nat.not_lt_zero _)⟩
  have ⟨_, same, answers, _⟩ := answered _ (counts.concat nofun)
  cases same
  have ⟨unseen, seen⟩ := later _ counts
  refine ⟨entries, counts, fun files => (unseen [.rewrite files] (by simp) rfl).trans ?_,
    seen entries "x" rfl vacant ?_⟩
  case refine_1 => exact (answers _).mpr (.otherwise vacant unset (by decide +kernel))
  case refine_2 => simp [Variables.refusal?]

theorem bare_of_no_documents (nothing : c.files.documents = []) : Bare c := by
  intro path _
  unfold Files.isFile
  split
  case h_1 p _ => rw [Files.document?, nothing, Keyed.get?_nil, Option.isSome_none]
  case h_2     => rfl

def homely : Configuration where
  environment := .empty
  files       := .emptyAt []
  system      := "Linux"
  accountHome := "/"
  snapshot    := none
  log         := []

def homeless : Configuration :=
  { homely with environment := .set .empty "HOME" "~" }

theorem altered_homely : (Occurrence.assign "HOME" (some "~")).altered homely = homeless := by
  rw [Occurrence.altered, Variables.assign_of_allowed (by simp [Variables.refusal?])]
  rfl

theorem reading_homely {v : Value} (read : reading .yaml homely = .ok v) : v.isMapping = true := by
  have mapped : (reading .yaml homely).toOption.all Value.isMapping = true := by decide +kernel
  rw [read] at mapped
  exact mapped

theorem not_reading_homeless {v : Value} : reading .yaml homeless ≠ .ok v := by
  intro read
  have lost : (reading .yaml homeless).toOption.isNone = true := by decide +kernel
  rw [read] at lost
  cases lost

-- Without a home directory there is no place where the settings could be.
theorem get_homeless :
    ¬ ∀ (start : Configuration) (history : History) (key : String) (absent : Value),
      start.snapshot = none →
      (∀ before, before <+: history → Bare (surroundings before start)) →
      (∀ before v, before <+: history → reading .yaml (surroundings before start) = .ok v →
        v.isMapping = true) →
      ∃ v, (get .yaml key absent (after .yaml history start)).1 = .ok v := by
  intro claimed
  have moments {before : History} (within : before <+: [.assign "HOME" (some "~")]) :
      surroundings before homely = homely ∨ surroundings before homely = homeless := by
    rcases eq_of_prefix_singleton within with rfl | rfl
    case inl => exact .inl rfl
    case inr => exact .inr altered_homely
  have ⟨v, answered⟩ := claimed homely [.assign "HOME" (some "~")] "A" .null rfl ?bare ?mapped
  case bare =>
    intro before within
    rcases moments within with now | now
    all_goals
      rw [now]
      exact bare_of_no_documents rfl
  case mapped =>
    intro before v within read
    rcases moments within with now | now
    case inl => exact reading_homely (now ▸ read)
    case inr => exact absurd (now ▸ read) not_reading_homeless
  have left : after .yaml [.assign "HOME" (some "~")] homely = homeless := altered_homely
  rw [left, get_apply] at answered
  cases read : reading .yaml homeless
  case ok => exact not_reading_homeless read
  case error f =>
    rw [settings_of_not_reading (bare_of_no_documents rfl) rfl read] at answered
    cases answered

end Configuration

end BoundedWait
