import BoundedWait.Config.Files
import Mathlib.Data.List.Induction

theorem String.intercalate_le_concat (separator step : String) (parts : List String) :
    (separator.intercalate parts).utf8ByteSize ≤
      (separator.intercalate (parts ++ [step])).utf8ByteSize := by
  induction parts
  case nil => simp
  case cons first rest ih =>
    have more : rest ++ [step] ≠ [] := by simp
    rw [List.cons_append, String.intercalate_cons_of_ne_nil more]
    by_cases last : rest = []
    case pos =>
      rw [last, String.intercalate_singleton]
      simp only [String.utf8ByteSize_append]
      omega
    case neg =>
      rw [String.intercalate_cons_of_ne_nil last]
      simp only [String.utf8ByteSize_append]
      omega

namespace BoundedWait

namespace Path

variable {root step : String} {parts : List String} {path : Path}

theorem ne_empty_of_mem_ofText {s : String} (h : step ∈ (ofText s).parts) : step ≠ "" := by
  have kept := (List.mem_filter.mp h).2
  rw [Bool.and_eq_true, bne_iff_ne] at kept
  exact kept.1

theorem parts_eq_nil_of_bareText (named : ∀ step ∈ path.parts, step ≠ "")
    (h : path.bareText = "") : path.root = "" ∧ path.parts = [] := by
  rw [bareText, String.append_eq_empty_iff] at h
  refine ⟨h.1, ?_⟩
  rcases path with ⟨root, _ | ⟨first, rest⟩⟩
  case nil  => rfl
  case cons =>
    refine absurd ?_ (named first List.mem_cons_self)
    by_cases last : rest = []
    case pos => simpa [last] using h.2
    case neg =>
      rw [String.intercalate_cons_of_ne_nil last, String.append_eq_empty_iff,
        String.append_eq_empty_iff] at h
      exact h.2.1.1

-- The system takes the path as it is: neither the whole path nor a step is too long.
structure IsShort (path : Path) : Prop where
  whole : path.text.utf8ByteSize ≤ Files.longestPath
  steps : ∀ step ∈ path.parts, step.utf8ByteSize ≤ Files.longestName

theorem bareText_le_text (path : Path) :
    path.bareText.utf8ByteSize ≤ path.text.utf8ByteSize := by
  unfold text
  split
  case isTrue empty => simp [String.isEmpty_iff.mp empty]
  case isFalse      => exact Nat.le_refl _

theorem text_le (path : Path) : path.text.utf8ByteSize ≤ max 1 path.bareText.utf8ByteSize := by
  unfold text
  -- A path without any text is written as one character.
  split
  case isTrue  => exact Nat.le_max_left _ _
  case isFalse => exact Nat.le_max_right _ _

theorem IsShort.parent (short : IsShort ⟨root, parts ++ [step]⟩) : IsShort ⟨root, parts⟩ where
  steps := fun s mem => short.steps s (List.mem_append_left _ mem)
  whole := by
    have shorter := String.intercalate_le_concat "/" step parts
    have given := Nat.le_trans (bareText_le_text _) short.whole
    have bound := text_le ⟨root, parts⟩
    simp only [bareText, String.utf8ByteSize_append, Files.longestPath] at given bound ⊢
    omega

end Path

namespace Files

variable {f g k : Files} {p q d : Place} {ps qs : List Place} {path : Path} {root step : String}
  {parts steps : List String} {r : Except Fault Unit}

def trail (p : Place) : List String → List Place
  | []            => []
  | step :: steps => p :: trail (next p step) steps

-- The places that a path passes, and the one that it leads to.
def passed (f : Files) (path : Path) : List Place :=
  trail (f.start path) path.parts

def target (f : Files) (path : Path) : Place :=
  path.parts.foldl next (f.start path)

theorem trail_concat : trail p (steps ++ [step]) = trail p steps ++ [steps.foldl next p] := by
  induction steps generalizing p
  case nil             => rfl
  case cons first _ ih => rw [List.cons_append, trail, ih, trail, List.cons_append]; rfl

-- All places that have to be directories if the one that a path leads to is one.
def lineage (f : Files) (path : Path) : List Place :=
  f.passed path ++ [f.target path]

theorem passed_eq_lineage (f : Files) (root step : String) (parts : List String) :
    f.passed ⟨root, parts ++ [step]⟩ = f.lineage ⟨root, parts⟩ :=
  trail_concat

theorem lineage_concat :
    f.lineage ⟨root, parts ++ [step]⟩ =
      f.lineage ⟨root, parts⟩ ++ [f.target ⟨root, parts ++ [step]⟩] := by
  rw [lineage, passed_eq_lineage]

theorem walk_eq_ok_iff : f.walk p steps = .ok q ↔
    (∀ d ∈ trail p steps, f.isDirectory d = true) ∧
    (∀ step ∈ steps, step.utf8ByteSize ≤ longestName) ∧ steps.foldl next p = q := by
  induction steps generalizing p
  case nil => simp [walk, trail]
  case cons step steps ih =>
    rw [walk]
    split
    case isTrue passable =>
      split
      case isTrue long =>
        simp only [List.forall_mem_cons]
        constructor
        case mp  => exact fun h => nomatch h
        case mpr => exact fun ⟨_, ⟨short, _⟩, _⟩ => absurd short (by omega)
      case isFalse short =>
        simp [ih, trail, passable, Nat.le_of_not_lt short]
    case isFalse closed => simp [trail, closed]

theorem locate_eq_ok_iff : f.locate path = .ok q ↔
    path.IsShort ∧ (∀ d ∈ f.passed path, f.isDirectory d = true) ∧ f.target path = q := by
  rw [locate]
  split
  case isTrue long =>
    constructor
    case mp  => exact fun h => nomatch h
    case mpr => exact fun ⟨short, _⟩ => absurd short.whole (by omega)
  case isFalse short =>
    rw [walk_eq_ok_iff]
    constructor
    case mp  => exact fun ⟨dirs, steps, goal⟩ => ⟨⟨by omega, steps⟩, dirs, goal⟩
    case mpr => exact fun ⟨short, dirs, goal⟩ => ⟨dirs, short.steps, goal⟩

theorem find_eq_ok_iff : f.find path = .ok q ↔ f.locate path = .ok q := by
  unfold find
  cases f.locate path <;> simp [Except.mapError]

theorem pathExists_of_concat (h : f.pathExists ⟨root, parts ++ [step]⟩ = true) :
    f.pathExists ⟨root, parts⟩ = true := by
  rw [pathExists] at h
  split at h
  case h_2 => cases h
  case h_1 located =>
    have ⟨short, dirs, _⟩ := locate_eq_ok_iff.mp located
    rw [passed_eq_lineage, lineage, List.forall_mem_append, List.forall_mem_singleton] at dirs
    rw [pathExists, locate_eq_ok_iff.mpr ⟨short.parent, dirs.1, rfl⟩]
    exact Bool.or_eq_true _ _ ▸ .inl dirs.2

-- What directories that are made at some places make of files: nothing else changes.
structure Extends (places : List Place) (f g : Files) : Prop where
  working   : g.working = f.working
  documents : g.documents = f.documents
  keeps     : ∀ d, f.isDirectory d = true → g.isDirectory d = true
  makes     : ∀ d, g.isDirectory d = true → f.isDirectory d = true ∨ d ∈ places

namespace Extends

theorem refl (ps : List Place) (f : Files) : Extends ps f f where
  working   := rfl
  documents := rfl
  keeps     := fun _ h => h
  makes     := fun _ h => .inl h

theorem trans (first : Extends ps f g) (second : Extends ps g k) : Extends ps f k where
  working   := second.working.trans first.working
  documents := second.documents.trans first.documents
  keeps     := fun d h => second.keeps d (first.keeps d h)
  makes     := fun d h => (second.makes d h).elim (first.makes d) .inr

theorem mono (h : Extends ps f g) (le : ∀ d ∈ ps, d ∈ qs) : Extends qs f g where
  working   := h.working
  documents := h.documents
  keeps     := h.keeps
  makes     := fun d made => (h.makes d made).imp_right (le d)

theorem start (h : Extends ps f g) (path : Path) : g.start path = f.start path := by
  rw [Files.start, Files.start, h.working]

theorem target (h : Extends ps f g) (path : Path) : g.target path = f.target path := by
  rw [Files.target, Files.target, h.start]

theorem passed (h : Extends ps f g) (path : Path) : g.passed path = f.passed path := by
  rw [Files.passed, Files.passed, h.start]

theorem lineage (h : Extends ps f g) (path : Path) : g.lineage path = f.lineage path := by
  rw [Files.lineage, Files.lineage, h.passed, h.target]

theorem document? (h : Extends ps f g) (p : Place) : g.document? p = f.document? p := by
  rw [Files.document?, Files.document?, h.documents]

end Extends

theorem extends_addDirectory (f : Files) (p : Place) : Extends [p] f (f.addDirectory p) where
  working   := rfl
  documents := rfl
  keeps     := fun d h => by rw [isDirectory_addDirectory, h, Bool.or_true]
  makes     := fun d h => by
    rw [isDirectory_addDirectory, Bool.or_eq_true, beq_iff_eq] at h
    exact h.symm.imp_right List.mem_singleton.mpr

theorem makeDirectory_of_locate (path : Path) (h : f.locate path = .ok p) :
    makeDirectory path f =
      if f.isDirectory p then (.ok (), f)
      else if (f.document? p).isSome then (.error (fileExists path.bareText), f)
      else (.ok (), f.addDirectory p) := by
  simp only [makeDirectory, Act.bind_apply, Act.get, Act.of_apply, find_eq_ok_iff.mpr h]
  split
  case isTrue  => rfl
  case isFalse => split <;> rfl

theorem makeDirectory_of_error {e : Missing} (h : f.locate path = .error e) :
    makeDirectory path f = (.error (e.fault path.bareText), f) := by
  simp [makeDirectory, Act.get, find, h, Except.mapError]

theorem makeDirectory_extends (h : makeDirectory path f = (r, g)) :
    Extends [f.target path] f g := by
  cases located : f.locate path
  case error =>
    rw [makeDirectory_of_error located] at h
    cases h
    exact .refl _ f
  case ok p =>
    rw [makeDirectory_of_locate path located] at h
    rw [(locate_eq_ok_iff.mp located).2.2]
    split at h
    case isTrue  => cases h; exact .refl _ f
    case isFalse =>
      split at h
      case isTrue  => cases h; exact .refl _ f
      case isFalse => cases h; exact extends_addDirectory f p

theorem isDirectory_of_makeDirectory (h : makeDirectory path f = (.ok (), g)) :
    path.IsShort ∧ ∀ d ∈ g.lineage path, g.isDirectory d = true := by
  cases located : f.locate path
  case error =>
    rw [makeDirectory_of_error located] at h
    cases h
  case ok p =>
    have ⟨short, dirs, goal⟩ := locate_eq_ok_iff.mp located
    have made := makeDirectory_extends h
    refine ⟨short, ?_⟩
    rw [made.lineage, lineage, goal, List.forall_mem_append]
    -- What leads there was there before, so that only the place itself is left.
    refine ⟨fun d mem => made.keeps d (dirs d mem), ?_⟩
    rw [List.forall_mem_singleton]
    rw [makeDirectory_of_locate path located] at h
    split at h
    case isTrue there => cases h; exact there
    case isFalse =>
      split at h
      case isTrue  => cases h
      case isFalse => cases h; rw [isDirectory_addDirectory, beq_self_eq_true, Bool.true_or]

theorem makeDirectory_of_pathExists (there : f.pathExists path = true) :
    (makeDirectory path f).2 = f := by
  rw [pathExists] at there
  split at there
  case h_2 => cases there
  case h_1 p located =>
    rw [makeDirectory_of_locate path located]
    split
    case isTrue  => rfl
    case isFalse noDirectory =>
      rw [hasEntry, Bool.eq_false_iff.mpr noDirectory, Bool.false_or] at there
      rw [if_pos there]

theorem makeDirectory_missing {e : Fault} (short : path.IsShort)
    (h : makeDirectory path f = (.error e, g)) : ∃ d ∈ g.lineage path, g.isDirectory d = false := by
  have same : g = f := by
    cases located : f.locate path
    case error =>
      rw [makeDirectory_of_error located] at h
      cases h
      rfl
    case ok p =>
      rw [makeDirectory_of_locate path located] at h
      repeat' split at h
      all_goals cases h
      rfl
  -- If all of them were directories, there would be nothing to make.
  by_contra all
  have dirs : ∀ d ∈ f.lineage path, f.isDirectory d = true := by simpa [same] using all
  rw [lineage, List.forall_mem_append, List.forall_mem_singleton] at dirs
  rw [makeDirectory_of_locate path (locate_eq_ok_iff.mpr ⟨short, dirs.1, rfl⟩), if_pos dirs.2] at h
  cases h

theorem makeAll_cons (root step : String) (steps : List String) (f : Files) :
    makeAll root (step :: steps) f =
      match (if f.lacks ⟨root, steps.reverse⟩ then makeAll root steps f else (.ok (), f)) with
      | (.ok _, g)    => makeDirectory ⟨root, steps.reverse ++ [step]⟩ g
      | (.error e, g) => (.error e, g) := by
  rw [makeAll, List.reverse_cons, Act.bind_apply]
  dsimp only [Act.get]
  split
  case isTrue =>
    rw [Act.bind_apply]
    rcases makeAll root steps f with ⟨_ | _, _⟩
    all_goals rfl
  case isFalse => rfl

-- Making a directory with all that lead to it adds some of these and nothing else, also if it
-- fails on the way.
theorem makeAll_extends (h : makeAll root steps f = (r, g)) :
    Extends (f.lineage ⟨root, steps.reverse⟩) f g := by
  induction steps generalizing f g r
  case nil =>
    unfold makeAll at h
    split at h
    case isTrue  => cases h; exact .refl _ _
    case isFalse => exact (makeDirectory_extends h).mono fun d mem => List.mem_append_right _ mem
  case cons step steps ih =>
    rw [makeAll_cons] at h
    rw [List.reverse_cons, lineage_concat]
    split at h
    case h_1 k before =>
      have parents : Extends (f.lineage ⟨root, steps.reverse⟩) f k := by
        split at before
        case isTrue  => exact ih before
        case isFalse => cases before; exact .refl _ _
      have last := makeDirectory_extends h
      rw [parents.target] at last
      exact (parents.mono fun _ => List.mem_append_left _).trans
        (last.mono fun _ => List.mem_append_right _)
    case h_2 k before =>
      cases h
      split at before
      case isTrue  => exact (ih before).mono fun _ => List.mem_append_left _
      case isFalse => cases before

theorem isDirectory_of_makeAll (h : makeAll root steps f = (.ok (), g)) :
    ∀ d ∈ g.lineage ⟨root, steps.reverse⟩, g.isDirectory d = true := by
  cases steps
  case nil =>
    unfold makeAll at h
    split at h
    case isTrue  => cases h
    case isFalse => exact (isDirectory_of_makeDirectory h).2
  case cons step steps =>
    rw [makeAll_cons] at h
    rw [List.reverse_cons]
    split at h
    case h_1 => exact (isDirectory_of_makeDirectory h).2
    case h_2 => cases h

structure Clear (f : Files) (path : Path) : Prop where
  short : path.IsShort
  named : ∀ step ∈ path.parts, step ≠ ""
  start : f.isDirectory (f.start path) = true
  free  : ∀ d ∈ f.lineage path, f.isDirectory d = true ∨ f.document? d = none

theorem Clear.parent (clear : f.Clear ⟨root, parts ++ [step]⟩) : f.Clear ⟨root, parts⟩ where
  short := clear.short.parent
  named := fun s mem => clear.named s (List.mem_append_left _ mem)
  start := clear.start
  free  := fun d mem => clear.free d (lineage_concat ▸ List.mem_append_left _ mem)

theorem Clear.isDirectory_of_not_lacks (clear : f.Clear path) (h : f.lacks path = false) :
    ∀ d ∈ f.lineage path, f.isDirectory d = true := by
  rw [lacks, Bool.and_eq_false_iff, Bool.not_eq_false', Bool.not_eq_false'] at h
  rcases h with bare | there
  case inl =>
    have ⟨_, empty⟩ := path.parts_eq_nil_of_bareText clear.named (String.isEmpty_iff.mp bare)
    have alone : f.lineage path = [f.start path] := by simp [lineage, passed, target, empty, trail]
    rw [alone, List.forall_mem_singleton]
    exact clear.start
  case inr =>
    rw [pathExists] at there
    split at there
    case h_1 p located =>
      have ⟨_, dirs, goal⟩ := locate_eq_ok_iff.mp located
      have last := clear.free (f.target path) (List.mem_append_right _ (List.mem_singleton_self _))
      rw [goal] at last
      rw [lineage, List.forall_mem_append, List.forall_mem_singleton, goal]
      refine ⟨dirs, last.elim id fun none => ?_⟩
      rw [hasEntry, none, Bool.or_eq_true] at there
      exact there.resolve_right (by simp)
    case h_2 => cases there

theorem Clear.makeDirectory (clear : f.Clear path)
    (dirs : ∀ d ∈ f.passed path, f.isDirectory d = true) :
    ∃ g, Files.makeDirectory path f = (.ok (), g) := by
  rw [makeDirectory_of_locate path (locate_eq_ok_iff.mpr ⟨clear.short, dirs, rfl⟩)]
  split
  case isTrue  => exact ⟨_, rfl⟩
  case isFalse absent =>
    have none := (clear.free _ (List.mem_append_right _ (List.mem_singleton_self _))).resolve_left
      absent
    rw [none, if_neg (by simp)]
    exact ⟨_, rfl⟩

theorem Clear.extend (clear : f.Clear path) (made : Extends ps f g) : g.Clear path where
  short := clear.short
  named := clear.named
  start := by rw [made.start]; exact made.keeps _ clear.start
  free  := fun d mem => by
    rw [made.lineage] at mem
    rw [made.document?]
    exact (clear.free d mem).imp_left (made.keeps d)

theorem Clear.makeAll (clear : f.Clear ⟨root, steps.reverse⟩)
    (named : (Path.mk root steps.reverse).bareText ≠ "") :
    ∃ g, Files.makeAll root steps f = (.ok (), g) := by
  induction steps
  case nil =>
    have rooted : root.isEmpty = false := by
      simpa [Path.bareText] using named
    rw [Files.makeAll, rooted]
    exact clear.makeDirectory (by simp [passed, trail])
  case cons step steps ih =>
    rw [List.reverse_cons] at clear
    rw [makeAll_cons]
    -- After the parent was made, or if nothing of it was lacking, all that leads to the directory
    -- is there.
    have ⟨k, before, made, dirs⟩ : ∃ k,
        (if f.lacks ⟨root, steps.reverse⟩ then Files.makeAll root steps f else (.ok (), f)) =
          (.ok (), k) ∧ Extends (f.lineage ⟨root, steps.reverse⟩) f k ∧
        ∀ d ∈ k.lineage ⟨root, steps.reverse⟩, k.isDirectory d = true := by
      split
      case isTrue lacking =>
        have bare : (Path.mk root steps.reverse).bareText ≠ "" := by
          intro none
          simp [lacks, none] at lacking
        have ⟨k, made⟩ := ih clear.parent bare
        exact ⟨k, made, makeAll_extends made, isDirectory_of_makeAll made⟩
      case isFalse enough =>
        exact ⟨f, rfl, .refl _ _,
          clear.parent.isDirectory_of_not_lacks (Bool.eq_false_iff.mpr enough)⟩
    rw [before]
    rw [← passed_eq_lineage k root step steps.reverse] at dirs
    exact (clear.extend made).makeDirectory dirs

theorem makeAll_of_pathExists (there : f.pathExists ⟨root, steps.reverse⟩ = true) :
    (makeAll root steps f).2 = f := by
  cases steps
  case nil =>
    rw [makeAll]
    split
    case isTrue  => rfl
    case isFalse => exact makeDirectory_of_pathExists there
  case cons step steps =>
    rw [List.reverse_cons] at there
    have enough : f.lacks ⟨root, steps.reverse⟩ = false := by
      rw [lacks, pathExists_of_concat there, Bool.not_true, Bool.and_false]
    rw [makeAll_cons, enough]
    exact makeDirectory_of_pathExists there

theorem makeAll_missing {e : Fault} (short : Path.IsShort ⟨root, steps.reverse⟩)
    (h : makeAll root steps f = (.error e, g)) :
    (Path.mk root steps.reverse).bareText = "" ∧ g = f ∨
      ∃ d ∈ g.lineage ⟨root, steps.reverse⟩, g.isDirectory d = false := by
  induction steps generalizing f g
  case nil =>
    rw [makeAll] at h
    split at h
    case isTrue bare => cases h; exact .inl ⟨by simpa [Path.bareText] using bare, rfl⟩
    case isFalse     => exact .inr (makeDirectory_missing short h)
  case cons step steps ih =>
    rw [List.reverse_cons] at short ⊢
    rw [makeAll_cons] at h
    split at h
    case h_1 => exact .inr (makeDirectory_missing short h)
    case h_2 before =>
      cases h
      split at before
      case isFalse => cases before
      case isTrue lacking =>
        rcases ih short.parent before with ⟨bare, _⟩ | ⟨d, mem, missing⟩
        case inl => simp [lacks, bare] at lacking
        case inr => exact .inr ⟨d, lineage_concat ▸ List.mem_append_left _ mem, missing⟩

theorem make_extends (h : make path f = (r, g)) : Extends (f.lineage path) f g := by
  simpa using makeAll_extends h

theorem isDirectory_of_make (h : make path f = (.ok (), g)) :
    ∀ d ∈ g.lineage path, g.isDirectory d = true := by
  simpa using isDirectory_of_makeAll h

theorem Clear.make (clear : f.Clear path) (named : path.bareText ≠ "") :
    ∃ g, Files.make path f = (.ok (), g) :=
  Clear.makeAll (by simpa using clear) (by simpa using named)

theorem make_of_pathExists (there : f.pathExists path = true) : (make path f).2 = f :=
  makeAll_of_pathExists (by simpa using there)

theorem make_missing {e : Fault} (short : path.IsShort) (h : make path f = (.error e, g)) :
    path.bareText = "" ∧ g = f ∨ ∃ d ∈ g.lineage path, g.isDirectory d = false := by
  simpa using makeAll_missing (by simpa using short) h

theorem make_bare (bare : path.bareText = "") (named : ∀ step ∈ path.parts, step ≠ "") :
    make path f = (.error (noEntry ""), f) := by
  have ⟨root, parts⟩ := path.parts_eq_nil_of_bareText named bare
  rw [make, root, parts]
  rfl

-- A path that leads to a place for a file: there is no directory, and the path does not pass it.
structure Aims (f : Files) (path : Path) : Prop where
  short : path.IsShort
  start : f.isDirectory (f.start path) = true
  file  : f.isDirectory (f.target path) = false
  apart : f.target path ∉ f.passed path

-- A file can be written there once the directories on the way have been made.
structure Writable (f : Files) (path : Path) : Prop extends f.Aims path where
  free : ∀ d ∈ f.passed path, f.isDirectory d = true ∨ f.document? d = none

theorem lineage_parent (h : path.parts ≠ []) : f.lineage path.parent = f.passed path := by
  have whole : path = ⟨path.root, path.parts.dropLast ++ [path.parts.getLast h]⟩ := by
    rw [List.dropLast_concat_getLast]
  conv_rhs => rw [whole]
  exact (passed_eq_lineage ..).symm

theorem isShort_parent (short : path.IsShort) : path.parent.IsShort := by
  rcases path with ⟨root, parts⟩
  induction parts using List.reverseRecOn
  case nil         => exact short
  case append_singleton => simpa [Path.parent] using short.parent

theorem pathExists_parent (h : f.pathExists path = true) : f.pathExists path.parent = true := by
  rcases path with ⟨root, parts⟩
  induction parts using List.reverseRecOn
  case nil         => exact h
  case append_singleton => simpa [Path.parent] using pathExists_of_concat h

theorem Aims.parts_ne_nil (aims : f.Aims path) : path.parts ≠ [] := by
  intro none
  have here : f.target path = f.start path := by rw [target, none]; rfl
  have file := aims.file
  rw [here, aims.start] at file
  cases file

theorem Aims.isDirectory_target (aims : f.Aims path) (made : Extends (f.passed path) f g) :
    g.isDirectory (f.target path) = false := by
  rw [Bool.eq_false_iff]
  intro there
  rcases made.makes _ there with before | passed
  case inl => exact absurd (before.symm.trans aims.file) (by decide)
  case inr => exact aims.apart passed

theorem writable_eq_ok_iff :
    f.writable path = .ok p ↔ f.locate path = .ok p ∧ f.isDirectory p = false := by
  rw [writable, Except.bind_eq_ok_iff]
  constructor
  case mp =>
    intro ⟨q, found, opened⟩
    split at opened
    case isTrue       => cases opened
    case isFalse file => cases opened; exact ⟨find_eq_ok_iff.mp found, Bool.eq_false_iff.mpr file⟩
  case mpr =>
    intro ⟨located, file⟩
    exact ⟨p, find_eq_ok_iff.mpr located, by rw [file]; rfl⟩

theorem Writable.make (writable : f.Writable path) (named : ∀ step ∈ path.parts, step ≠ "")
    (inside : path.parent.bareText ≠ "") :
    ∃ g, Files.make path.parent f = (.ok (), g) ∧ Extends (f.passed path) f g ∧
      (∀ d ∈ f.passed path, g.isDirectory d = true) ∧ g.writable path = .ok (f.target path) := by
  have lineage := lineage_parent (f := f) writable.parts_ne_nil
  have clear : f.Clear path.parent := {
    short := isShort_parent writable.short
    named := fun step mem => named step (List.dropLast_subset _ mem)
    start := writable.start
    free  := lineage ▸ writable.free }
  have ⟨g, made⟩ := clear.make inside
  have added := make_extends made
  rw [lineage] at added
  have dirs := isDirectory_of_make made
  rw [added.lineage, lineage] at dirs
  refine ⟨g, made, added, dirs, writable_eq_ok_iff.mpr ⟨locate_eq_ok_iff.mpr ⟨?_, ?_, ?_⟩, ?_⟩⟩
  case refine_1 => exact writable.short
  case refine_2 => rw [added.passed]; exact dirs
  case refine_3 => exact added.target path
  case refine_4 => exact writable.isDirectory_target added

end Files

end BoundedWait
