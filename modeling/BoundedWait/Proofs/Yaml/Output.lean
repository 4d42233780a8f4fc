import BoundedWait.Config.FileFormat
import BoundedWait.Proofs.Number.Numeral
import Mathlib.Data.List.SplitBy

namespace BoundedWait

namespace Yaml

open Style (isSimple)

def Simple (cs : List Char) : Prop :=
  ∀ c ∈ cs, isSimple c = true

namespace Simple

variable {cs ds : List Char} {c : Char} {s : String}

theorem nil : Simple [] := by
  intro c mem
  cases mem

theorem append (hc : Simple cs) (hd : Simple ds) : Simple (cs ++ ds) :=
  List.forall_mem_append.mpr ⟨hc, hd⟩

theorem cons (hc : isSimple c = true) (hd : Simple ds) : Simple (c :: ds) :=
  List.forall_mem_cons.mpr ⟨hc, hd⟩

theorem subset (h : Simple cs) (sub : ds ⊆ cs) : Simple ds :=
  fun c mem => h c (sub mem)

theorem reverse (h : Simple cs) : Simple cs.reverse :=
  h.subset fun _ => List.mem_reverse.mp

theorem of_all (h : cs.all isSimple = true) : Simple cs :=
  List.all_eq_true.mp h

theorem of_isNumeric (h : Decimal.IsNumeric s) : Simple s.toList := by
  intro c mem
  have numeral := h c mem
  rw [Decimal.isNumeral, Bool.or_eq_true] at numeral
  rcases numeral with digit | sign
  case inl =>
    simp only [Char.isDigit, ge_iff_le, Bool.and_eq_true, decide_eq_true_eq,
      UInt32.le_iff_toNat_le] at digit
    simp only [isSimple, Bool.or_eq_true, Bool.and_eq_true, decide_eq_true_eq, Char.le_def,
      UInt32.le_iff_toNat_le]
    exact .inr ⟨Nat.le_trans (by decide) digit.1, Nat.le_trans digit.2 (by decide)⟩
  case inr =>
    have all : "+-.aefin".toList.all isSimple = true := by decide
    exact List.all_eq_true.mp all c (by simpa using sign)

end Simple

namespace Pen

variable {p : Pen} {cs : List Char} {s : String}

def IsSimple (p : Pen) : Prop :=
  Simple p.written

namespace IsSimple

theorem start : Pen.start.IsSimple :=
  .nil

theorem put (h : p.IsSimple) (hc : Simple cs) : (p.put cs).IsSimple :=
  hc.reverse.append h

theorem newLine (h : p.IsSimple) : p.newLine.IsSimple :=
  .cons rfl h

theorem spaced (h : p.IsSimple) : p.spaced.IsSimple := by
  unfold Pen.spaced
  split
  case isTrue  => exact h
  case isFalse => exact h.put (.cons rfl .nil)

theorem sign (h : p.IsSimple) (hs : Simple s.toList) : (p.sign s).IsSimple :=
  h.spaced.put hs

theorem close (h : p.IsSimple) (hs : Simple s.toList) : (p.close s).IsSimple :=
  h.put hs

theorem opener (h : p.IsSimple) (hs : Simple s.toList) : (p.opener s).IsSimple :=
  h.sign hs

theorem toIndent (h : p.IsSimple) (indent : Nat) : (p.toIndent indent).IsSimple := by
  have spaces (n : Nat) : Simple (List.replicate n ' ') := by
    intro c mem
    rw [(List.mem_replicate.mp mem).2]
    rfl
  unfold Pen.toIndent
  split
  case isTrue =>
    dsimp only
    split
    case isTrue  => exact h.newLine.put (spaces _)
    case isFalse => exact h.newLine
  case isFalse =>
    dsimp only
    split
    case isTrue  => exact h.put (spaces _)
    case isFalse => exact h

theorem fold (h : p.IsSimple) (indent : Nat) : (p.fold indent).IsSimple :=
  h.toIndent indent

theorem foldl {α : Type} {write : Pen → α → Pen} {parts : List α} (h : p.IsSimple)
    (step : ∀ part ∈ parts, ∀ q : Pen, q.IsSimple → (write q part).IsSimple) :
    (parts.foldl write p).IsSimple := by
  induction parts generalizing p
  case nil => exact h
  case cons part rest ih =>
    rw [List.forall_mem_cons] at step
    exact ih (step.1 p h) step.2

end IsSimple

end Pen

namespace Style

variable {p : Pen} {cs run : List Char} {folds : Bool} {indent : Nat}

theorem simple_of_mem_runs (h : Simple cs) (mem : run ∈ runs cs) : Simple run := by
  refine h.subset fun c inside => ?_
  rw [← List.flatten_splitBy (fun a b => isSpace a == isSpace b && isEnd a == isEnd b) cs]
  exact List.mem_flatten.mpr ⟨run, mem, inside⟩

theorem isSimple_writeBare (h : p.IsSimple) (hc : Simple cs) :
    (writeBare folds indent cs p).IsSimple := by
  have begun : ({ p.spaced with isSpaced := false, isIndented := false } : Pen).IsSimple := h.spaced
  refine begun.foldl fun run mem q hq => ?_
  unfold putBare
  split
  case isTrue  => exact hq.fold indent
  case isFalse => exact hq.put (simple_of_mem_runs hc mem)

theorem isSimple_putSingle (h : p.IsSimple) (hr : Simple run) :
    (putSingle folds indent p run).IsSimple := by
  unfold putSingle
  split
  case isTrue => exact h.toIndent indent
  case isFalse =>
    split
    case isTrue  => exact (h.newLine.foldl fun _ _ _ hq => hq.newLine).toIndent indent
    case isFalse =>
      refine h.put fun c mem => ?_
      have ⟨d, inside, doubled⟩ := List.mem_flatMap.mp mem
      -- Quotes are doubled, and everything else stands for itself.
      split at doubled
      case isTrue =>
        simp only [List.mem_cons, List.not_mem_nil, or_false, or_self] at doubled
        rw [doubled]
        rfl
      case isFalse => exact List.mem_singleton.mp doubled ▸ hr d inside

theorem isSimple_writeSingle (h : p.IsSimple) (hc : Simple cs) :
    (writeSingle folds indent cs p).IsSimple := by
  have quote : Simple "'".toList := .of_all (by decide)
  have passed (folds : Bool) {parts : List (List Char)} (sub : parts ⊆ runs cs) {q : Pen}
      (hq : q.IsSimple) : (parts.foldl (putSingle folds indent) q).IsSimple :=
    hq.foldl fun _ mem _ hq => isSimple_putSingle hq (simple_of_mem_runs hc (sub mem))
  have first := passed false (List.take_subset 1 _) (h.sign quote)
  have middle := passed folds (fun _ mem =>
    List.mem_of_mem_drop (List.dropLast_subset ((runs cs).drop 1) mem)) first
  refine (passed false (fun part mem => ?_) middle).close quote
  rw [Option.mem_toList] at mem
  exact List.mem_of_mem_drop (List.mem_of_getLast? mem)

theorem simple_of_isPlain {c : Char} (h : isPlain c = true) : isSimple c = true := by
  simp only [isPlain, Bool.and_eq_true] at h
  simp only [isSimple, Bool.or_eq_true, Bool.and_eq_true]
  exact .inr ⟨h.1.2, h.2⟩

theorem simple_hexadecimal (width n : Nat) : Simple (hexadecimal width n) := by
  have digit : ∀ k < 16, isSimple (Text.hexDigit k).toUpper = true := by decide
  induction width generalizing n
  case zero => exact .nil
  case succ width ih =>
    rw [hexadecimal, Text.hexadecimal, List.map_append]
    exact (ih _).append (.cons (digit _ (Nat.mod_lt n (by decide))) .nil)

theorem isSimple_of_lookup {c l : Char} {table : List (Char × Char)}
    (found : table.lookup c = some l) (all : table.all (fun e => isSimple e.2) = true) :
    isSimple l = true := by
  have ⟨_, _, split, _⟩ := List.lookup_eq_some_iff.mp found
  exact List.all_eq_true.mp all (c, l) (split ▸ List.mem_append_right _ List.mem_cons_self)

theorem simple_escape (c : Char) : Simple (escape c) := by
  unfold escape
  split
  case isTrue plain => exact .cons (simple_of_isPlain plain) .nil
  case isFalse =>
    split
    case h_1 l found =>
      exact .cons rfl (.cons (isSimple_of_lookup found (by decide)) .nil)
    case h_2 =>
      split
      case isTrue => exact .cons rfl (.cons rfl (simple_hexadecimal _ _))
      case isFalse =>
        split
        case isTrue  => exact .cons rfl (.cons rfl (simple_hexadecimal _ _))
        case isFalse => exact .cons rfl (.cons rfl (simple_hexadecimal _ _))

theorem isSimple_breakDouble (h : p.IsSimple) (next : Option Char) :
    (breakDouble indent next p).IsSimple := by
  have slash : Simple ['\\'] := .cons rfl .nil
  unfold breakDouble
  dsimp only
  split
  case isTrue  => exact ((h.put slash).fold indent).put slash
  case isFalse => exact (h.put slash).fold indent

theorem isSimple_putDouble {isFirst : Bool} {waiting : List Char} (h : p.IsSimple)
    (hw : Simple waiting) : (putDouble folds indent isFirst cs waiting p).IsSimple := by
  induction cs generalizing isFirst waiting p
  case nil => exact h.put hw.reverse
  case cons c rest ih =>
    unfold putDouble
    dsimp only
    split
    -- Runs of plain characters wait until something has to be written before the next one.
    case isTrue plain =>
      have simple := simple_of_isPlain plain
      split
      case isTrue  => exact ih (isSimple_breakDouble (h.put hw.reverse) _) (.cons simple .nil)
      case isFalse => exact ih h (.cons simple hw)
    case isFalse =>
      have escaped := (h.put hw.reverse).put (simple_escape c)
      refine ih ?_ .nil
      split
      case isTrue  => exact isSimple_breakDouble escaped _
      case isFalse => exact escaped

theorem isSimple_writeDouble (h : p.IsSimple) : (writeDouble folds indent cs p).IsSimple := by
  have quote : Simple "\"".toList := .of_all (by decide)
  exact (isSimple_putDouble (h.sign quote) .nil).close quote

theorem isSimple_writeLines {lines : List (List Char)} (h : p.IsSimple)
    (hl : ∀ line ∈ lines, Simple line) : (writeLines indent lines p).IsSimple :=
  (h.sign (.of_all (by decide))).newLine.foldl fun line mem _ hq =>
    ((hq.toIndent indent).put (hl line mem)).newLine

end Style

namespace Printer

def KeepsSimple (w : Writing) : Prop :=
  ∀ (place : Place) (p : Pen), p.IsSimple → (w place p).IsSimple

variable {p : Pen} {style : Style} {s : String}

theorem simple_encode (os : List UInt8) : Simple (Base64.encode os) := by
  have all : ∀ k < 64, isSimple (Base64.alphabet.getD k 'A') = true := by decide +kernel
  have letter (n : Nat) : isSimple (Base64.letter n) = true := all _ (Nat.mod_lt n (by decide))
  fun_induction Base64.encode os
  case case1 ih =>
    exact .cons (letter _) (.cons (letter _) (.cons (letter _) (.cons (letter _) ih)))
  case case2 =>
    exact .cons (letter _) (.cons (letter _) (.cons (letter _) (.cons rfl .nil)))
  case case3 =>
    exact .cons (letter _) (.cons (letter _) (.cons rfl (.cons rfl .nil)))
  case case4 => exact .nil

theorem simple_double (x : Float) : Simple (double x).toList := by
  have digits := Simple.of_isNumeric (Decimal.isNumeric_ofFloat x)
  unfold double
  dsimp only
  split
  case isTrue  => exact .of_all (by decide)
  case isFalse =>
    split
    case isTrue  => exact .of_all (by decide)
    case isFalse =>
      split
      case isTrue  => exact .of_all (by decide)
      case isFalse =>
        split
        case isTrue =>
          rw [String.toList_ofList]
          exact digits
        case isFalse =>
          rw [String.toList_ofList]
          refine .append (.append ?front (.of_all (by decide))) ?back
          case front => exact digits.subset (List.takeWhile_sublist _).subset
          case back  => exact digits.subset (List.dropWhile_sublist _).subset

theorem simple_number (n : Number) : Simple (number n).toList := by
  cases n
  case bool b =>
    cases b
    case false => exact .of_all (by decide)
    case true  => exact .of_all (by decide)
  case int i =>
    cases i
    case ofNat n   => exact .of_isNumeric (.toString n)
    case negSucc n =>
      refine .of_isNumeric (s := "-" ++ toString (n + 1)) (.append ?_ (.toString _))
      exact List.all_eq_true.mp (by decide)
  case float x _ => exact simple_double x

theorem keepsSimple_scalar (h : style = .double ∨ Simple s.toList) :
    KeepsSimple (scalar style s) := by
  intro place p hp
  cases style
  case bare   => exact Style.isSimple_writeBare hp (h.resolve_left (by decide))
  case single => exact Style.isSimple_writeSingle hp (h.resolve_left (by decide))
  case double => exact Style.isSimple_writeDouble hp

theorem keepsSimple_text (s : String) : KeepsSimple (text s) := by
  intro place
  refine keepsSimple_scalar ?_ place
  have single (h : Style.allowsSingle s.toList = true) : Simple s.toList := by
    simp only [Style.allowsSingle, Bool.and_eq_true] at h
    exact .of_all h.1.1
  unfold Style.ofText
  dsimp only
  split
  case isTrue bare =>
    simp only [Style.allowsBare, Bool.and_eq_true] at bare
    exact .inr (single bare.2.1.1.1)
  case isFalse =>
    split
    case isTrue allowed => exact .inr (single (Bool.and_eq_true _ _ ▸ allowed).1)
    -- Between double quotes all that is not plain is escaped.
    case isFalse => exact .inl rfl

theorem keepsSimple_octets (os : List UInt8) : KeepsSimple (octets os) := by
  intro place p hp
  have signed := hp.sign (s := "!!binary") (.of_all (by decide))
  unfold octets
  dsimp only
  split
  case isTrue => exact keepsSimple_scalar (.inl rfl) place _ signed
  case isFalse =>
    refine Style.isSimple_writeLines signed fun line mem => ?_
    have ⟨group, _, encoded⟩ := List.mem_map.mp mem
    exact encoded ▸ simple_encode group

theorem isSimple_tagged {tag : Option String} (hp : p.IsSimple)
    (ht : ∀ t ∈ tag, Simple t.toList) : (tagged tag p).IsSimple := by
  cases tag
  case none   => exact hp
  case some t => exact hp.sign (ht t rfl)

theorem keepsSimple_sequence {tag : Option String} {items : List Writing}
    (ht : ∀ t ∈ tag, Simple t.toList) (h : ∀ item ∈ items, KeepsSimple item) :
    KeepsSimple (sequence tag items) := by
  intro place p hp
  have begun := isSimple_tagged hp ht
  unfold sequence
  dsimp only
  split
  case isTrue  => exact begun.sign (.of_all (by decide))
  case isFalse =>
    exact begun.foldl fun item mem _ hq =>
      h item mem _ _ ((hq.toIndent _).opener (.of_all (by decide)))

theorem isSimple_entry {key : Value} {writeKey writeValue : Writing} (indent : Nat)
    (hk : KeepsSimple writeKey) (hv : KeepsSimple writeValue) (hp : p.IsSimple) :
    (entry indent key writeKey writeValue p).IsSimple := by
  have colon : Simple ":".toList := .of_all (by decide)
  have mark : Simple "?".toList := .of_all (by decide)
  have begun := hp.toIndent indent
  unfold entry
  dsimp only
  split
  case isTrue  => exact hv _ _ ((hk _ _ begun).close colon)
  case isFalse => exact hv _ _ (((hk _ _ (begun.opener mark)).toIndent indent).opener colon)

theorem mem_of_mem_sorted {α : Type} {entries : List (Value × α)} {e : Value × α}
    (mem : e ∈ sorted entries) : e ∈ entries := by
  unfold sorted at mem
  split at mem
  case isTrue  => exact List.mem_mergeSort.mp mem
  case isFalse => exact mem

theorem keepsSimple_mapping {tag : Option String} {entries : List (Value × Writing × Writing)}
    (ht : ∀ t ∈ tag, Simple t.toList)
    (h : ∀ e ∈ entries, KeepsSimple e.2.1 ∧ KeepsSimple e.2.2) :
    KeepsSimple (mapping tag entries) := by
  intro place p hp
  have begun := isSimple_tagged hp ht
  unfold mapping
  dsimp only
  split
  case isTrue  => exact begun.sign (.of_all (by decide))
  case isFalse =>
    refine begun.foldl fun e mem _ hq => ?_
    have ⟨hk, hv⟩ := h e (mem_of_mem_sorted mem)
    exact isSimple_entry _ hk hv hq

theorem keepsSimple_null : KeepsSimple (scalar .bare "null") :=
  keepsSimple_scalar (.inr (.of_all (by decide)))

theorem simple_of_mem_none (t : String) (mem : t ∈ (none : Option String)) : Simple t.toList := by
  cases mem

theorem simple_of_mem_some (known : s.toList.all isSimple = true) (t : String)
    (mem : t ∈ some s) : Simple t.toList := by
  cases mem
  exact .of_all known

mutual

theorem keepsSimple_value (v : Value) : KeepsSimple (value v) := by
  cases v
  case null         => exact keepsSimple_null
  case number n     => exact keepsSimple_scalar (.inr (simple_number n))
  case text s       => exact keepsSimple_text s
  case bytes os     => exact keepsSimple_octets os
  case list items   => exact keepsSimple_sequence simple_of_mem_none (keepsSimple_values items)
  case tuple items  =>
    exact keepsSimple_sequence (simple_of_mem_some (by decide)) (keepsSimple_values items)
  case dict entries =>
    exact keepsSimple_mapping simple_of_mem_none (keepsSimple_entryWritings entries)
  case set items    =>
    exact keepsSimple_mapping (simple_of_mem_some (by decide)) (keepsSimple_memberWritings items)
  all_goals exact keepsSimple_mapping (simple_of_mem_some (by decide)) (by simp)

theorem keepsSimple_values (vs : List Value) : ∀ w ∈ values vs, KeepsSimple w := by
  cases vs
  case nil => simp [values]
  case cons v rest =>
    rw [values, List.forall_mem_cons]
    exact ⟨keepsSimple_value v, keepsSimple_values rest⟩

theorem keepsSimple_entryWritings (es : List (Value × Value)) :
    ∀ e ∈ entryWritings es, KeepsSimple e.2.1 ∧ KeepsSimple e.2.2 := by
  cases es
  case nil => simp [entryWritings]
  case cons e rest =>
    have ⟨k, v⟩ := e
    rw [entryWritings, List.forall_mem_cons]
    exact ⟨⟨keepsSimple_value k, keepsSimple_value v⟩, keepsSimple_entryWritings rest⟩

theorem keepsSimple_memberWritings (vs : List Value) :
    ∀ e ∈ memberWritings vs, KeepsSimple e.2.1 ∧ KeepsSimple e.2.2 := by
  cases vs
  case nil => simp [memberWritings]
  case cons v rest =>
    rw [memberWritings, List.forall_mem_cons]
    exact ⟨⟨keepsSimple_value v, keepsSimple_null⟩, keepsSimple_memberWritings rest⟩

end

theorem isSimple_document (v : Value) : (document v).IsSimple := by
  have written : ((value v ⟨none, false, false⟩ Pen.start).toIndent 0).IsSimple :=
    Pen.IsSimple.toIndent (keepsSimple_value v _ _ .start) 0
  unfold document
  dsimp only
  split
  case isTrue  => exact (written.sign (.of_all (by decide))).toIndent 0
  case isFalse => exact written

end Printer

-- Whatever is written, it is ASCII characters that can be seen, spaces and line feeds.
theorem simple_write (v : Value) : Simple (write v).toList := by
  rw [write, Pen.text, String.toList_ofList]
  exact (Printer.isSimple_document v).reverse

end Yaml

namespace FileFormat

theorem feedsLines_yaml (v : Value) : FileFormat.yaml.FeedsLines v := by
  intro mem
  have simple : Yaml.Simple (FileFormat.yaml.write v).1.toList := by
    unfold yaml
    dsimp only
    split
    case h_1 => exact Yaml.simple_write v
    case h_2 => exact .nil
  exact absurd (simple _ mem) (by decide)

end FileFormat

end BoundedWait
