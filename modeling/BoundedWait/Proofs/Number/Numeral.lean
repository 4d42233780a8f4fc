import BoundedWait.Decimal.Shortest

namespace BoundedWait

namespace Decimal

def isNumeral (c : Char) : Bool :=
  c.isDigit || "+-.aefin".toList.contains c

def IsNumeric (s : String) : Prop :=
  ∀ c ∈ s.toList, isNumeral c = true

namespace IsNumeric

variable {s t : String} {cs : List Char}

theorem of_all (h : s.toList.all isNumeral = true) : IsNumeric s :=
  List.all_eq_true.mp h

theorem append (hs : IsNumeric s) (ht : IsNumeric t) : IsNumeric (s ++ t) := by
  intro c mem
  rw [String.toList_append, List.mem_append] at mem
  exact mem.elim (hs c) (ht c)

theorem part (hs : IsNumeric s) (sub : cs ⊆ s.toList) : IsNumeric (String.ofList cs) := by
  intro c mem
  rw [String.toList_ofList] at mem
  exact hs c (sub mem)

theorem zeros (n : Nat) : IsNumeric (zeros n) := by
  intro c mem
  rw [Decimal.zeros, String.toList_ofList, List.mem_replicate] at mem
  rw [mem.2]
  decide

theorem toString (n : Nat) : IsNumeric (toString n) := by
  intro c mem
  have digit := Nat.isDigit_of_mem_toDigits (by decide) (by decide) (Nat.toList_repr ▸ mem)
  rw [isNumeral, digit, Bool.true_or]

theorem padLeft (width : Nat) (hs : IsNumeric s) : IsNumeric (padLeft width s) :=
  (zeros _).append hs

theorem trimZeros (hs : IsNumeric s) : IsNumeric (trimZeros s) := by
  rw [Decimal.trimZeros]
  split
  case isTrue =>
    intro c mem
    rw [String.toList_ofList, List.mem_singleton] at mem
    rw [mem]
    decide
  case isFalse =>
    refine hs.part fun c mem => ?_
    rw [List.mem_reverse] at mem
    exact List.mem_reverse.mp ((List.dropWhile_sublist _).subset mem)

end IsNumeric

theorem Layout.isNumeric_write (l : Layout) {digits : String} (lead : Int)
    (h : IsNumeric digits) : IsNumeric (l.write digits lead) := by
  have front (n : Nat) := h.part (List.take_subset n _)
  have back (n : Nat) := h.part (List.drop_subset n _)
  have point : IsNumeric "." := .of_all (by decide)
  rw [write]
  dsimp only
  split
  case isTrue =>
    refine .append (.append (.append ?head (.of_all (by decide))) ?sign) (.padLeft _ (.toString _))
    case head =>
      split
      case isTrue  => exact front 1
      case isFalse => exact ((front 1).append point).append (back 1)
    case sign =>
      split
      case isTrue  => exact .of_all (by decide)
      case isFalse => exact .of_all (by decide)
  case isFalse =>
    split
    case isTrue  => exact .append (.append (.of_all (by decide)) (.zeros _)) h
    case isFalse =>
      refine .append (((front _).append (.zeros _)).append point) ?_
      split
      case isTrue  => exact .of_all (by decide)
      case isFalse => exact back _

theorem isNumeric_ofFloat (x : Float) : IsNumeric (ofFloat x) := by
  have sign (negative : Bool) : IsNumeric (if negative then "-" else "") := by
    cases negative
    case false => exact .of_all (by decide)
    case true  => exact .of_all (by decide)
  rw [ofFloat]
  split
  case h_1 =>
    split
    case isTrue  => exact .of_all (by decide)
    case isFalse =>
      split
      case isTrue  => exact .of_all (by decide)
      case isFalse => exact .of_all (by decide)
  case h_2 u _ =>
    dsimp only
    split
    case isTrue  => exact (sign u.negative).append (.of_all (by decide))
    case isFalse =>
      have digits (n : Nat) := IsNumeric.trimZeros (.toString n)
      exact (sign u.negative).append (layout.isNumeric_write _ (digits _))

end Decimal

end BoundedWait
