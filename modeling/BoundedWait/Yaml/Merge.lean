import BoundedWait.Yaml.Error
import BoundedWait.Yaml.Graph

namespace BoundedWait

namespace Yaml

namespace Graph

def splitMerge? (g : Graph) : List (Nat × Nat) → Option (Nat × List (Nat × Nat))
  | []           => none
  | (k, v) :: es =>
    if g.kind? k == some .merge then some (v, es)
    else (splitMerge? g es).map fun (source, others) => (source, (k, v) :: others)

def asTexts (g : Graph) (keys : List Nat) : Graph :=
  keys.foldl (fun g k => if g.kind? k == some .assignment then g.setKind k .text else g) g

def takeAll (merge : Nat → Graph → Except Error Graph) :
    List Nat → Graph → Except Error (List (Nat × Nat) × Graph)
  | [], g      => .ok ([], g)
  | i :: is, g => do
    if !g.isMapping i then throw .wrongKind
    let g ← merge i g
    let (others, after) ← takeAll merge is g
    return (others ++ g.entries i, after)

def takeFrom (merge : Nat → Graph → Except Error Graph) (source : Nat) (g : Graph) :
    Except Error (List (Nat × Nat) × Graph) :=
  match g.content? source with
  | some (.items is) => takeAll merge is g
  | _                => takeAll merge [source] g

-- Merges the sources of a mapping. A step takes one of the keys for merges away.
def mergeSources : Nat → Nat → Graph → Except Error Graph
  | 0, _, _     => .error (.misread .nestedTooDeep)
  | n + 1, i, g =>
    match g.splitMerge? (g.entries i) with
    | none => .ok (g.asTexts ((g.entries i).map (·.1)))
    | some (source, own) => do
      let (taken, g) ← takeFrom (mergeSources n) source (g.setContent i (.entries own))
      let g ← mergeSources n i g
      return g.setContent i (.entries (taken ++ g.entries i))

def mergeCount (g : Graph) : Nat :=
  (List.range g.size).foldl
    (fun n i => n + (g.entries i).countP fun e => g.kind? e.1 == some .merge) 0

def merge (g : Graph) (i : Nat) : Except Error Graph :=
  mergeSources (g.mergeCount + 1) i g

theorem merge_of_plain {g : Graph} {i : Nat} (hm : g.splitMerge? (g.entries i) = none)
    (ha : g.asTexts ((g.entries i).map (·.1)) = g) : g.merge i = .ok g := by
  simp [merge, mergeSources, hm, ha]

end Graph

end Yaml

end BoundedWait
