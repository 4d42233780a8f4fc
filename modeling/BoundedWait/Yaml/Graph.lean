import BoundedWait.Yaml.Kind

namespace BoundedWait

namespace Yaml

inductive Content where
  | text (s : String)
  | items (parts : List Nat)
  | entries (parts : List (Nat × Nat))
deriving DecidableEq, Repr

-- A node with a tag that stands for nothing known has no kind.
structure Node where
  kind    : Option Kind
  content : Content
deriving DecidableEq, Repr

structure Graph where
  nodes : Array Node

namespace Graph

def empty : Graph :=
  ⟨#[]⟩

def size (g : Graph) : Nat :=
  g.nodes.size

def node? (g : Graph) (i : Nat) : Option Node :=
  g.nodes[i]?

def add (g : Graph) (n : Node) : Graph :=
  ⟨g.nodes.push n⟩

def set (g : Graph) (i : Nat) (n : Node) : Graph :=
  ⟨g.nodes.setIfInBounds i n⟩

@[simp]
theorem size_add (g : Graph) (n : Node) : (g.add n).size = g.size + 1 := by
  simp [add, size]

@[simp]
theorem size_set (g : Graph) (i : Nat) (n : Node) : (g.set i n).size = g.size := by
  simp [set, size]

theorem node?_add (g : Graph) (n : Node) (i : Nat) :
    (g.add n).node? i = if i = g.size then some n else g.node? i := by
  simp only [add, node?, size, Array.getElem?_push]
  rfl

theorem node?_set (g : Graph) (n : Node) (i j : Nat) :
    (g.set i n).node? j = if i = j ∧ i < g.size then some n else g.node? j := by
  simp only [set, node?, size, Array.getElem?_setIfInBounds]
  split
  case isTrue h =>
    subst h
    split <;> simp_all
  case isFalse h => simp [h]

def kind? (g : Graph) (i : Nat) : Option Kind :=
  (g.node? i).bind (·.kind)

def content? (g : Graph) (i : Nat) : Option Content :=
  (g.node? i).map (·.content)

def entries (g : Graph) (i : Nat) : List (Nat × Nat) :=
  match g.content? i with
  | some (.entries es) => es
  | _                  => []

def isMapping (g : Graph) (i : Nat) : Bool :=
  match g.content? i with
  | some (.entries _) => true
  | _                 => false

def setContent (g : Graph) (i : Nat) (content : Content) : Graph :=
  match g.node? i with
  | some n => g.set i { n with content }
  | none   => g

def setKind (g : Graph) (i : Nat) (kind : Kind) : Graph :=
  match g.node? i with
  | some n => g.set i { n with kind := some kind }
  | none   => g

end Graph

end Yaml

end BoundedWait
