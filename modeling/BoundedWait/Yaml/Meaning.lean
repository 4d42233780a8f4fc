import BoundedWait.Text.Base64
import BoundedWait.Value.Membership
import BoundedWait.Value.Moment
import BoundedWait.Yaml.Document
import BoundedWait.Yaml.Merge
import BoundedWait.Yaml.Numeral

namespace BoundedWait

namespace Yaml

-- What is known of the value of a node. The parts of collections are nodes again, but for keys and
-- the items of sets, which are read at once.
inductive Part where
  | whole (v : Value)
  | list (items : List Nat)
  | pairs (items : List (Nat × Nat))
  | dict (entries : List (Value × Nat))
  | set (items : List Value)

namespace Part

def ofCollection? : Kind → Option Part
  | .sequence     => some (.list [])
  | .mapping      => some (.dict [])
  | .pairs        => some (.pairs [])
  | .orderedPairs => some (.pairs [])
  | .set          => some (.set [])
  | _             => none

def key? : Part → Option Value
  | whole v => some v
  | _       => none

def ellipsis : Part → Value
  | dict _ => inside "dict" "\x7b...\x7d"
  | _      => inside "list" "[...]"
where
  inside (type shown : String) : Value :=
    let unhashable := .likeness 0 (.error (Misuse.unhashable type).fault)
    .object (.mk 0 type (.ok shown) unhashable (.ok true))

end Part

namespace Graph

-- The text of a node; that of a mapping is what it assigns.
def text (g : Graph) : Nat → Nat → Except Error String
  | 0, _     => .error (.misread .nestedTooDeep)
  | n + 1, i =>
    match g.content? i with
    | some (.text s)     => .ok s
    | some (.entries es) =>
      match es.find? fun e => g.kind? e.1 == some .assignment with
      | some (_, v) => text g n v
      | none        => .error .wrongKind
    | _ => .error .wrongKind

end Graph

def flag (s : String) : Except Error Bool :=
  let word := Text.lower s
  if ["yes", "true", "on"].contains word then .ok true
  else if ["no", "false", "off"].contains word then .ok false
  else .error (.unknownWord word)

def moment (s : String) : Except Error Value :=
  match Moment.ofChars? (Plain.withoutLineBreak s.toList) with
  | none   => .error (.misread (.noAttribute "NoneType" "groupdict"))
  | some m =>
    match m.check with
    | .ok _    => .ok m.toValue
    | .error e => .error (.noSuchMoment e)

def octets (s : String) : Except Error Value :=
  match Base64.decode? s with
  | some octets => .ok (.bytes octets)
  | none        => .error .wrongKind

-- The value of a text of some kind. The mark tells an undefined number from others.
def scalar (mark : Nat) (s : String) : Kind → Except Error Value
  | .null    => .ok .null
  | .flag    => Value.bool <$> flag s
  | .integer => Value.int <$> Numeral.integer s
  | .double  => Value.number <$> Numeral.double mark s
  | .moment  => moment s
  | .text    => .ok (.text s)
  | .octets  => octets s
  | _        => .error .unknownTag

def isForKeysOnly (k : Kind) : Bool :=
  k == .merge || k == .assignment

structure Assembly where
  graph   : Graph
  parts   : Array (Option Part)
  waiting : List Nat

abbrev Assembling := StateT Assembly (Except Error)

namespace Assembling

def fail {α : Type} (e : Error) : Assembling α :=
  fun _ => .error e

def of {α : Type} (r : Except Error α) : Assembling α :=
  fun s => r.map (·, s)

def settle (i : Nat) (part : Part) : Assembling Unit :=
  modify fun s => { s with parts := s.parts.setIfInBounds i (some part) }

-- A moment is looked for in what a node holds, which must not be a mapping that assigns a text.
def checkSearchable (g : Graph) (i : Nat) (k : Kind) : Except Error Unit :=
  if k == .moment && g.isMapping i then .error (.misread (.notSearchable "list")) else .ok ()

-- Meets a node: reads it if it is a scalar, and lets it wait for its parts if it is a collection.
-- An undefined number is marked by its node, so that it is itself wherever the node is referred to.
def start (i : Nat) : Assembling Part := do
  let s ← get
  match s.parts[i]?.join with
  | some part => return part
  | none      =>
    match s.graph.kind? i with
    | none   => fail .unknownTag
    | some k =>
      match Part.ofCollection? k with
      | some part => do
        settle i part
        modify fun s => { s with waiting := s.waiting ++ [i] }
        return part
      | none => do
        if isForKeysOnly k then fail .unknownTag
        let text ← of (s.graph.text (s.graph.size + 1) i)
        of (checkSearchable s.graph i k)
        let part := Part.whole (← of (scalar (i + 2) text k))
        settle i part
        return part

def startKey (i : Nat) : Assembling Value := do
  match (← start i).key? with
  | some v => return v
  | none   => fail .unhashableKey

def readItems : List Nat → Assembling Unit
  | []      => return ()
  | i :: is => do
    let _ ← start i
    readItems is

def readPairs : List Nat → Assembling (List (Nat × Nat))
  | []      => return []
  | i :: is => do
    match (← get).graph.entries i with
    | [(k, v)] => do
      let _ ← start k
      let _ ← start v
      return (k, v) :: (← readPairs is)
    | _ => fail .wrongKind

def readEntries : List (Nat × Nat) → List (Value × Nat) → Assembling (List (Value × Nat))
  | [], done           => return done
  | (k, v) :: es, done => do
    let key ← startKey k
    let _   ← start v
    readEntries es (Value.insert done key v)

def itemsOf (i : Nat) : Assembling (List Nat) := do
  match (← get).graph.content? i with
  | some (.items is) => return is
  | _                => fail .wrongKind

def entriesOf (i : Nat) : Assembling (List (Value × Nat)) := do
  let g ← get
  if !g.graph.isMapping i then fail .wrongKind
  let graph ← of (g.graph.merge i)
  modify fun s => { s with graph }
  readEntries (graph.entries i) []

def fill (i : Nat) : Assembling Unit := do
  match (← get).parts[i]?.join with
  | some (.list _)  => do
    let items ← itemsOf i
    readItems items
    settle i (.list items)
  | some (.pairs _) => do settle i (.pairs (← readPairs (← itemsOf i)))
  | some (.dict _)  => do settle i (.dict (← entriesOf i))
  | some (.set _)   => do settle i (.set ((← entriesOf i).map (·.1)))
  | _               => return ()

-- Gives all collections their parts that are still waiting for them. Each waits once.
def fillAll : Nat → Assembling Unit
  | 0     => return ()
  | n + 1 => do
    match (← get).waiting with
    | []           => return ()
    | i :: waiting => do
      modify fun s => { s with waiting }
      fill i
      fillAll n

end Assembling

abbrev Joining := StateM (Array (Option Value))

def join (parts : Array (Option Part)) : Nat → List Nat → Nat → Joining Value
  | 0, _, _        => return .null
  | n + 1, path, i => do
    match (← get)[i]?.join, parts[i]?.join with
    | some v, _       => return v
    | none, none      => return .null
    | none, some part =>
      if path.contains i then return part.ellipsis
      else
        let inner := join parts n (i :: path)
        let v ← match part with
          | .whole v    => pure v
          | .set items  => pure (.set items)
          | .list items => do pure (.list (← items.mapM inner))
          | .pairs items => do
            pure (.list (← items.mapM fun (k, v) => do return .tuple [← inner k, ← inner v]))
          | .dict entries => do
            pure (.dict (← entries.mapM fun (k, v) => do return (k, ← inner v)))
        modify (·.setIfInBounds i (some v))
        return v

namespace Document

def value (d : Document) : Except Error Value := do
  let size := d.graph.size
  let task : Assembling Unit := do
    let _ ← Assembling.start d.root
    Assembling.fillAll size
  let (_, s) ← task ⟨d.graph, Array.replicate size none, []⟩
  return (join s.parts (size + 1) [] d.root (Array.replicate size none)).1

theorem value_text (s : String) :
    value ⟨Graph.empty.add ⟨some .text, .text s⟩, 0⟩ = .ok (.text s) := rfl

end Document

def read (s : String) : Except Fault Value :=
  let value : Except Error Value := do
    match ← Document.ofText s with
    | some document => document.value
    | none          => return .null
  value.mapError Error.fault

theorem read_of_unprintable {s : String} (h : s.toList.all isPrintable = false) :
    read s = .error Error.unprintable.fault := by
  simp only [read, Document.ofText_of_unprintable h]
  rfl

end Yaml

end BoundedWait
