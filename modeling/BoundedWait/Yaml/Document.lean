import BoundedWait.Yaml.Graph
import BoundedWait.Yaml.Plain
import BoundedWait.Yaml.Token

namespace BoundedWait

namespace Yaml

-- The tokens that are left, what handles stand for, the nodes, those of them that have a name, and
-- how many more nodes may lie in one another here.
structure Composition where
  tokens  : List Token
  handles : Handles
  graph   : Graph
  named   : List (String × Nat)
  levels  : Nat

abbrev Composing := StateT Composition (Except Error)

namespace Composing

def fail {α : Type} (e : Error) : Composing α :=
  fun _ => .error e

-- The next token. The reason why there is none is an error.
def peek : Composing Token :=
  fun c =>
    match c.tokens with
    | []             => .ok (.streamEnd, c)
    | .broken e :: _ => .error e
    | t :: _         => .ok (t, c)

def drop : Composing Unit :=
  fun c => .ok ((), { c with tokens := c.tokens.drop 1 })

def isNext (tokens : List Token) : Composing Bool := do
  return tokens.contains (← peek)

def take? (token : Token) : Composing Bool := do
  if (← peek) == token then
    drop
    return true
  else return false

def expect (token : Token) : Composing Unit := do
  if !(← take? token) then fail .unexpectedToken

def anchor? : Composing (Option String) := do
  match ← peek with
  | .anchor name => do
    drop
    return some name
  | _ => return none

def tag? : Composing (Option Tag) := do
  match ← peek with
  | .tag tag => do
    drop
    return some tag
  | _ => return none

-- The name and the tag that stand in front of a node, in either order.
def properties : Composing (Option String × Option Tag) := do
  match ← anchor? with
  | some name => return (some name, ← tag?)
  | none      =>
    match ← tag? with
    | some tag => return (← anchor?, some tag)
    | none     => return (none, none)

def tagName (tag : Option Tag) : Composing (Option String) := do
  match tag with
  | none     => return none
  | some tag =>
    match tag.name? (← get).handles with
    | some name => return some name
    | none      => fail .unknownTagHandle

-- A tag that leaves it to the form of a node of what kind it is.
def saysNothing (tag : Option String) : Bool :=
  tag.isNone || tag == some "!"

-- The kind that a tag names, or else the one that the form shows.
def kindOf (tag : Option String) (form : Option Kind) : Option Kind :=
  if saysNothing tag then form else tag.bind Kind.ofTag?

inductive Position where
  | block
  | entry
  | flow
deriving DecidableEq

def checkName (name : Option String) : Composing Unit := do
  match name with
  | some n => if ((← get).named.lookup n).isSome then fail .repeatedAnchor
  | none   => return ()

def add (name : Option String) (node : Node) : Composing Nat :=
  fun c => .ok (c.graph.size, { c with
    graph := c.graph.add node
    named := name.toList.map (·, c.graph.size) ++ c.named })

def named (name : String) : Composing Nat := do
  match (← get).named.lookup name with
  | some i => return i
  | none   => fail .undefinedAlias

def scalar (name tag : Option String) (text : String) (bare : Bool) : Composing Nat := do
  checkName name
  let form := if (bare && tag.isNone) || tag == some "!" then Plain.kind text else some .text
  add name ⟨kindOf tag form, .text text⟩

def nothing : Composing Nat :=
  scalar none none "" true

def bareProperties (name tag : Option String) : Composing Nat := do
  if name.isNone && tag.isNone then fail .unexpectedToken
  scalar name tag "" true

def deeper {α : Type} (inner : Composing α) : Composing α :=
  fun c =>
    match c.levels with
    | 0     => .error (.misread .nestedTooDeep)
    | n + 1 => do
      let (x, after) ← inner { c with levels := n }
      return (x, { after with levels := c.levels })

def collection (name tag : Option String) (form : Kind) (parts : Composing Content) :
    Composing Nat := do
  checkName name
  let i ← add name ⟨kindOf tag (some form), .items []⟩
  let content ← deeper parts
  modify fun c => { c with graph := c.graph.setContent i content }
  return i

mutual

def node (position : Position) : Nat → Composing Nat
  | 0     => fail .unexpectedToken
  | n + 1 => do
    match ← peek with
    | .alias name => do
      drop
      named name
    | _ => do
      let (name, tag) ← properties
      let tag ← tagName tag
      match ← peek with
      | .scalar text bare => do
        drop
        scalar name tag text bare
      | .blockEntry =>
        if position = .entry then
          collection name tag .sequence do
            return .items (← indentless n)
        else bareProperties name tag
      | .flowSequenceStart =>
        collection name tag .sequence do
          drop
          return .items (← flowItems true n)
      | .flowMappingStart =>
        collection name tag .mapping do
          drop
          return .entries (← flowEntries true n)
      | .blockSequenceStart =>
        if position = .flow then bareProperties name tag
        else
          collection name tag .sequence do
            drop
            return .items (← blockItems n)
      | .blockMappingStart =>
        if position = .flow then bareProperties name tag
        else
          collection name tag .mapping do
            drop
            return .entries (← blockEntries n)
      | _ => bareProperties name tag

def nodeUnless (position : Position) (stops : List Token) : Nat → Composing Nat
  | 0     => fail .unexpectedToken
  | n + 1 => do
    if ← isNext stops then nothing else node position n

def blockItems : Nat → Composing (List Nat)
  | 0     => fail .unexpectedToken
  | n + 1 => do
    if ← take? .blockEntry then
      let item ← nodeUnless .block [.blockEntry, .blockEnd] n
      return item :: (← blockItems n)
    else
      expect .blockEnd
      return []

-- Items of a sequence that is not indented further than the key in front of it.
def indentless : Nat → Composing (List Nat)
  | 0     => fail .unexpectedToken
  | n + 1 => do
    if ← take? .blockEntry then
      let item ← nodeUnless .block [.blockEntry, .key, .value, .blockEnd] n
      return item :: (← indentless n)
    else return []

def blockEntries : Nat → Composing (List (Nat × Nat))
  | 0     => fail .unexpectedToken
  | n + 1 => do
    let stops := [Token.key, .value, .blockEnd]
    if ← take? .key then
      let key ← nodeUnless .entry stops n
      let value ← if ← take? .value then nodeUnless .entry stops n else nothing
      return (key, value) :: (← blockEntries n)
    else
      expect .blockEnd
      return []

def flowValue (stops : List Token) : Nat → Composing Nat
  | 0     => fail .unexpectedToken
  | n + 1 => do
    if ← take? .value then nodeUnless .flow stops n else nothing

-- Items up to the closing bracket. An item with a colon is a mapping of its own.
def flowItems (first : Bool) : Nat → Composing (List Nat)
  | 0     => fail .unexpectedToken
  | n + 1 => do
    if ← take? .flowSequenceEnd then return []
    if !first then expect .flowEntry
    if ← take? .flowSequenceEnd then return []
    if ← take? .key then
      let item ← collection none none .mapping do
        let key ← nodeUnless .flow [.value, .flowEntry, .flowSequenceEnd] n
        return .entries [(key, ← flowValue [.flowEntry, .flowSequenceEnd] n)]
      return item :: (← flowItems false n)
    else
      let item ← node .flow n
      return item :: (← flowItems false n)

def flowEntries (first : Bool) : Nat → Composing (List (Nat × Nat))
  | 0     => fail .unexpectedToken
  | n + 1 => do
    if ← take? .flowMappingEnd then return []
    if !first then expect .flowEntry
    if ← take? .flowMappingEnd then return []
    if ← take? .key then
      let key ← nodeUnless .flow [.value, .flowEntry, .flowMappingEnd] n
      let value ← flowValue [.flowEntry, .flowMappingEnd] n
      return (key, value) :: (← flowEntries false n)
    else
      let key ← node .flow n
      return (key, ← nothing) :: (← flowEntries false n)

end

def directives : Composing (List Directive) :=
  fun c =>
    let found := c.tokens.map fun
      | .directive d => some d
      | _            => none
    let ds := (found.takeWhile (·.isSome)).filterMap id
    .ok (ds, { c with tokens := c.tokens.drop ds.length })

def declare : Composing Unit := do
  match Declarations.ofDirectives (← directives) with
  | .ok d    => modify fun c => { c with handles := d.allHandles }
  | .error e => fail e

-- The start of a document that is not the first one, or that has directives: it has to be marked.
def explicitStart : Composing Bool := do
  modify fun c => { c with tokens := c.tokens.dropWhile (· == .documentEnd) }
  if ← isNext [.streamEnd] then return false
  declare
  expect .documentStart
  return true

def isMarked : Composing Bool := do
  match ← peek with
  | .directive _   => return true
  | .documentStart => return true
  | _              => return false

def marked (fuel : Nat) : Composing Nat := do
  match ← peek with
  | .directive _ => nothing
  | _            => nodeUnless .block [.documentStart, .documentEnd, .streamEnd] fuel

def root (fuel : Nat) : Composing (Option Nat) := do
  if ← isNext [.streamEnd] then return none
  let i ←
    if ← isMarked then do
      let _ ← explicitStart
      marked fuel
    else node .block fuel
  let _ ← take? .documentEnd
  if ← explicitStart then fail .secondDocument
  return some i

end Composing

def isPrintable (c : Char) : Bool :=
  let n := c.toNat
  n == 0x9 || n == 0xA || n == 0xD || n == 0x85 || (0x20 ≤ n && n ≤ 0x7E) ||
    (0xA0 ≤ n && n ≤ 0xD7FF) || (0xE000 ≤ n && n ≤ 0xFFFD) || 0x10000 ≤ n

structure Document where
  graph : Graph
  root  : Nat

namespace Document

def deepest : Nat := 485

-- The document of a text, if there is one. Each step takes a token or goes one level down.
def ofText (s : String) : Except Error (Option Document) := do
  if !s.toList.all isPrintable then throw .unprintable
  let tokens := Token.ofText s
  let start : Composition := ⟨tokens, Handles.standard, Graph.empty, [], deepest⟩
  let (root, c) ← (Composing.root (4 * tokens.length + 4)) start
  return root.map (⟨c.graph, ·⟩)

theorem ofText_of_unprintable {s : String} (h : s.toList.all isPrintable = false) :
    ofText s = .error .unprintable := by
  simp [ofText, h]
  rfl

end Document

end Yaml

end BoundedWait
