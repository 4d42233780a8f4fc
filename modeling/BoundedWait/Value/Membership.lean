import BoundedWait.Value.Hash

namespace BoundedWait

def occursIn [BEq α] (piece : List α) : List α → Bool
  | []         => piece.isEmpty
  | whole@(_ :: rest) => piece.isPrefixOf whole || occursIn piece rest

theorem occursIn_nil [BEq α] (whole : List α) : occursIn [] whole = true := by
  cases whole <;> simp [occursIn]

namespace Value

def lookup? {α : Type} (entries : List (Value × α)) (key : Value) : Option α :=
  (entries.find? fun entry => key.agrees entry.1).map (·.2)

-- Sets the entry under a key, which stays where it is if there is one.
def insert {α : Type} (entries : List (Value × α)) (key : Value) (value : α) :
    List (Value × α) :=
  if entries.any fun entry => key.agrees entry.1 then
    entries.map fun entry => if key.agrees entry.1 then (entry.1, value) else entry
  else entries ++ [(key, value)]

def ofOctet (item : Value) : Except Fault (List UInt8) :=
  match item with
  | .bytes octets     => .ok octets
  | .bytearray octets => .ok octets
  | .number n         =>
    match n.integral? with
    | some i =>
      if 0 ≤ i && i < 256 then .ok [UInt8.ofNat i.toNat] else .error Misuse.octetRange.fault
    | none => .error (Misuse.notBytesLike n.typeName).fault
  | v => .error (Misuse.notBytesLike v.typeName).fault

-- A set is looked for in another one as what it would be if it could not be changed.
def sought : Value → Value
  | .set items => .frozenset items
  | v          => v

def isIn (item container : Value) : Except Fault Bool :=
  match container with
  | .text s =>
    match item with
    | .text t => .ok (occursIn t.toList s.toList)
    | v       => .error (Misuse.notText v.typeName).fault
  | .bytes octets     => do return occursIn (← ofOctet item) octets
  | .bytearray octets => do return occursIn (← ofOctet item) octets
  | .list items       => .ok (items.any item.agrees)
  | .tuple items      => .ok (items.any item.agrees)
  | .dict entries => do
    let _ ← item.digest
    return (lookup? entries item).isSome
  | .set items | .frozenset items => do
    let _ ← item.sought.digest
    return items.any item.agrees
  | v => .error (Misuse.notIterable v.typeName).fault

theorem isIn_list (item : Value) (items : List Value) :
    item.isIn (.list items) = .ok (items.any item.agrees) := rfl

end Value

end BoundedWait
