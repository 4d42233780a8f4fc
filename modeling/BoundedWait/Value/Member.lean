import BoundedWait.Value.Membership
import BoundedWait.Value.Printer
import BoundedWait.Text.Blank
import BoundedWait.Text.Case

namespace BoundedWait

def splitAround [BEq α] (separator : List α) (whole : List α) : List (List α) :=
  go whole [] whole.length
where
  -- `fuel` is the length of what is left.
  go (rest current : List α) : Nat → List (List α)
    | 0 => [current.reverse ++ rest]
    | fuel + 1 =>
      match rest with
      | [] => [current.reverse]
      | x :: tail =>
        if !separator.isEmpty && separator.isPrefixOf rest then
          current.reverse :: go (rest.drop separator.length) [] fuel
        else go tail (x :: current) fuel

def bitLength (n : Nat) : Nat :=
  if n = 0 then 0 else n.log2 + 1

namespace Value

def methods : String → List String
  | "str"   => ["upper", "lower", "split", "strip", "startswith", "endswith"]
  | "int"   => ["bit_length"]
  | "bool"  => ["bit_length"]
  | "list"  => ["count", "index", "copy"]
  | "tuple" => ["count", "index"]
  | "dict"  => ["get", "keys", "copy"]
  | _       => []

def member (v : Value) (name : String) : Except Fault Value :=
  let absent := .error (Misuse.noAttribute v.typeName name).fault
  if (methods v.typeName).contains name then .ok (.method 0 v name)
  else
    match v with
    | .number n =>
      match n.integral?, name with
      | some i, "real" => .ok (.int i)
      | some _, "imag" => .ok (.int 0)
      | none, "real"   => .ok v
      | none, "imag"   => .ok (.float 0)
      | _, _           => absent
    | .type t =>
      if name == "__name__" || name == "__qualname__" then .ok (.text t) else absent
    | .callable c =>
      let found :=
        match name with
        | "__name__"     => c.name.map .text
        | "__qualname__" => c.qualifiedName.map .text
        | "description"  => c.description
        | _              => none
      match found with
      | some value => .ok value
      | none       => absent
    | _ => absent

def stripped (s : String) : List Value → Except Fault Value
  | []            => .ok (.text (Text.trim s))
  | [.null]       => .ok (.text (Text.trim s))
  | [.text chars] => .ok (.text (Text.trimWith chars.toList.contains s))
  | [_]           => .error (Fault.saying .typeError "strip arg must be None or str")
  | args          => .error (Misuse.tooManyArguments "strip" 1 args.length).fault

def pieces (s : String) : List Value → Except Fault Value
  | []           => .ok (.list ((Text.words s).map .text))
  | [.null]      => .ok (.list ((Text.words s).map .text))
  | [.text sep]  =>
    if sep.isEmpty then .error Misuse.emptySeparator.fault
    else .ok (.list ((splitAround sep.toList s.toList).map fun cs => .text (String.ofList cs)))
  | [v]          =>
    .error (Fault.saying .typeError ("must be str or None, not " ++ v.typeName))
  | args         => .error (Misuse.argumentCount "split" 1 args.length).fault

def anywhere (name : String) (found : List Char → Bool) : List Value → Except Fault Value
  | [.text t]   => .ok (.bool (found t.toList))
  | [.tuple ts] => do return .bool (← among ts)
  | [v]         => .error (Fault.saying .typeError
      (name ++ " first arg must be str or a tuple of str, not " ++ v.typeName))
  | []          => .error (Fault.saying .typeError
      (name ++ "() takes at least 1 argument (0 given)"))
  | args        => .error (Misuse.argumentCount name 1 args.length).fault
where
  -- The texts after the first one that is found do not matter.
  among : List Value → Except Fault Bool
    | []            => .ok false
    | .text t :: ts => if found t.toList then .ok true else among ts
    | v :: _        => .error (Fault.saying .typeError
        ("tuple for " ++ name ++ " must only contain str, not " ++ v.typeName))

def countOf (container : String) (items : List Value) : List Value → Except Fault Value
  | [v]  => .ok (.int (items.countP fun item => v.agrees item))
  | args => .error (Misuse.argumentCount (container ++ ".count") 1 args.length).fault

def indexOf (container : String) (items : List Value) : List Value → Except Fault Value
  | [v]  =>
    match items.findIdx? fun item => v.agrees item with
    | some i => .ok (.int i)
    | none   => do .error (Misuse.notInSequence (← v.inspect) container).fault
  | []   => .error (Misuse.tooFewArguments "index" 1 0).fault
  | args => .error (Misuse.argumentCount (container ++ ".index") 1 args.length).fault

def entryOr (entries : List (Value × Value)) (key fallback : Value) : Except Fault Value := do
  let _ ← key.digest
  return (lookup? entries key).getD fallback

def bare (name : String) (args : List Value) (result : Value) : Except Fault Value :=
  if args.isEmpty then .ok result
  else .error (Misuse.argumentCount name 0 args.length).fault

def unqualified : List String :=
  ["startswith", "endswith"]

def callMethod (receiver : Value) (name : String) (args : List Value)
    (keywords : List (String × Value)) : Except Fault Value :=
  if !keywords.isEmpty then
    let owner := if unqualified.contains name then "" else receiver.typeName ++ "."
    .error (Fault.saying .typeError (owner ++ name ++ "() takes no keyword arguments"))
  else
    match receiver, name with
    | .text s, "upper"      => bare "str.upper" args (.text (Text.upper s))
    | .text s, "lower"      => bare "str.lower" args (.text (Text.lower s))
    | .text s, "strip"      => stripped s args
    | .text s, "split"      => pieces s args
    | .text s, "startswith" => anywhere name (·.isPrefixOf s.toList) args
    | .text s, "endswith"   => anywhere name (·.isSuffixOf s.toList) args
    | .number n, "bit_length" =>
      match n.integral? with
      | some i => bare (n.typeName ++ ".bit_length") args (.int (bitLength i.natAbs))
      | none   => .error (Misuse.noAttribute n.typeName name).fault
    | .list items, "count"  => countOf "list" items args
    | .list items, "index"  => indexOf "list" items args
    | .list items, "copy"   => bare "list.copy" args (.list items)
    | .tuple items, "count" => countOf "tuple" items args
    | .tuple items, "index" => indexOf "tuple" items args
    | .dict entries, "copy" => bare "dict.copy" args (.dict entries)
    | .dict entries, "keys" => do
      let keys := Value.list (entries.map (·.1))
      let shown : Except Fault String := do return "dict_keys(" ++ (← keys.inspect) ++ ")"
      let unhashable := .likeness 0 (.error (Misuse.unhashable "dict_keys").fault)
      bare "dict.keys" args
        (.object (.mk 0 "dict_keys" shown unhashable (.ok !entries.isEmpty)))
    | .dict entries, "get" =>
      match args with
      | [key]           => entryOr entries key .null
      | [key, fallback] => entryOr entries key fallback
      | []              => .error (Misuse.tooFewArguments "get" 1 0).fault
      | args            => .error (Misuse.tooManyArguments "get" 2 args.length).fault
    | _, _ => .error (Misuse.noAttribute receiver.typeName name).fault

end Value

end BoundedWait
