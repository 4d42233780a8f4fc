namespace BoundedWait

namespace Yaml

-- The kinds of values, and the two marks that have a meaning as keys only.
inductive Kind where
  | null
  | flag
  | integer
  | double
  | moment
  | text
  | octets
  | sequence
  | mapping
  | pairs
  | orderedPairs
  | set
  | merge
  | assignment
deriving DecidableEq, Repr

namespace Kind

def all : List Kind :=
  [null, flag, integer, double, moment, text, octets, sequence, mapping, pairs, orderedPairs, set,
   merge, assignment]

def family : String := "tag:yaml.org,2002:"

def tag (k : Kind) : String :=
  family ++
    match k with
    | null         => "null"
    | flag         => "bool"
    | integer      => "int"
    | double       => "float"
    | moment       => "timestamp"
    | text         => "str"
    | octets       => "binary"
    | sequence     => "seq"
    | mapping      => "map"
    | pairs        => "pairs"
    | orderedPairs => "omap"
    | set          => "set"
    | merge        => "merge"
    | assignment   => "value"

def ofTag? (tag : String) : Option Kind :=
  all.find? (·.tag == tag)

theorem ofTag?_tag (k : Kind) : ofTag? k.tag = some k := by
  cases k <;> decide +kernel

end Kind

end Yaml

end BoundedWait
