namespace BoundedWait

namespace Text

-- Both ends of a range belong to it.
abbrev Ranges := List (Nat × Nat)

namespace Ranges

def has (rs : Ranges) (c : Char) : Bool :=
  rs.any fun (first, last) => first ≤ c.toNat && c.toNat ≤ last

@[simp]
theorem has_nil (c : Char) : Ranges.has [] c = false := rfl

@[simp]
theorem has_cons (first last : Nat) (rs : Ranges) (c : Char) :
    Ranges.has ((first, last) :: rs) c = ((first ≤ c.toNat && c.toNat ≤ last) || Ranges.has rs c) :=
  rfl

end Ranges

end Text

end BoundedWait
