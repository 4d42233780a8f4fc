namespace BoundedWait

namespace Text

def hexDigit (n : Nat) : Char :=
  if n < 10 then Char.ofNat ('0'.toNat + n) else Char.ofNat ('a'.toNat + (n - 10))

def hexadecimal : Nat → Nat → List Char
  | 0, _         => []
  | width + 1, n => hexadecimal width (n / 16) ++ [hexDigit (n % 16)]

theorem length_hexadecimal (width n : Nat) : (hexadecimal width n).length = width := by
  induction width generalizing n with
  | zero => rfl
  | succ width ih => simp [hexadecimal, ih]

def hexValue? (c : Char) : Option Nat :=
  if c.isDigit then some (c.toNat - '0'.toNat)
  else if 'a' ≤ c ∧ c ≤ 'f' then some (c.toNat - 'a'.toNat + 10)
  else if 'A' ≤ c ∧ c ≤ 'F' then some (c.toNat - 'A'.toNat + 10)
  else none

def hexNumber? (cs : List Char) : Option Nat :=
  cs.foldlM (fun n c => do return n * 16 + (← hexValue? c)) 0

def ofOctets (octets : List UInt8) : List Char :=
  octets.flatMap fun o => hexadecimal 2 o.toNat

def octets? : List Char → Option (List UInt8)
  | a :: b :: rest => do
    let n ← hexNumber? [a, b]
    return n.toUInt8 :: (← octets? rest)
  | [] => some []
  | _  => none

end Text

end BoundedWait
