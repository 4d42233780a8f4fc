namespace BoundedWait

namespace Base64

def alphabet : List Char :=
  "ABCDEFGHIJKLMNOPQRSTUVWXYZabcdefghijklmnopqrstuvwxyz0123456789+/".toList

def letter (n : Nat) : Char :=
  alphabet.getD (n % 64) 'A'

def digit? (c : Char) : Option Nat :=
  alphabet.idxOf? c

theorem digit?_letter (n : Nat) : digit? (letter n) = some (n % 64) := by
  have h : ∀ k < 64, digit? (alphabet.getD k 'A') = some k := by decide +kernel
  exact h (n % 64) (Nat.mod_lt n (by decide))

def encode : List UInt8 → List Char
  | a :: b :: c :: rest =>
    let n := a.toNat * 65536 + b.toNat * 256 + c.toNat
    letter (n / 262144) :: letter (n / 4096) :: letter (n / 64) :: letter n :: encode rest
  | [a, b] =>
    let n := a.toNat * 1024 + b.toNat * 4
    [letter (n / 4096), letter (n / 64), letter n, '=']
  | [a] =>
    let n := a.toNat * 16
    [letter (n / 64), letter n, '=', '=']
  | [] => []

-- How far a group of four characters has been read: how many of them, the bits that have not gone
-- into an octet yet, the equals signs since the last one, and all octets so far, from the end.
structure Group where
  place  : Nat
  bits   : Nat
  pads   : Nat
  octets : List UInt8

namespace Group

def start : Group :=
  ⟨0, 0, 0, []⟩

def take (g : Group) (digit : Nat) : Group :=
  match g.place with
  | 0 => ⟨1, digit, 0, g.octets⟩
  | 1 => ⟨2, digit % 16, 0, (g.bits * 4 + digit / 16).toUInt8 :: g.octets⟩
  | 2 => ⟨3, digit % 4, 0, (g.bits * 16 + digit / 4).toUInt8 :: g.octets⟩
  | _ => ⟨0, 0, 0, (g.bits * 64 + digit).toUInt8 :: g.octets⟩

end Group

-- Equals signs that fill up a group end the text. They do not count where they cannot do that, and
-- other characters never count. A group must not be left open.
def decodeFrom? (g : Group) : List Char → Option (List UInt8)
  | []      => if g.place = 0 then some g.octets.reverse else none
  | c :: cs =>
    if c == '=' then
      if g.place < 2 then decodeFrom? g cs
      else if 4 ≤ g.place + g.pads + 1 then some g.octets.reverse
      else decodeFrom? { g with pads := g.pads + 1 } cs
    else
      match digit? c with
      | some d => decodeFrom? (g.take d) cs
      | none   => decodeFrom? g cs

def decode? (s : String) : Option (List UInt8) :=
  if s.toList.all fun c => c.toNat < 0x80 then decodeFrom? Group.start s.toList else none

theorem decode?_empty : decode? "" = some [] := rfl

end Base64

end BoundedWait
