import BoundedWait.Text.Ranges

namespace BoundedWait

namespace Text

def whiteSpace : Ranges :=
  [(0x9, 0xD), (0x20, 0x20), (0x85, 0x85), (0xA0, 0xA0), (0x1680, 0x1680), (0x2000, 0x200A),
   (0x2028, 0x2029), (0x202F, 0x202F), (0x205F, 0x205F), (0x3000, 0x3000)]

-- White space together with the four separators of files, groups, records and units.
def isBlank (c : Char) : Bool :=
  (0x1C ≤ c.toNat && c.toNat ≤ 0x1F) || whiteSpace.has c

theorem isBlank_of_isWhitespace {c : Char} (h : c.isWhitespace = true) : isBlank c = true := by
  simp [Char.isWhitespace] at h
  rcases h with ((h | h) | h) | h <;> subst h <;> decide

def trimWith (p : Char → Bool) (s : String) : String :=
  String.ofList ((s.toList.dropWhile p).reverse.dropWhile p).reverse

def trim (s : String) : String :=
  trimWith isBlank s

def words (s : String) : List String :=
  go s.toList [] []
where
  go : List Char → List Char → List String → List String
    | [], cur, acc =>
      (if cur.isEmpty then acc else String.ofList cur.reverse :: acc).reverse
    | c :: rest, cur, acc =>
      if isBlank c then
        go rest [] (if cur.isEmpty then acc else String.ofList cur.reverse :: acc)
      else go rest (c :: cur) acc

end Text

end BoundedWait
