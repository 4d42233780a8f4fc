namespace BoundedWait

-- The root is empty for a path that begins at the working directory.
structure Path where
  root  : String
  parts : List String
deriving DecidableEq, Repr

namespace Path

-- Two slashes at the front are a root of their own; three or more are like a single one.
def rootOf (s : String) : String :=
  match s.toList with
  | '/' :: '/' :: '/' :: _ => "/"
  | '/' :: '/' :: _        => "//"
  | '/' :: _               => "/"
  | _                      => ""

def ofText (s : String) : Path :=
  let steps := (s.toList.splitOn '/').map String.ofList
  ⟨rootOf s, steps.filter fun step => step != "" && step != "."⟩

def isAbsolute (p : Path) : Bool :=
  p.root != ""

def bareText (p : Path) : String :=
  p.root ++ "/".intercalate p.parts

def text (p : Path) : String :=
  if p.bareText.isEmpty then "." else p.bareText

def join (base p : Path) : Path :=
  if p.isAbsolute then p else ⟨base.root, base.parts ++ p.parts⟩

def parent (p : Path) : Path :=
  ⟨p.root, p.parts.dropLast⟩

theorem join_of_absolute {base p : Path} (h : p.isAbsolute = true) : base.join p = p := by
  simp [join, h]

theorem parts_join {base p : Path} (h : p.isAbsolute = false) :
    (base.join p).parts = base.parts ++ p.parts := by
  simp [join, h]

end Path

end BoundedWait
