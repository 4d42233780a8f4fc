import BoundedWait.Act
import BoundedWait.Config.Keyed
import BoundedWait.Config.Path
import BoundedWait.Fault.Report

namespace BoundedWait

abbrev Place := List String

structure Files where
  working     : Place
  directories : List Place
  documents   : List (Place × String)

namespace Files

inductive Missing where
  | noEntry
  | notDirectory
  | nameTooLong
deriving DecidableEq, Repr

def along : Place → List Place
  | []            => [[]]
  | name :: names => [] :: (along names).map (name :: ·)

def emptyAt (working : Place) : Files :=
  ⟨working, along working, []⟩

def isDirectory (f : Files) (p : Place) : Bool :=
  f.directories.contains p

def document? (f : Files) (p : Place) : Option String :=
  Keyed.get? f.documents p

def hasEntry (f : Files) (p : Place) : Bool :=
  f.isDirectory p || (f.document? p).isSome

def longestName : Nat := 255

def longestPath : Nat := 4095

def next (p : Place) (step : String) : Place :=
  if step == ".." then p.dropLast else p ++ [step]

-- The place after some steps from a place. All but the last one have to lead to directories.
def walk (f : Files) (p : Place) : List String → Except Missing Place
  | []            => .ok p
  | step :: steps =>
    if f.isDirectory p then
      if longestName < step.utf8ByteSize then .error .nameTooLong
      else f.walk (next p step) steps
    else .error (if (f.document? p).isSome then .notDirectory else .noEntry)

def start (f : Files) (path : Path) : Place :=
  if path.isAbsolute then [] else f.working

def locate (f : Files) (path : Path) : Except Missing Place :=
  if longestPath < path.text.utf8ByteSize then .error .nameTooLong
  else f.walk (f.start path) path.parts

theorem locate_nil (f : Files) : f.locate ⟨"", []⟩ = .ok f.working := rfl

def noEntry (path : String) : Fault :=
  Fault.ofSystem .fileNotFound 2 "No such file or directory" path

def notDirectory (path : String) : Fault :=
  Fault.ofSystem .notADirectory 20 "Not a directory" path

def isADirectory (path : String) : Fault :=
  Fault.ofSystem .isADirectory 21 "Is a directory" path

def fileExists (path : String) : Fault :=
  Fault.ofSystem .fileExists 17 "File exists" path

def nameTooLong (path : String) : Fault :=
  Fault.ofSystem .osError 36 "File name too long" path

def pathExists (f : Files) (path : Path) : Bool :=
  match f.locate path with
  | .ok p    => f.hasEntry p
  | .error _ => false

def checkExists (f : Files) (path : Path) : Except Fault Bool :=
  match f.locate path with
  | .ok p               => .ok (f.hasEntry p)
  | .error .nameTooLong => .error (nameTooLong path.text)
  | .error _            => .ok false

def isFile (f : Files) (path : Path) : Bool :=
  match f.locate path with
  | .ok p    => (f.document? p).isSome
  | .error _ => false

def Missing.fault (path : String) : Missing → Fault
  | nameTooLong  => Files.nameTooLong path
  | noEntry      => Files.noEntry path
  | notDirectory => Files.notDirectory path

def find (f : Files) (path : Path) : Except Fault Place :=
  (f.locate path).mapError (Missing.fault path.bareText)

def withLineFeeds : List Char → List Char
  | '\r' :: '\n' :: rest => '\n' :: withLineFeeds rest
  | '\r' :: rest         => '\n' :: withLineFeeds rest
  | c :: rest            => c :: withLineFeeds rest
  | []                   => []

def lineFed (text : String) : String :=
  String.ofList (withLineFeeds text.toList)

def read (f : Files) (path : Path) : Except Fault String := do
  let p ← f.find path
  if f.isDirectory p then throw (isADirectory path.text)
  match f.document? p with
  | some s => return lineFed s
  | none   => throw (noEntry path.text)

def store (f : Files) (p : Place) (text : String) : Files :=
  { f with documents := Keyed.put f.documents p text }

theorem document?_store (f : Files) (p q : Place) (text : String) :
    (f.store p text).document? q = if q = p then some text else f.document? q :=
  Keyed.get?_put _ _ _ _

def writable (f : Files) (path : Path) : Except Fault Place := do
  let p ← f.find path
  if f.isDirectory p then throw (isADirectory path.text)
  return p

def write (f : Files) (path : Path) (text : String) : Except Fault Files := do
  return f.store (← f.writable path) text

def addDirectory (f : Files) (p : Place) : Files :=
  { f with directories := p :: f.directories }

theorem isDirectory_addDirectory (f : Files) (p q : Place) :
    (f.addDirectory p).isDirectory q = (q == p || f.isDirectory q) :=
  List.contains_cons

def makeDirectory (path : Path) : Act Files Unit := do
  let f ← Act.get
  let p ← .of (f.find path)
  if f.isDirectory p then return ()
  else if (f.document? p).isSome then .raise (fileExists path.bareText)
  else .update (·.addDirectory p)

-- Whether a directory has to be made before another one in it. A path without any text needs none.
def lacks (f : Files) (path : Path) : Bool :=
  !path.bareText.isEmpty && !f.pathExists path

-- Makes a directory and those that lead to it. The last step comes first in `steps`.
def makeAll (root : String) : List String → Act Files Unit
  | []            => if root.isEmpty then .raise (noEntry "") else makeDirectory ⟨root, []⟩
  | step :: steps => do
    if (← Act.get).lacks ⟨root, steps.reverse⟩ then makeAll root steps
    makeDirectory ⟨root, (step :: steps).reverse⟩

def make (path : Path) : Act Files Unit :=
  makeAll path.root path.parts.reverse

def makeDirectories (f : Files) (path : Path) : Except Fault Files :=
  match make path f with
  | (.ok _, g)    => .ok g
  | (.error e, _) => .error e

end Files

end BoundedWait
