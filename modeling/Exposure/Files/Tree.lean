import Exposure.Files.Access
import Exposure.Files.Path

/-!
# Files in memory

A tree of directories and files, each under its absolute path. A path is followed part by part:
parts go down by name, `..` goes up, and nothing lies below a file.
-/

namespace Exposure.Files

/-- Directories and files by the parts of their absolute paths. -/
structure Tree where
  directories : List (List String)
  files : List (List String × ByteArray)

/-- What a path leads to. -/
inductive Place where
  | directory (path : List String)
  | file (path : List String) (bytes : ByteArray)
  /-- Nothing, though what would hold it is a directory. -/
  | vacant (path : List String)

namespace Tree

/-- The tree with nothing but its root. -/
def empty : Tree := ⟨[[]], []⟩

/-- What is under an absolute path whose parts all go down. -/
def placeOf (tree : Tree) (path : List String) : Place :=
  if path ∈ tree.directories then .directory path
  else match tree.files.find? (·.1 = path) with
    | some (_, bytes) => .file path bytes
    | none => .vacant path

/-- Follows parts from a place. -/
def follow (tree : Tree) : Place → List String → Except Failure Place
  | place, [] => .ok place
  | .directory path, part :: rest =>
    if part = "" ∨ part = "." then follow tree (.directory path) rest
    else if part = ".." then follow tree (.directory path.dropLast) rest
    else follow tree (tree.placeOf (path ++ [part])) rest
  | .file .., _ :: _ => .error .noDirectory
  | .vacant _, _ :: _ => .error .absent

/-- What a path leads to from a working directory. -/
def find (tree : Tree) (directory : List String) (path : String) : Except Failure Place :=
  tree.follow (.directory (if Path.isAbsolute path then [] else directory))
    (Path.segments path)

/-- Adds a directory and those above it. -/
def addDirectory (tree : Tree) (path : List String) : Tree :=
  { tree with
    directories := tree.directories ++
      (Path.upwards path).filter fun above ↦ !tree.directories.contains above }

/-- Puts bytes into a file, and adds the directories above it. -/
def addFile (tree : Tree) (path : List String) (bytes : ByteArray) : Tree :=
  let tree := tree.addDirectory path.dropLast
  { tree with files := (path, bytes) :: tree.files.filter (·.1 ≠ path) }

/-- The text of the file that a path leads to. -/
def read (tree : Tree) (directory : List String) (path : String) : Except Failure String :=
  match tree.find directory path with
  | .error failure => .error failure
  | .ok (.directory _) => .error .directory
  | .ok (.vacant _) => .error .absent
  | .ok (.file _ bytes) => decode bytes

/-- Whether a path leads to a file. -/
def isFile (tree : Tree) (directory : List String) (path : String) : Bool :=
  match tree.find directory path with
  | .ok (.file ..) => true
  | _ => false

/-- Whether a path leads to a directory. -/
def isDirectory (tree : Tree) (directory : List String) (path : String) : Bool :=
  match tree.find directory path with
  | .ok (.directory _) => true
  | _ => false

/-- The tree with a directory made, unless something else is there. -/
def makeDirectory (tree : Tree) (directory : List String) (path : String) :
    Except Failure Tree :=
  match tree.find directory path with
  | .error failure => .error failure
  | .ok (.directory _) => .ok tree
  | .ok (.file ..) => .error .present
  | .ok (.vacant path) => .ok (tree.addDirectory path)

/-- The tree with a text put into a file. -/
def write (tree : Tree) (directory : List String) (path text : String) : Except Failure Tree :=
  match tree.find directory path with
  | .error failure => .error failure
  | .ok (.directory _) => .error .directory
  | .ok (.file path _) | .ok (.vacant path) => .ok (tree.addFile path text.toUTF8)

/-- Carries out a change of a tree where it succeeds. -/
def change (attempt : Tree → Except Failure Tree) : StateM Tree (Except Failure Unit) := do
  match attempt (← get) with
  | .error failure => return .error failure
  | .ok tree =>
    set tree
    return .ok ()

/-- Access to the files of a tree from a working directory. -/
def access (directory : List String) : Access (StateM Tree) where
  isFile path := return (← get).isFile directory path
  isDirectory path := return (← get).isDirectory directory path
  read path := return (← get).read directory path
  makeDirectory path := change fun tree ↦ tree.makeDirectory directory path
  write path text := change fun tree ↦ tree.write directory path text

end Tree

end Exposure.Files
