/-!
# Paths

Paths are texts with slashes between their parts; a path that starts with a slash is absolute.
Here they are joined, followed upwards, and shown relative to a directory.
-/

namespace Exposure.Files.Path

/-- Whether a path starts at the root. -/
def isAbsolute (path : String) : Bool := path.toList.head? = some '/'

/-- Characters cut at every slash. -/
def cut : List Char → List (List Char)
  | [] => [[]]
  | '/' :: rest => [] :: cut rest
  | c :: rest =>
    match cut rest with
    | [] => [[c]]
    | first :: others => (c :: first) :: others

/-- What stands between the slashes of a path. -/
def segments (path : String) : List String := (cut path.toList).map String.ofList

/-- The parts of a path. Empty parts and parts that stay where they are say nothing and are
dropped. -/
def parts (path : String) : List String :=
  (segments path).filter fun part ↦ part ≠ "" && part ≠ "."

/-- The absolute path with the given parts. -/
def ofParts (parts : List String) : String := "/" ++ "/".intercalate parts

/-- A path as seen from a directory. -/
def join (directory path : String) : String :=
  if isAbsolute path then path
  else if directory.toList.getLast? = some '/' then directory ++ path
  else directory ++ "/" ++ path

/-- The parts of a directory and of those above it, from the root down. -/
def upwards (parts : List String) : List (List String) :=
  (List.range (parts.length + 1)).map parts.take

/-- The directories from the one with the given parts up to the root, nearest first. -/
def ancestors (parts : List String) : List String :=
  (upwards parts).reverse.map ofParts

/-- The parts that lead from one directory to a path: up to what both share, and down again. -/
def between : (directory path : List String) → List String
  | d :: directory, p :: path =>
    if d = p then between directory path
    else List.replicate (directory.length + 1) ".." ++ p :: path
  | directory, path => List.replicate directory.length ".." ++ path

/-- How an absolute path is shown in a directory: relative to it, where that takes fewer parts
than the path has, the root included. -/
def shown (directory path : String) : String :=
  let relative := between (parts directory) (parts path)
  if relative.length < (parts path).length + 1 then "/".intercalate relative else path

end Exposure.Files.Path
