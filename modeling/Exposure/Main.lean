import Exposure.CommandLine.Command

/-!
# Running the command

The command on the file system and the environment of the process. Everything else is
`Exposure.CommandLine.Command.run`.
-/

namespace Exposure.CommandLine

/-- The failure that an error of the system stands for. -/
def failureOf : IO.Error → Files.Failure
  | .noFileOrDirectory .. => .absent
  | .alreadyExists .. => .present
  | .inappropriateType .. => .noDirectory
  | error => .other (toString error)

/-- Carries out an operation of the system. -/
def attempt {α : Type} (operation : IO α) : IO (Except Files.Failure α) := do
  try return .ok (← operation)
  catch error => return .error (failureOf error)

/-- Access to the files of the system. -/
def systemAccess : Files.Access IO where
  isFile path := do
    let place := (← IO.currentDir) / path
    return (← place.pathExists) && !(← place.isDir)
  isDirectory path := do
    let place := (← IO.currentDir) / path
    place.isDir
  read path := do
    let place := (← IO.currentDir) / path
    if ← place.isDir then return .error .directory
    match ← attempt (IO.FS.readBinFile place) with
    | .error failure => return .error failure
    | .ok bytes => return Files.decode bytes
  makeDirectory path := do
    let place := (← IO.currentDir) / path
    if ← place.isDir then return .ok ()
    attempt (IO.FS.createDir place)
  write path text := do
    let place := (← IO.currentDir) / path
    if ← place.isDir then return .error .directory
    attempt (IO.FS.writeFile place text)

/-- A variable of the environment as `NAME=value`, taken apart. -/
def variableOf (entry : String) : String × String :=
  let name := entry.toList.takeWhile (· ≠ '=')
  (String.ofList name, String.ofList (entry.toList.drop (name.length + 1)))

/-- The variables of the environment, sorted by name. -/
def systemVariables : IO (List (String × String)) := do
  match ← attempt (IO.FS.readBinFile "/proc/self/environ") with
  | .error _ => return []
  | .ok bytes =>
    let text := (String.fromUTF8? bytes).getD ""
    let entries := (text.splitOn "\x00").filter (· ≠ "")
    return (entries.map variableOf).mergeSort fun one other ↦ one.1 ≤ other.1

/-- The number of processors. -/
def systemProcessors : IO Nat := do
  match ← attempt (IO.FS.readFile "/proc/cpuinfo") with
  | .error _ => return 1
  | .ok text =>
    return max 1 ((text.splitOn "\n").filter fun line ↦ line.startsWith "processor").length

/-- Runs the command and shows its outcome. -/
def runOnSystem (arguments : List String) : IO UInt32 := do
  let machine : Machine :=
    { directory := (← IO.currentDir).toString
      environment := ← systemVariables
      processors := ← systemProcessors }
  let outcome ← Command.run systemAccess machine arguments
  IO.print outcome.output
  IO.eprint outcome.errors
  return outcome.exitCode.number.toUInt32

end Exposure.CommandLine

/-- The entry of the program. -/
def main (arguments : List String) : IO UInt32 :=
  Exposure.CommandLine.runOnSystem arguments
