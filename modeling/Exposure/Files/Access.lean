/-!
# Access to files

What the command needs of the files around it, so that it can run on a real file system as well
as on a tree of files in memory. Paths are relative to the working directory or absolute.
-/

namespace Exposure.Files

/-- Why something cannot be done with a file. -/
inductive Failure where
  | absent
  | present
  | noDirectory
  | directory
  /-- The bytes of the file are no text. -/
  | noText
  /-- Another reason, in the words of the system. -/
  | other (reason : String)
  deriving DecidableEq, Repr

/-- The wording of a failure. -/
def Failure.reason : Failure → String
  | absent => "No such file or directory (os error 2)"
  | present => "File exists (os error 17)"
  | noDirectory => "Not a directory (os error 20)"
  | directory => "Is a directory (os error 21)"
  | noText => "stream did not contain valid UTF-8"
  | other reason => reason

/-- Operations on files. -/
structure Access (m : Type → Type) where
  isFile : String → m Bool
  isDirectory : String → m Bool
  /-- The text of a file. -/
  read : String → m (Except Failure String)
  /-- Makes a directory unless it is there. -/
  makeDirectory : String → m (Except Failure Unit)
  /-- Puts a text into a file, which need not be there. -/
  write : String → String → m (Except Failure Unit)

/-- The text of bytes. -/
def decode (bytes : ByteArray) : Except Failure String :=
  match String.fromUTF8? bytes with
  | some text => .ok text
  | none => .error .noText

end Exposure.Files
