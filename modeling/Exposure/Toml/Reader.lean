import Exposure.Toml.Moment
import Exposure.Toml.Numeral
import Exposure.Toml.Table

/-!
# Reading TOML

A document is a row of lines, each blank, a comment, a header, or a key with its value; lists may
span lines. It is read into **sections**: the assignments in front of the first header, and those
behind each header. `read` puts the sections together.

Values nest, and a reader of nested values is bounded by how deep they may go.
-/

namespace Exposure.Toml

open Settings (Entries Value)

/-! ### Keys -/

/-- Whether a character may stand in a key without quotes. -/
def isBare (c : Char) : Bool := c.isAlphanum || c = '_' || c = '-'

/-- One part of a key. -/
def keyPart (chars : List Char) : Option (String × List Char) :=
  match chars with
  | '"' :: _ | '\'' :: _ => line chars
  | _ =>
    let bare := chars.takeWhile isBare
    if bare.isEmpty then none else some (String.ofList bare, chars.drop bare.length)

/-- The most parts that a key may have. -/
def mostParts : Nat := 79

/-- The parts of a key with dots between them and blanks around them. -/
def keyParts : (most : Nat) → Reader (List String)
  | 0, _ => none
  | most + 1, chars =>
    (keyPart (skipSpace chars)).bind fun (part, rest) ↦
      match skipSpace rest with
      | '.' :: rest => (keyParts most rest).map fun (parts, rest) ↦ (part :: parts, rest)
      | rest => some ([part], rest)

/-- A key as the way to its table and the last part. -/
def key (chars : List Char) : Option ((List String × String) × List Char) :=
  (keyParts mostParts chars).bind fun (parts, rest) ↦
    parts.getLast?.map fun last ↦ ((parts.dropLast, last), rest)

/-! ### Values -/

/-- Skips a comment up to the end of its line; control characters break it. -/
def skipComment (chars : List Char) : List Char :=
  match chars with
  | '#' :: rest => rest.dropWhile isInline
  | chars => chars

/-- The characters behind blanks, comments and line ends, in at most so many lines. -/
def skipBlankLines : (steps : Nat) → List Char → List Char
  | 0, chars => chars
  | steps + 1, chars =>
    let chars := skipComment (skipSpace chars)
    match lineEnd? chars with
    | some rest => skipBlankLines steps rest
    | none => chars

/-- The characters behind what may stand between the items of a list. -/
def skipLayout (chars : List Char) : List Char := skipBlankLines (chars.length + 1) chars

/-- The items of a list from behind its bracket, with a comma between them and perhaps one behind
the last. -/
def items {α : Type} (item : Reader α) : (steps : Nat) → Reader (List α)
  | 0, _ => none
  | steps + 1, chars =>
    match skipLayout chars with
    | ']' :: rest => some ([], rest)
    | chars =>
      (item chars).bind fun (value, rest) ↦
        match skipLayout rest with
        | ',' :: rest => (items item steps rest).map fun (values, rest) ↦ (value :: values, rest)
        | ']' :: rest => some ([value], rest)
        | _ => none

/-- A key with its value. -/
def assignment (value : Reader Value) (chars : List Char) :
    Option (Body.Assignment × List Char) :=
  (key chars).bind fun ((path, key), rest) ↦
    match rest with
    | '=' :: rest => (value (skipSpace rest)).map fun (value, rest) ↦ (⟨path, key, value⟩, rest)
    | _ => none

/-- The assignments of a table written on one line, from in front of the next one; no comma
follows the last. -/
def inlineAssignments (value : Reader Value) : (steps : Nat) → Reader (List Body.Assignment)
  | 0, _ => none
  | steps + 1, chars =>
    (assignment value chars).bind fun (first, rest) ↦
      match skipSpace rest with
      | ',' :: rest =>
        (inlineAssignments value steps rest).map fun (more, rest) ↦ (first :: more, rest)
      | '\x7d' :: rest => some ([first], rest)
      | _ => none

/-- A table written on one line, from behind its brace. -/
def inlineTable (value : Reader Value) (chars : List Char) : Option (Value × List Char) :=
  match skipSpace chars with
  | '\x7d' :: rest => some (.table [], rest)
  | chars =>
    (inlineAssignments value (chars.length + 1) chars).bind fun (assignments, rest) ↦
      (Body.addValues [] assignments).map fun body ↦ (.table (entriesOf body), rest)

/-- The key under which a moment shows where tables are expected. -/
def momentKey : String := "$__toml_private_datetime"

/-- A moment, a float or a whole number: the first of them that fits. -/
def numeral (chars : List Char) : Option (Value × List Char) :=
  match moment chars with
  | some (written, rest) => some (.table [(momentKey, .text written)], rest)
  | none =>
    match float chars with
    | some (number, rest) => some (.float number, rest)
    | none => (integer chars).map fun (number, rest) ↦ (.integer number, rest)

/-- How deep lists and tables may nest within a value. -/
def mostNesting : Nat := 79

/-- A value in which lists and tables nest at most so deep. -/
def value : (nesting : Nat) → Reader Value
  | _, 't' :: 'r' :: 'u' :: 'e' :: rest => some (.bool true, rest)
  | _, 'f' :: 'a' :: 'l' :: 's' :: 'e' :: rest => some (.bool false, rest)
  | nesting, '[' :: rest =>
    match nesting with
    | 0 => none
    | nesting + 1 =>
      (items (value nesting) (rest.length + 1) rest).map fun (values, rest) ↦ (.list values, rest)
  | nesting, '\x7b' :: rest =>
    match nesting with
    | 0 => none
    | nesting + 1 => inlineTable (value nesting) rest
  | _, '"' :: rest => (text ('"' :: rest)).map fun (value, rest) ↦ (.text value, rest)
  | _, '\'' :: rest => (text ('\'' :: rest)).map fun (value, rest) ↦ (.text value, rest)
  | _, chars => numeral chars

/-! ### Documents -/

/-- Takes what may follow on a line behind a header or a value: blanks, a comment, and the end of
the line or of the document. -/
def lineRest (chars : List Char) : Option (List Char) :=
  match skipComment (skipSpace chars) with
  | [] => some []
  | chars => lineEnd? chars

/-- What a section starts with. -/
inductive Header where
  /-- The document itself. -/
  | document
  | table (path : List String) (key : String)
  /-- A further table of an array. -/
  | element (path : List String) (key : String)

/-- A header with the assignments behind it. -/
structure Section where
  header : Header
  assignments : List Body.Assignment

/-- A line that says something. -/
inductive Line where
  | header (header : Header)
  | assignment (assignment : Body.Assignment)

/-- Reads a line that says something. -/
def statement : Reader Line
  | '[' :: '[' :: rest =>
    (key rest).bind fun ((path, key), rest) ↦
      match rest with
      | ']' :: ']' :: rest => (lineRest rest).map fun rest ↦ (.header (.element path key), rest)
      | _ => none
  | '[' :: rest =>
    (key rest).bind fun ((path, key), rest) ↦
      match rest with
      | ']' :: rest => (lineRest rest).map fun rest ↦ (.header (.table path key), rest)
      | _ => none
  | chars =>
    (assignment (value mostNesting) chars).bind fun (assignment, rest) ↦
      (lineRest rest).map fun rest ↦ (.assignment assignment, rest)

/-- Reads the lines of a document. -/
def statements : (steps : Nat) → List Char → Option (List Line)
  | 0, _ => none
  | steps + 1, chars =>
    match skipLayout chars with
    | [] => some []
    | chars =>
      (statement chars).bind fun (line, rest) ↦ (statements steps rest).map (line :: ·)

/-- The sections of lines, given the one that is open. -/
def sections (current : Section) : List Line → List Section
  | [] => [current]
  | .header header :: rest => current :: sections ⟨header, []⟩ rest
  | .assignment assignment :: rest =>
    sections { current with assignments := current.assignments ++ [assignment] } rest

/-- Adds a section to the document. -/
def addSection (body : Body) (part : Section) : Option Body :=
  match part.header with
  | .document => body.addValues part.assignments
  | .table path key => body.addTable path key part.assignments
  | .element path key => body.addElement path key part.assignments

/-- Puts sections together. -/
def assemble : Body → List Section → Option Body
  | body, [] => some body
  | body, part :: rest => (addSection body part).bind fun body ↦ assemble body rest

/-- The characters behind a byte order mark. -/
def skipMark (chars : List Char) : List Char :=
  match chars with
  | '\uFEFF' :: rest => rest
  | chars => chars

/-- The entries of the table that a document describes, if it describes one. -/
def read (source : String) : Option Entries :=
  let chars := skipMark source.toList
  (statements (chars.length + 1) chars).bind fun lines ↦
    (assemble [] (sections ⟨.document, []⟩ lines)).map entriesOf

end Exposure.Toml
