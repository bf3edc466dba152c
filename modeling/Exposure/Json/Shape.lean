import Exposure.Json.Skip

/-!
# Reading JSON values of a known shape

Readers for texts, optional texts, lists and records. Where a value of another shape stands, the
reader says what it found: a scalar is read to its end first, a list or an object is only
recognised.

A **record** has two written forms. As an object it holds its fields by key in any order, none
twice, and keys it does not know are skipped with their values. As a list it holds its fields in
order, and may stop once no required field is missing. In both forms the fields are taken into a
draft one by one.
-/

namespace Exposure.Json

/-- What a value is that has not been asked for, from its first character on. -/
def found : Reader Found
  | [] => .error (.before .endInValue [])
  | 'n' :: rest => (word ['u', 'l', 'l'] rest).map fun rest ↦ (.null, rest)
  | 't' :: rest => (word ['r', 'u', 'e'] rest).map fun rest ↦ (.bool true, rest)
  | 'f' :: rest => (word ['a', 'l', 's', 'e'] rest).map fun rest ↦ (.bool false, rest)
  | '-' :: rest => numeral true rest
  | '"' :: rest => (text rest).map fun (value, rest) ↦ (.text value, rest)
  | '[' :: rest => .ok (.list, '[' :: rest)
  | '\x7b' :: rest => .ok (.object, '\x7b' :: rest)
  | c :: rest =>
    if isDigit c then numeral false (c :: rest) else .error (.into .noValue 1 (c :: rest))

/-- The fault of a value that stands where another shape was expected. -/
def wrongType (expected : String) (chars : List Char) : Fault :=
  match found chars with
  | .error fault => fault
  | .ok (found, rest) => .before (.wrongType found expected) rest

/-- Reads a text. -/
def readText : Reader String := fun chars ↦
  match skipSpace chars with
  | [] => .error (.before .endInValue [])
  | '"' :: rest => text rest
  | chars => .error (wrongType "a string" chars)

/-- Reads a text or `null`. -/
def readOptionalText : Reader (Option String) := fun chars ↦
  match skipSpace chars with
  | 'n' :: rest => (word ['u', 'l', 'l'] rest).map fun rest ↦ (none, rest)
  | chars => (readText chars).map fun (value, rest) ↦ (some value, rest)

/-! ### Lists -/

/-- Goes to the next item of a list, from behind its bracket or behind an item; at the end of
the list there is none, and the closing bracket is still to be taken. -/
def nextItem (first : Bool) (chars : List Char) : Except Fault (Option (List Char)) :=
  match skipSpace chars with
  | [] => .error (.before .endInList [])
  | ']' :: _ => .ok none
  | c :: rest =>
    if first then .ok (some (c :: rest))
    else if c = ',' then
      match skipSpace rest with
      | [] => .error (.before .endInValue [])
      | ']' :: rest => .error (.into .trailingComma 1 (']' :: rest))
      | chars => .ok (some chars)
    else .error (.into .noListEnd 1 (c :: rest))

/-- The characters behind the closing bracket of a list, where it comes next. -/
def behindList (chars : List Char) : List Char := (skipSpace chars).drop 1

/-- Reads the items of a list from behind its bracket, in at most so many steps. -/
def items {α : Type} (item : Reader α) : (steps : Nat) → (first : Bool) → Reader (List α)
  | 0, _, chars => .error (.before .endInList chars)
  | steps + 1, first, chars =>
    match nextItem first chars with
    | .error fault => .error fault
    | .ok none => .ok ([], behindList chars)
    | .ok (some chars) =>
      match item chars with
      | .error fault => .error fault
      | .ok (value, rest) =>
        (items item steps false rest).map fun (values, rest) ↦ (value :: values, rest)

/-- Reads a list. -/
def readList {α : Type} (item : Reader α) : Reader (List α) := fun chars ↦
  match skipSpace chars with
  | [] => .error (.before .endInValue [])
  | '[' :: rest => items item (rest.length + 1) true rest
  | chars => .error (wrongType "a sequence" chars)

/-! ### Records -/

/-- A field of a record whose values are taken into a draft. -/
structure Field (δ : Type) where
  key : String
  /-- Whether a draft already has the field. -/
  isTaken : δ → Bool
  /-- Reads a value of the field into a draft. -/
  take : δ → Reader δ

/-- How a record is read. -/
structure Shape (δ α : Type) where
  /-- What is expected, in the words of a message. -/
  name : String
  fields : List (Field δ)
  /-- How many of the first fields are required. -/
  required : Nat
  /-- The draft without fields. -/
  blank : δ
  /-- The record of a draft, or the key of a required field that it lacks. -/
  finish : δ → Except String α

namespace Shape

variable {δ α : Type}

/-- What is expected of a list, in the words of a message. -/
def asList (shape : Shape δ α) : String :=
  shape.name ++ " with " ++ toString shape.fields.length ++ " elements"

/-- Takes the closing bracket of a record written as a list. -/
def endOfList (chars : List Char) : Except Fault (List Char) :=
  match skipSpace chars with
  | [] => .error (.before .endInList [])
  | ']' :: rest => .ok rest
  | ',' :: rest =>
    match skipSpace rest with
    | ']' :: rest => .error (.into .trailingComma 1 (']' :: rest))
    | chars => .error (.into .trailingCharacters 1 chars)
  | chars => .error (.into .trailingCharacters 1 chars)

/-- Reads fields in order from a list; `index` fields have been taken. -/
def elements (shape : Shape δ α) (index : Nat) (draft : δ) : List (Field δ) → Reader δ
  | [], chars => (endOfList chars).map fun rest ↦ (draft, rest)
  | field :: fields, chars =>
    match nextItem (index = 0) chars with
    | .error fault => .error fault
    | .ok none =>
      if index < shape.required then
        .error (.before (.wrongLength index shape.asList) (behindList chars))
      else .ok (draft, behindList chars)
    | .ok (some chars) =>
      match field.take draft chars with
      | .error fault => .error fault
      | .ok (draft, rest) => elements shape (index + 1) draft fields rest

/-- Goes behind the opening quote of the next key of an object, from behind its brace or behind
a field; at the end of the object there is none. -/
def nextKey (first : Bool) (chars : List Char) : Except Fault (Option (List Char)) :=
  match skipSpace chars with
  | [] => .error (.before .endInObject [])
  | '\x7d' :: _ => .ok none
  | c :: rest =>
    if first then
      if c = '"' then .ok (some rest) else .error (.into .keyNoText 1 (c :: rest))
    else if c = ',' then
      match skipSpace rest with
      | [] => .error (.before .endInValue [])
      | '"' :: rest => .ok (some rest)
      | '\x7d' :: rest => .error (.into .trailingComma 1 ('\x7d' :: rest))
      | chars => .error (.into .keyNoText 1 chars)
    else .error (.into .noObjectEnd 1 (c :: rest))

/-- A field that comes a second time is noticed behind its key, or behind the end of the object
if that comes next. -/
def repeatedField (key : String) (chars : List Char) : Fault :=
  match skipSpace chars with
  | '\x7d' :: rest => .before (.duplicateField key) rest
  | chars => .before (.duplicateField key) chars

/-- Takes the value that belongs to a key, or skips it where the key is unknown. -/
def takeField (shape : Shape δ α) (draft : δ) (key : String) : Reader δ := fun chars ↦
  match shape.fields.find? (·.key = key) with
  | some field =>
    if field.isTaken draft then .error (repeatedField key chars)
    else (colon chars).bind (field.take draft)
  | none => ((colon chars).bind skip).map fun rest ↦ (draft, rest)

/-- Reads the fields of an object from behind its brace, in at most so many steps. -/
def entries (shape : Shape δ α) : (steps : Nat) → (first : Bool) → δ → Reader δ
  | 0, _, _, chars => .error (.before .endInObject chars)
  | steps + 1, first, draft, chars =>
    match nextKey first chars with
    | .error fault => .error fault
    | .ok none => .ok (draft, (skipSpace chars).drop 1)
    | .ok (some chars) =>
      match text chars with
      | .error fault => .error fault
      | .ok (key, rest) =>
        match shape.takeField draft key rest with
        | .error fault => .error fault
        | .ok (draft, rest) => entries shape steps false draft rest

/-- The record of a draft, in front of the rest. -/
def finished (shape : Shape δ α) (draft : δ) (chars : List Char) :
    Except Fault (α × List Char) :=
  match shape.finish draft with
  | .ok record => .ok (record, chars)
  | .error key => .error (.before (.missingField key) chars)

/-- Reads a record. -/
def read (shape : Shape δ α) : Reader α := fun chars ↦
  match skipSpace chars with
  | [] => .error (.before .endInValue [])
  | '[' :: rest =>
    (shape.elements 0 shape.blank shape.fields rest).bind fun (draft, rest) ↦
      shape.finished draft rest
  | '\x7b' :: rest =>
    (shape.entries (rest.length + 1) true shape.blank rest).bind fun (draft, rest) ↦
      shape.finished draft rest
  | chars => .error (wrongType shape.name chars)

end Shape

/-- Reads a value that fills a whole text. -/
def readWhole {α : Type} (reader : Reader α) (source : String) : Except Located α :=
  match reader source.toList with
  | .error fault => .error (fault.locate source)
  | .ok (value, rest) =>
    match skipSpace rest with
    | [] => .ok value
    | rest => .error ((Fault.into .trailingCharacters 1 rest).locate source)

end Exposure.Json
