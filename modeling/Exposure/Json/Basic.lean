/-!
# JSON values and their two written forms

The JSON that documents, reports and envelopes are made of. Objects keep their fields in the
order given. There are two written forms, `compact` without any space and `pretty` with one
item a line; both write strings alike: quotes, backslashes and the control characters below
U+0020 are escaped, everything else stands as it is.
-/

namespace Exposure

/-- A JSON value. Numbers are the counts that reports hold. -/
inductive Json where
  | null
  | bool (value : Bool)
  | num (value : Nat)
  | str (value : String)
  | arr (items : List Json)
  | obj (fields : List (String × Json))

namespace Json

/-- A list of texts. -/
def strings (texts : List String) : Json := .arr (texts.map .str)

/-- A lower-case hexadecimal digit. -/
def hexDigit (n : Nat) : Char :=
  if n < 10 then Char.ofNat (48 + n) else Char.ofNat (87 + n)

/-- A character as it stands inside a written string. -/
def escapeChar (c : Char) : List Char :=
  if c = '"' then ['\\', '"']
  else if c = '\\' then ['\\', '\\']
  else if c = '\x08' then ['\\', 'b']
  else if c = '\x0c' then ['\\', 'f']
  else if c = '\n' then ['\\', 'n']
  else if c = '\r' then ['\\', 'r']
  else if c = '\t' then ['\\', 't']
  else if c.toNat < 0x20 then
    ['\\', 'u', '0', '0', hexDigit (c.toNat / 16), hexDigit (c.toNat % 16)]
  else [c]

/-- A string with its quotes. -/
def quote (s : String) : List Char :=
  '"' :: (s.toList.flatMap escapeChar ++ ['"'])

mutual

/-- The characters of the compact form. -/
def compactChars : Json → List Char
  | null => ['n', 'u', 'l', 'l']
  | bool true => ['t', 'r', 'u', 'e']
  | bool false => ['f', 'a', 'l', 's', 'e']
  | num value => (toString value).toList
  | str value => quote value
  | arr [] => ['[', ']']
  | arr (item :: items) => '[' :: (compactChars item ++ compactItems items)
  | obj [] => ['\x7b', '\x7d']
  | obj ((key, value) :: fields) =>
    '\x7b' :: (quote key ++ ':' :: (compactChars value ++ compactFields fields))

/-- The items after the first, and the closing bracket. -/
def compactItems : List Json → List Char
  | [] => [']']
  | item :: items => ',' :: (compactChars item ++ compactItems items)

/-- The fields after the first, and the closing brace. -/
def compactFields : List (String × Json) → List Char
  | [] => ['\x7d']
  | (key, value) :: fields =>
    ',' :: (quote key ++ ':' :: (compactChars value ++ compactFields fields))

end

/-- The compact form. -/
def compact (json : Json) : String := String.ofList json.compactChars

/-- A new line at a depth of nesting, two blanks a level. -/
def newLine (depth : Nat) : List Char := '\n' :: List.replicate (2 * depth) ' '

mutual

/-- The characters of the pretty form of a value that stands at a depth of nesting. -/
def prettyChars (depth : Nat) : Json → List Char
  | null => ['n', 'u', 'l', 'l']
  | bool true => ['t', 'r', 'u', 'e']
  | bool false => ['f', 'a', 'l', 's', 'e']
  | num value => (toString value).toList
  | str value => quote value
  | arr [] => ['[', ']']
  | arr (item :: items) =>
    '[' :: (newLine (depth + 1) ++ (prettyChars (depth + 1) item ++ prettyItems depth items))
  | obj [] => ['\x7b', '\x7d']
  | obj ((key, value) :: fields) =>
    '\x7b' :: (newLine (depth + 1) ++ (quote key ++
      ':' :: ' ' :: (prettyChars (depth + 1) value ++ prettyFields depth fields)))

/-- The items after the first, one a line, and the closing bracket. -/
def prettyItems (depth : Nat) : List Json → List Char
  | [] => newLine depth ++ [']']
  | item :: items =>
    ',' :: (newLine (depth + 1) ++ (prettyChars (depth + 1) item ++ prettyItems depth items))

/-- The fields after the first, one a line, and the closing brace. -/
def prettyFields (depth : Nat) : List (String × Json) → List Char
  | [] => newLine depth ++ ['\x7d']
  | (key, value) :: fields =>
    ',' :: (newLine (depth + 1) ++ (quote key ++
      ':' :: ' ' :: (prettyChars (depth + 1) value ++ prettyFields depth fields)))

end

/-- The pretty form. -/
def pretty (json : Json) : String := String.ofList (json.prettyChars 0)

end Json

end Exposure
