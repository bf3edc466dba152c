import Exposure.Decimal.Whole
import Exposure.Settings.Value
import Exposure.Text.Blank
import Exposure.Text.LetterCase
import Exposure.Toml.Numeral

/-!
# Settings in the environment

A variable whose name starts with `BP_`, in any letter case, sets what the rest of its name says:
two underscores separate the keys of nested tables, and letter case does not matter: each key is
taken in lower case, by itself. Blanks around the name and around its rest are dropped.

The value of a variable is read as `true` or `false`, a number, a quoted text, a list in brackets
or a table in braces. Whatever else has no brackets, braces or commas is a text without the blanks
around it. A value that reads only in part is a text as it stands, with its blanks.
-/

namespace Exposure.Settings.Environment

/-! ### Names -/

/-- The letters that settings in the environment start with, in lower case. -/
def marker : List Char := ['b', 'p', '_']

/-- The characters with a point for every two underscores. -/
def pointed : List Char → List Char
  | '_' :: '_' :: rest => '.' :: pointed rest
  | c :: rest => c :: pointed rest
  | [] => []

/-- The path of keys that a variable sets, if it sets any; no key is empty. -/
def path? (name : String) : Option (List String) :=
  let chars := Text.trimChars name.toList
  if (chars.take marker.length).map Char.toLower = marker then
    let rest := Text.trimChars (pointed (chars.drop marker.length))
    let path := (rest.splitOn '.').map String.ofList
    if path.contains "" then none else some (path.map Text.lower)
  else none

/-- The table in which a path leads to a value. -/
def nested (value : Value) : List String → Value
  | [] => value
  | key :: path => .table [(key, nested value path)]

/-! ### Values -/

/-- A reader of values. -/
abbrev Reader (α : Type) := List Char → Option (α × List Char)

/-- Whether a character is a blank around values. -/
def isSpace (c : Char) : Bool :=
  c = ' ' || c = '\t' || c = '\n' || c = '\x0c' || c = '\r'

/-- The characters behind the blanks at the front. -/
def skipSpace (chars : List Char) : List Char := chars.dropWhile isSpace

/-- Whether a character ends a plain value. -/
def isSeparator (c : Char) : Bool :=
  c = ',' || c = '\x7b' || c = '\x7d' || c = '[' || c = ']'

/-- Takes an expected word. -/
def word : List Char → List Char → Option (List Char)
  | [], chars => some chars
  | expected :: more, c :: rest => if c = expected then word more rest else none
  | _ :: _, [] => none

/-- Whether a character may stand for itself between quotes: anything but controls, of which only
the tab may. -/
def isPlain (c : Char) : Bool := c = '\t' || (0x20 ≤ c.val && c.val ≠ 0x7F)

/-- The characters of a quoted text from behind its opening quote. -/
def quotedChars : (steps : Nat) → Reader (List Char)
  | 0, _ => none
  | _ + 1, [] => none
  | _ + 1, '"' :: rest => some ([], rest)
  | steps + 1, '\\' :: rest =>
    (Toml.escape rest).bind fun (c, rest) ↦ Toml.prepend [c] (quotedChars steps rest)
  | steps + 1, c :: rest =>
    if isPlain c then Toml.prepend [c] (quotedChars steps rest) else none

/-- A quoted text from behind its opening quote. -/
def quoted (chars : List Char) : Option (String × List Char) :=
  (quotedChars (chars.length + 1) chars).map fun (value, rest) ↦ (String.ofList value, rest)

/-- The exponent of a float, with nothing behind it. -/
def exponent? : List Char → Option Int
  | [] => some 0
  | 'e' :: rest | 'E' :: rest =>
    let (negative, digits) := Toml.sign rest
    (Decimal.number? digits).map fun magnitude ↦
      let magnitude : Int := (min magnitude Toml.exponentBound : Nat)
      if negative then -magnitude else magnitude
  | _ => none

/-- A number with a point, digits on at least one side of it, and perhaps an exponent. -/
def float? (chars : List Char) : Option Float :=
  let (negative, chars) := Toml.sign chars
  let whole := chars.takeWhile Char.isDigit
  match chars.drop whole.length with
  | '.' :: rest =>
    let fraction := rest.takeWhile Char.isDigit
    (Decimal.number? (whole ++ fraction)).bind fun digits ↦
      (exponent? (rest.drop fraction.length)).map fun power ↦
        Toml.floatOf negative digits (power - fraction.length)
  | _ => none

/-- What a value is that nothing marks: a number or a text. -/
def plain (chars : List Char) : Value :=
  match float? chars with
  | some value => .float value
  | none =>
    match Decimal.count? chars with
    | some value => .count value
    | none =>
      match Decimal.negative? chars with
      | some value => .integer value
      | none => .text (String.ofList chars)

/-- The items of a list or a table from behind its opening character up to its closing one; a
comma may stand behind the last. -/
def items {α : Type} (closing : Char) (item : Reader α) : (steps : Nat) → Reader (List α)
  | 0, _ => none
  | steps + 1, chars =>
    match word [closing] chars with
    | some rest => some ([], rest)
    | none =>
      (item chars).bind fun (value, rest) ↦
        match rest with
        | ',' :: rest =>
          (items closing item steps rest).map fun (values, rest) ↦ (value :: values, rest)
        | rest => (word [closing] rest).map fun rest ↦ ([value], rest)

/-- A key of a table. -/
def key : Reader String
  | '"' :: rest => quoted rest
  | chars =>
    let bare := chars.takeWhile fun c ↦ c.isAlphanum || c = '_' || c = '-'
    if bare.isEmpty then none else some (String.ofList bare, chars.drop bare.length)

/-- A key with its value. -/
def entry (value : Reader Value) (chars : List Char) : Option ((String × Value) × List Char) :=
  (key (skipSpace chars)).bind fun (key, rest) ↦
    (word ['='] (skipSpace rest)).bind fun rest ↦
      (value rest).map fun (value, rest) ↦ ((key, value), skipSpace rest)

/-- The entries of a table; of two under one key the later counts. -/
def tableOf (entries : List (String × Value)) : Entries :=
  entries.foldl (fun below (key, value) ↦ Entries.put below key value) []

/-- A value in which lists and tables nest at most so deep, from its first character on. -/
def marked : (nesting : Nat) → Reader Value
  | 0, _ => none
  | nesting + 1, chars =>
    let value (chars : List Char) : Option (Value × List Char) :=
      (marked nesting (skipSpace chars)).map fun (value, rest) ↦ (value, skipSpace rest)
    match word ['t', 'r', 'u', 'e'] chars, word ['f', 'a', 'l', 's', 'e'] chars with
    | some rest, _ => some (.bool true, rest)
    | _, some rest => some (.bool false, rest)
    | none, none =>
      match chars with
      | '\x7b' :: rest =>
        (items '\x7d' (entry value) (rest.length + 1) rest).map fun (entries, rest) ↦
          (.table (tableOf entries), rest)
      | '[' :: rest =>
        (items ']' value (rest.length + 1) rest).map fun (values, rest) ↦ (.list values, rest)
      | '"' :: rest => (quoted rest).map fun (value, rest) ↦ (.text value, rest)
      | '\'' :: c :: '\'' :: rest => some (.letter c, rest)
      | '\'' :: _ => none
      | chars =>
        let shown := chars.takeWhile fun c ↦ !isSeparator c
        some (plain (Text.trimChars shown), chars.drop shown.length)

/-- The value of a variable. -/
def value (source : String) : Value :=
  match marked (source.length + 1) (skipSpace source.toList) with
  | some (value, rest) => if (skipSpace rest).isEmpty then value else .text source
  | none => .text source

/-! ### Layers -/

/-- The entries that variables set, each name with its value; of two variables that set the same
the later counts. -/
def entries (named : List (String × String)) : Entries :=
  named.foldl
    (fun below (name, source) ↦
      match path? name with
      | some (key :: path) => entriesOver below [(key, nested (value source) path)]
      | _ => below)
    []

end Exposure.Settings.Environment
