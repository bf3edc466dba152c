/-!
# Reading TOML strings

There are four sorts of strings: on one line or on several, with escapes or literal. A reader
takes a value from the front of the characters and hands back the rest; where the text breaks a
rule there is none.

Strings on several lines start behind an optional line end, and may end in up to two quotes of
their own in front of the three that close them.
-/

namespace Exposure.Toml

/-- A reader of TOML. -/
abbrev Reader (α : Type) := List Char → Option (α × List Char)

/-- Whether a character may stand in a line: no control character but the tab. -/
def isInline (c : Char) : Bool := c = '\t' || (0x20 ≤ c.toNat && c.toNat ≠ 0x7F)

/-- Takes a line end: a line feed, with or without a carriage return in front. -/
def lineEnd? : List Char → Option (List Char)
  | '\n' :: rest => some rest
  | '\r' :: '\n' :: rest => some rest
  | _ => none

/-- Whether a character is a blank within a line. -/
def isSpace (c : Char) : Bool := c = ' ' || c = '\t'

/-- The characters behind the blanks at the front. -/
def skipSpace (chars : List Char) : List Char := chars.dropWhile isSpace

/-- The value of a hexadecimal digit in either case. -/
def hexDigit? (c : Char) : Option Nat :=
  if '0' ≤ c ∧ c ≤ '9' then some (c.toNat - 48)
  else if 'a' ≤ c ∧ c ≤ 'f' then some (c.toNat - 87)
  else if 'A' ≤ c ∧ c ≤ 'F' then some (c.toNat - 55)
  else none

/-- The number that so many hexadecimal digits stand for. -/
def hexNumber : (digits : Nat) → (value : Nat) → Reader Nat
  | 0, value, chars => some (value, chars)
  | _ + 1, _, [] => none
  | digits + 1, value, c :: rest =>
    (hexDigit? c).bind fun digit ↦ hexNumber digits (value * 16 + digit) rest

/-- The character with a number, if there is one. -/
def scalar? (number : Nat) : Option Char :=
  if number.isValidChar then some (Char.ofNat number) else none

/-- The character that an escape stands for, from behind the backslash. -/
def escape : Reader Char
  | 'b' :: rest => some ('\x08', rest)
  | 't' :: rest => some ('\t', rest)
  | 'n' :: rest => some ('\n', rest)
  | 'f' :: rest => some ('\x0c', rest)
  | 'r' :: rest => some ('\r', rest)
  | '"' :: rest => some ('"', rest)
  | '\\' :: rest => some ('\\', rest)
  | 'u' :: rest => (hexNumber 4 0 rest).bind fun (number, rest) ↦
    (scalar? number).map fun c ↦ (c, rest)
  | 'U' :: rest => (hexNumber 8 0 rest).bind fun (number, rest) ↦
    (scalar? number).map fun c ↦ (c, rest)
  | _ => none

/-- Puts characters in front of what has been read. -/
def prepend (chars : List Char) (result : Option (List Char × List Char)) :
    Option (List Char × List Char) :=
  result.map fun (value, rest) ↦ (chars ++ value, rest)

/-- The characters of a string with escapes on one line, from behind its opening quote. -/
def basicChars : (steps : Nat) → Reader (List Char)
  | 0, _ => none
  | _ + 1, [] => none
  | _ + 1, '"' :: rest => some ([], rest)
  | steps + 1, '\\' :: rest =>
    (escape rest).bind fun (c, rest) ↦ prepend [c] (basicChars steps rest)
  | steps + 1, c :: rest => if isInline c then prepend [c] (basicChars steps rest) else none

/-- The characters of a literal string on one line, from behind its opening quote. -/
def literalChars : Reader (List Char)
  | [] => none
  | '\'' :: rest => some ([], rest)
  | c :: rest => if isInline c then prepend [c] (literalChars rest) else none

/-- Reads the end of a string on several lines at a run of quotes: the quotes that belong to the
string, and the rest. -/
def closing? (quote : Char) (chars : List Char) : Option (List Char × List Char) :=
  let run := (chars.takeWhile (· = quote)).length
  if 3 ≤ run then
    let own := min run 5 - 3
    some (List.replicate own quote, chars.drop (own + 3))
  else none

/-- The characters behind the blanks and line ends that follow an escaped line end. -/
def skipLines : (steps : Nat) → List Char → List Char
  | 0, chars => chars
  | steps + 1, chars =>
    match lineEnd? (skipSpace chars) with
    | some rest => skipLines steps rest
    | none => skipSpace chars

/-- Takes a line end behind a backslash, and all blanks and line ends around it. -/
def escapedLineEnd? (chars : List Char) : Option (List Char) :=
  (lineEnd? (skipSpace chars)).map fun rest ↦ skipLines (rest.length + 1) rest

/-- The characters of a string on several lines; `escapes` says whether the backslash has its
meaning. -/
def blockChars (quote : Char) (escapes : Bool) : (steps : Nat) → Reader (List Char)
  | 0, _ => none
  | steps + 1, chars =>
    match closing? quote chars with
    | some result => some result
    | none =>
      match lineEnd? chars with
      | some rest => prepend ['\n'] (blockChars quote escapes steps rest)
      | none =>
        match chars with
        | [] => none
        | c :: rest =>
          if escapes ∧ c = '\\' then
            match escapedLineEnd? rest with
            | some rest => blockChars quote escapes steps rest
            | none => (escape rest).bind fun (c, rest) ↦
              prepend [c] (blockChars quote escapes steps rest)
          else if isInline c then prepend [c] (blockChars quote escapes steps rest)
          else none

/-- A string on several lines, from behind its opening quotes. -/
def block (quote : Char) (escapes : Bool) (chars : List Char) : Option (String × List Char) :=
  let chars := (lineEnd? chars).getD chars
  (blockChars quote escapes (chars.length + 1) chars).map fun (value, rest) ↦
    (String.ofList value, rest)

/-- A string on one line. -/
def line : Reader String
  | '"' :: rest => (basicChars (rest.length + 1) rest).map fun (value, rest) ↦
    (String.ofList value, rest)
  | '\'' :: rest => (literalChars rest).map fun (value, rest) ↦ (String.ofList value, rest)
  | _ => none

/-- A string of any sort. -/
def text : Reader String
  | '"' :: '"' :: '"' :: rest => block '"' true rest
  | '\'' :: '\'' :: '\'' :: rest => block '\'' false rest
  | chars => line chars

end Exposure.Toml
