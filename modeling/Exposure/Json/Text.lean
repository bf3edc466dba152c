import Exposure.Json.Fault

/-!
# Reading JSON strings

A string is read from behind its opening quote up to its closing one. Characters below U+0020
must be escaped. An escape `\u` names a unit of UTF-16 by four hexadecimal digits; a unit that
starts a surrogate pair must be followed at once by an escape for the other half.
-/

namespace Exposure.Json

/-- The value of a hexadecimal digit in either case. -/
def hexValue? (c : Char) : Option Nat :=
  if '0' ≤ c ∧ c ≤ '9' then some (c.toNat - 48)
  else if 'a' ≤ c ∧ c ≤ 'f' then some (c.toNat - 87)
  else if 'A' ≤ c ∧ c ≤ 'F' then some (c.toNat - 55)
  else none

/-- The unit that four hexadecimal digits name. Four bytes are taken whatever they are, so a
longer character among them spoils the escape. -/
def hexUnit : Reader Nat
  | chars =>
    if byteCount (chars.take 4) < 4 then .error (.before .endInText [])
    else match chars with
      | a :: b :: c :: d :: rest =>
        match hexValue? a, hexValue? b, hexValue? c, hexValue? d with
        | some a, some b, some c, some d => .ok (a * 4096 + b * 256 + c * 16 + d, rest)
        | _, _, _, _ => .error (.into .invalidEscape 4 chars)
      | _ => .error (.into .invalidEscape 4 chars)

/-- The second half of a surrogate pair, as an escape of its own. -/
def secondHalf : Reader Nat
  | [] => .error (.before .endInText [])
  | '\\' :: [] => .error (.before .endInText [])
  | '\\' :: 'u' :: rest =>
    match hexUnit rest with
    | .error fault => .error fault
    | .ok (unit, rest) =>
      if 0xDC00 ≤ unit ∧ unit ≤ 0xDFFF then .ok (unit, rest)
      else .error (.before .loneSurrogate rest)
  | '\\' :: rest => .error (.into .missingSurrogate 1 rest)
  | chars => .error (.into .missingSurrogate 1 chars)

/-- The character that an escape `\u` stands for, from behind the `u`. -/
def unitEscape (chars : List Char) : Except Fault (Char × List Char) :=
  match hexUnit chars with
  | .error fault => .error fault
  | .ok (first, rest) =>
    if 0xDC00 ≤ first ∧ first ≤ 0xDFFF then .error (.before .loneSurrogate rest)
    else if 0xD800 ≤ first ∧ first ≤ 0xDBFF then
      match secondHalf rest with
      | .error fault => .error fault
      | .ok (second, rest) =>
        .ok (Char.ofNat ((first - 0xD800) * 0x400 + (second - 0xDC00) + 0x10000), rest)
    else .ok (Char.ofNat first, rest)

/-- The character that a letter behind a backslash stands for. -/
def shortEscape? : Char → Option Char
  | '"' => some '"'
  | '\\' => some '\\'
  | '/' => some '/'
  | 'b' => some '\x08'
  | 'f' => some '\x0c'
  | 'n' => some '\n'
  | 'r' => some '\r'
  | 't' => some '\t'
  | _ => none

/-- The character that an escape stands for, from behind the backslash. -/
def escape : Reader Char
  | [] => .error (.before .endInText [])
  | 'u' :: rest => unitEscape rest
  | c :: rest =>
    match shortEscape? c with
    | some value => .ok (value, rest)
    | none => .error (.into .invalidEscape 1 (c :: rest))

/-- The characters of a string, from behind its opening quote. Every step takes a character,
so the number of characters suffices as the number of steps. -/
def textChars : (steps : Nat) → Reader (List Char)
  | 0, chars => .error (.before .endInText chars)
  | _ + 1, [] => .error (.before .endInText [])
  | _ + 1, '"' :: rest => .ok ([], rest)
  | steps + 1, '\\' :: rest =>
    match escape rest with
    | .error fault => .error fault
    | .ok (c, rest) => (textChars steps rest).map fun (value, rest) ↦ (c :: value, rest)
  | steps + 1, c :: rest =>
    if c.toNat < 0x20 then .error (.before .controlCharacter rest)
    else (textChars steps rest).map fun (value, rest) ↦ (c :: value, rest)

/-- The value of a string, from behind its opening quote. -/
def text : Reader String := fun chars ↦
  (textChars (chars.length + 1) chars).map fun (value, rest) ↦ (String.ofList value, rest)

end Exposure.Json
