import Exposure.Json.Numeral
import Exposure.Json.Text

/-!
# Skipping JSON values

A value that nobody asks for is only checked, not kept. Values nest to any depth, so what is
still open is kept in a list, innermost first: `skipOpen` stands where a value is expected, and
`leave` goes from behind a value to where the next one is expected.

The check is a little coarser than reading: of an escape `\u` only the digits are looked at, and
numbers may be of any size.
-/

namespace Exposure.Json

/-- Takes the rest of a word. -/
def word : List Char → List Char → Except Fault (List Char)
  | [], chars => .ok chars
  | _ :: _, [] => .error (.before .endInValue [])
  | expected :: more, c :: rest =>
    if c = expected then word more rest else .error (.into .noWord 1 (c :: rest))

/-- Skips an escape from behind its backslash. -/
def skipEscape : List Char → Except Fault (List Char)
  | [] => .error (.before .endInText [])
  | 'u' :: rest =>
    if byteCount (rest.take 4) < 4 then .error (.before .endInText [])
    else if (rest.take 4).all (fun c ↦ (hexValue? c).isSome) then .ok (rest.drop 4)
    else .error (.into .invalidEscape 4 rest)
  | c :: rest =>
    if (shortEscape? c).isSome then .ok rest
    else .error (.into .invalidEscape 1 (c :: rest))

/-- Skips a string from behind its opening quote, in at most so many steps. -/
def skipText : (steps : Nat) → List Char → Except Fault (List Char)
  | 0, chars => .error (.before .endInText chars)
  | _ + 1, [] => .error (.before .endInText [])
  | _ + 1, '"' :: rest => .ok rest
  | steps + 1, '\\' :: rest =>
    match skipEscape rest with
    | .error fault => .error fault
    | .ok rest => skipText steps rest
  | steps + 1, c :: rest =>
    if c.toNat < 0x20 then .error (.before .controlCharacter (c :: rest)) else skipText steps rest

/-- Skips an exponent from behind its letter. -/
def skipExponent (chars : List Char) : Except Fault (List Char) :=
  let chars := match chars with
    | '+' :: rest | '-' :: rest => rest
    | chars => chars
  if isDigit (chars.headD ' ') then .ok (chars.dropWhile isDigit)
  else .error (.into .invalidNumber 1 chars)

/-- Skips an exponent if there is one. -/
def skipAfterFraction : List Char → Except Fault (List Char)
  | 'e' :: rest | 'E' :: rest => skipExponent rest
  | chars => .ok chars

/-- Skips what follows the integer digits of a number. -/
def skipAfterInteger : List Char → Except Fault (List Char)
  | '.' :: rest =>
    if isDigit (rest.headD ' ') then skipAfterFraction (rest.dropWhile isDigit)
    else .error (.into .invalidNumber 1 rest)
  | chars => skipAfterFraction chars

/-- Skips a number from behind its sign. -/
def skipNumeral : List Char → Except Fault (List Char)
  | '0' :: rest =>
    if isDigit (rest.headD ' ') then .error (.into .invalidNumber 1 rest)
    else skipAfterInteger rest
  | chars =>
    if isDigit (chars.headD ' ') then skipAfterInteger (chars.dropWhile isDigit)
    else .error (.into .invalidNumber 1 chars)

/-- Skips a value that holds no others, from its first character on. -/
def skipScalar : List Char → Except Fault (List Char)
  | [] => .error (.before .endInValue [])
  | 'n' :: rest => word ['u', 'l', 'l'] rest
  | 't' :: rest => word ['r', 'u', 'e'] rest
  | 'f' :: rest => word ['a', 'l', 's', 'e'] rest
  | '"' :: rest => skipText (rest.length + 1) rest
  | '-' :: rest => skipNumeral rest
  | c :: rest =>
    if isDigit c then skipNumeral (c :: rest) else .error (.into .noValue 1 (c :: rest))

/-- What a value can be inside of. -/
inductive Enclosure where
  | list
  | object
  deriving DecidableEq, Repr

namespace Enclosure

/-- The enclosure that a character opens. -/
def ofOpening? : Char → Option Enclosure
  | '[' => some list
  | '\x7b' => some object
  | _ => none

/-- The character that closes an enclosure. -/
def closing : Enclosure → Char
  | list => ']'
  | object => '\x7d'

/-- The cause of a text that ends inside an enclosure. -/
def ending : Enclosure → Cause
  | list => .endInList
  | object => .endInObject

/-- The cause of an enclosure that goes on with neither a comma nor its closing character. -/
def noEnd : Enclosure → Cause
  | list => .noListEnd
  | object => .noObjectEnd

end Enclosure

/-- Takes the colon between a key and its value. -/
def colon (chars : List Char) : Except Fault (List Char) :=
  match skipSpace chars with
  | [] => .error (.before .endInObject [])
  | ':' :: rest => .ok rest
  | chars => .error (.into .noColon 1 chars)

/-- Skips to where the value of an item is expected: in an object past its key. -/
def skipToValue (enclosure : Enclosure) (chars : List Char) : Except Fault (List Char) :=
  match enclosure with
  | .list => .ok chars
  | .object =>
    match skipSpace chars with
    | [] => .error (.before .endInObject [])
    | '"' :: rest => (skipText (rest.length + 1) rest).bind colon
    | chars => .error (.into .keyNoText 1 chars)

/-- Goes from behind a value to the next one of the innermost enclosure that has one; when
nothing is open any more, there is none. -/
def leave : (opened : List Enclosure) → Reader (List Enclosure)
  | [], chars => .ok ([], chars)
  | enclosure :: outer, chars =>
    match skipSpace chars with
    | [] => .error (.before enclosure.ending [])
    | c :: rest =>
      if c = ',' then
        (skipToValue enclosure rest).map fun rest ↦ (enclosure :: outer, rest)
      else if c = enclosure.closing then leave outer rest
      else .error (.into enclosure.noEnd 1 (c :: rest))

/-- Enters an enclosure from behind its opening character: it may close at once, and otherwise
its first value comes next. -/
def enter (enclosure : Enclosure) (opened : List Enclosure) : Reader (List Enclosure) :=
  fun chars ↦
    match skipSpace chars with
    | [] => .error (.before enclosure.ending [])
    | c :: rest =>
      if c = enclosure.closing then leave opened rest
      else (skipToValue enclosure (c :: rest)).map fun rest ↦ (enclosure :: opened, rest)

/-- Skips from where a value is expected until nothing is open any more. Every step takes a
character. -/
def skipOpen : (steps : Nat) → (opened : List Enclosure) → List Char → Except Fault (List Char)
  | 0, _, chars => .error (.before .endInValue chars)
  | steps + 1, opened, chars =>
    match skipSpace chars with
    | [] => .error (.before .endInValue [])
    | c :: rest =>
      let next := match Enclosure.ofOpening? c with
        | some enclosure => enter enclosure opened rest
        | none => (skipScalar (c :: rest)).bind (leave opened)
      match next with
      | .error fault => .error fault
      | .ok ([], rest) => .ok rest
      | .ok (opened, rest) => skipOpen steps opened rest

/-- Skips a value. -/
def skip (chars : List Char) : Except Fault (List Char) :=
  skipOpen (chars.length + 1) [] chars

end Exposure.Json
