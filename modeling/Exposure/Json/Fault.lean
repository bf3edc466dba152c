import Exposure.Decimal.Layout
import Exposure.Text.Quoted

/-!
# Faults of JSON texts

Reading a JSON text stops at its first fault. A fault has a **cause** and a **place**, and the
place is kept as the number of bytes that were not consumed, because a reader knows what is
left and not what came before. `Fault.locate` turns it into a line and a column.

Causes fall into three categories: the text ends too early, it is no JSON, or it is JSON of the
wrong shape.
-/

namespace Exposure.Json

/-- What stands where something else was expected. -/
inductive Found where
  | null
  | bool (value : Bool)
  | integer (value : Int)
  | float (value : Float)
  | text (value : String)
  | list
  | object

/-- How a found value is called. -/
def Found.name : Found → String
  | null => "null"
  | bool true => "boolean `true`"
  | bool false => "boolean `false`"
  | integer value => "integer `" ++ toString value ++ "`"
  | float value => "floating point `" ++ Decimal.Layout.scientific.render value ++ "`"
  | text value => "string " ++ Text.quoted value
  | list => "sequence"
  | object => "map"

/-- Why a text cannot be read. -/
inductive Cause where
  | endInValue
  | endInList
  | endInObject
  | endInText
  | noValue
  /-- A word that starts like `null`, `true` or `false` goes on differently. -/
  | noWord
  | noColon
  | noListEnd
  | noObjectEnd
  | keyNoText
  | trailingComma
  | trailingCharacters
  | controlCharacter
  | invalidEscape
  /-- The first half of a surrogate pair is not followed by an escape. -/
  | missingSurrogate
  /-- A surrogate stands where it completes no pair. -/
  | loneSurrogate
  | invalidNumber
  | numberOutOfRange
  | wrongType (found : Found) (expected : String)
  | wrongLength (length : Nat) (expected : String)
  | missingField (key : String)
  | duplicateField (key : String)

/-- The three sorts of causes. -/
inductive Category where
  | ended
  | noJson
  | wrongShape
  deriving DecidableEq, Repr

namespace Cause

/-- The sort of a cause. -/
def category : Cause → Category
  | endInValue | endInList | endInObject | endInText => .ended
  | wrongType .. | wrongLength .. | missingField .. | duplicateField .. => .wrongShape
  | _ => .noJson

/-- The wording of a cause. -/
def message : Cause → String
  | endInValue => "EOF while parsing a value"
  | endInList => "EOF while parsing a list"
  | endInObject => "EOF while parsing an object"
  | endInText => "EOF while parsing a string"
  | noValue => "expected value"
  | noWord => "expected ident"
  | noColon => "expected `:`"
  | noListEnd => "expected `,` or `]`"
  | noObjectEnd => "expected `,` or `\x7d`"
  | keyNoText => "key must be a string"
  | trailingComma => "trailing comma"
  | trailingCharacters => "trailing characters"
  | controlCharacter => "control character (\\u0000-\\u001F) found while parsing a string"
  | invalidEscape => "invalid escape"
  | missingSurrogate => "unexpected end of hex escape"
  | loneSurrogate => "lone leading surrogate in hex escape"
  | invalidNumber => "invalid number"
  | numberOutOfRange => "number out of range"
  | wrongType found expected => "invalid type: " ++ found.name ++ ", expected " ++ expected
  | wrongLength length expected =>
    "invalid length " ++ toString length ++ ", expected " ++ expected
  | missingField key => "missing field `" ++ key ++ "`"
  | duplicateField key => "duplicate field `" ++ key ++ "`"

end Cause

/-- A cause and the number of bytes behind its place. -/
structure Fault where
  cause : Cause
  left : Nat

/-- The number of bytes that characters take. -/
def byteCount (chars : List Char) : Nat :=
  chars.foldl (fun count c ↦ count + c.utf8Size) 0

/-- A fault in front of the characters that are left. -/
def Fault.before (cause : Cause) (chars : List Char) : Fault := ⟨cause, byteCount chars⟩

/-- A fault a number of bytes into the characters that are left. -/
def Fault.into (cause : Cause) (count : Nat) (chars : List Char) : Fault :=
  ⟨cause, byteCount chars - count⟩

/-- A fault that has been placed: lines count from one, columns are the bytes consumed on the
line. -/
structure Located where
  cause : Cause
  line : Nat
  column : Nat

/-- The wording of a placed fault. -/
def Located.message (fault : Located) : String :=
  fault.cause.message ++ " at line " ++ toString fault.line ++ " column " ++
    toString fault.column

/-- Places a fault of a text. -/
def Fault.locate (text : String) (fault : Fault) : Located :=
  let bytes := text.toUTF8.toList
  let consumed := bytes.take (bytes.length - fault.left)
  ⟨fault.cause, 1 + consumed.count 10, (consumed.reverse.takeWhile (· ≠ 10)).length⟩

/-- A reader takes a value from the front of the characters and hands back the rest. -/
abbrev Reader (α : Type) := List Char → Except Fault (α × List Char)

/-- The characters behind the space at the front: blanks, tabs and line ends. -/
def skipSpace (chars : List Char) : List Char :=
  chars.dropWhile fun c ↦ c = ' ' || c = '\n' || c = '\t' || c = '\r'

end Exposure.Json
