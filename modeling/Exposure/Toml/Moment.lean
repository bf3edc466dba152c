import Exposure.Toml.Text

/-!
# Reading TOML dates and times

A moment is a date, a time, or a date with a time and perhaps an offset. Only that a moment is
well formed matters here, and how it was written: years have four digits, all else has two, days
fit their month, and a minute may have sixty-one seconds.
-/

namespace Exposure.Toml

/-- Takes a number of decimal digits within bounds. -/
def bounded (count least greatest : Nat) (chars : List Char) : Option (Nat × List Char) :=
  let digits := chars.take count
  if digits.length = count ∧ digits.all Char.isDigit then
    let number := digits.foldl (fun number c ↦ number * 10 + (c.toNat - 48)) 0
    if least ≤ number ∧ number ≤ greatest then some (number, chars.drop count) else none
  else none

/-- Takes an expected character. -/
def exactly (expected : Char) : List Char → Option (List Char)
  | c :: rest => if c = expected then some rest else none
  | [] => none

/-- Whether a year has a leap day. -/
def isLeap (year : Nat) : Bool := (year % 4 = 0 && year % 100 ≠ 0) || year % 400 = 0

/-- The number of days of a month. -/
def daysOf (year month : Nat) : Nat :=
  if month = 2 then if isLeap year then 29 else 28
  else if month ∈ [4, 6, 9, 11] then 30
  else 31

/-- Takes a date. -/
def date? (chars : List Char) : Option (List Char) := do
  let (year, chars) ← bounded 4 0 9999 chars
  let chars ← exactly '-' chars
  let (month, chars) ← bounded 2 1 12 chars
  let chars ← exactly '-' chars
  let (_, chars) ← bounded 2 1 (daysOf year month) chars
  return chars

/-- Takes a time of day; a fraction of a second has at least one digit. -/
def time? (chars : List Char) : Option (List Char) := do
  let (_, chars) ← bounded 2 0 23 chars
  let chars ← exactly ':' chars
  let (_, chars) ← bounded 2 0 59 chars
  let chars ← exactly ':' chars
  let (_, chars) ← bounded 2 0 60 chars
  match chars with
  | '.' :: c :: rest => return if c.isDigit then rest.dropWhile Char.isDigit else chars
  | _ => return chars

/-- Takes an offset from universal time. -/
def offset? : List Char → Option (List Char)
  | 'Z' :: rest | 'z' :: rest => some rest
  | '+' :: rest | '-' :: rest => do
    let (_, rest) ← bounded 2 0 23 rest
    let rest ← exactly ':' rest
    let (_, rest) ← bounded 2 0 59 rest
    return rest
  | _ => none

/-- Takes a time with an optional offset behind a date, if there is one. -/
def timeBehindDate (chars : List Char) : List Char :=
  let time := match chars with
    | 'T' :: rest | 't' :: rest | ' ' :: rest => time? rest
    | _ => none
  match time with
  | some rest => (offset? rest).getD rest
  | none => chars

/-- Takes a moment. -/
def moment? (chars : List Char) : Option (List Char) :=
  match date? chars with
  | some rest => some (timeBehindDate rest)
  | none => time? chars

/-- A moment as it was written. -/
def moment (chars : List Char) : Option (String × List Char) :=
  (moment? chars).map fun rest ↦ (String.ofList (chars.take (chars.length - rest.length)), rest)

end Exposure.Toml
