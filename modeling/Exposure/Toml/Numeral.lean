import Exposure.Toml.Text

/-!
# Reading TOML numbers

A whole number is written in decimal with an optional sign and without idle zeros, or in
hexadecimal, octal or binary behind `0x`, `0o` or `0b` without a sign; it must fit into 64 bits.
A float has a fraction, an exponent, or both, or is `inf` or `nan`. Between two digits one
underscore may stand.
-/

namespace Exposure.Toml

/-- The value of a digit below a base of at most sixteen. -/
def digitBelow? (base : Nat) (c : Char) : Option Nat :=
  (hexDigit? c).filter (· < base)

/-- Takes the digits at the front, with single underscores between them: their values. A digit
must come first and behind every underscore. -/
def digits (base : Nat) : Reader (List Nat)
  | [] => none
  | [c] => (digitBelow? base c).map fun digit ↦ ([digit], [])
  | c :: d :: rest =>
    (digitBelow? base c).bind fun digit ↦
      if d = '_' then (digits base rest).map fun (values, rest) ↦ (digit :: values, rest)
      else if (digitBelow? base d).isSome then
        (digits base (d :: rest)).map fun (values, rest) ↦ (digit :: values, rest)
      else some ([digit], d :: rest)

/-- The number that digits stand for. -/
def ofDigits (base : Nat) (values : List Nat) : Nat :=
  values.foldl (fun number digit ↦ number * base + digit) 0

/-- Takes an optional sign: whether it is a minus. -/
def sign : List Char → Bool × List Char
  | '+' :: rest => (false, rest)
  | '-' :: rest => (true, rest)
  | chars => (false, chars)

/-- The decimal digits of a whole number; nothing follows a leading zero. -/
def wholeDigits : Reader (List Nat)
  | '0' :: rest => some ([0], rest)
  | chars => digits 10 chars

/-- A whole number that fits into 64 bits with a sign. -/
def fitting? (number : Int) : Option Int :=
  if -Int.pow 2 63 ≤ number ∧ number < Int.pow 2 63 then some number else none

/-- A whole number. -/
def integer (chars : List Char) : Option (Int × List Char) :=
  let based (base : Nat) (chars : List Char) : Option (Int × List Char) :=
    (digits base chars).bind fun (values, rest) ↦
      (fitting? (ofDigits base values)).map fun number ↦ (number, rest)
  match chars with
  | '0' :: 'x' :: rest => based 16 rest
  | '0' :: 'o' :: rest => based 8 rest
  | '0' :: 'b' :: rest => based 2 rest
  | chars =>
    let (negative, chars) := sign chars
    (wholeDigits chars).bind fun (values, rest) ↦
      let number : Int := ofDigits 10 values
      (fitting? (if negative then -number else number)).map fun number ↦ (number, rest)

/-- The floating-point number of decimal digits with a power of ten. -/
def floatOf (negative : Bool) (digits : Nat) (exponent : Int) : Float :=
  let magnitude :=
    if exponent < 0 then Float.ofScientific digits true exponent.natAbs
    else Float.ofScientific digits false exponent.toNat
  if negative then -magnitude else magnitude

/-- Powers of ten beyond this bound make any number of digits that can be written vanish or
overflow, up to the number of its digits. -/
def exponentBound : Nat := 100000

/-- The exponent of a float from behind its letter. -/
def exponent (chars : List Char) : Option (Int × List Char) :=
  let (negative, chars) := sign chars
  (digits 10 chars).map fun (values, rest) ↦
    let magnitude : Int := (min (ofDigits 10 values) exponentBound : Nat)
    (if negative then -magnitude else magnitude, rest)

/-- The fraction and the exponent of a float, of which it needs at least one. -/
def fractionAndExponent (chars : List Char) : Option (List Nat × Int × List Char) :=
  let behind (fraction : List Nat) : List Char → Option (List Nat × Int × List Char)
    | 'e' :: rest | 'E' :: rest => (exponent rest).map fun (power, rest) ↦ (fraction, power, rest)
    | rest => some (fraction, 0, rest)
  match chars with
  | '.' :: rest => (digits 10 rest).bind fun (fraction, rest) ↦ behind fraction rest
  | 'e' :: _ | 'E' :: _ => behind [] chars
  | _ => none

/-- A float. It may overflow only to the negative side. -/
def float (chars : List Char) : Option (Float × List Char) :=
  let (negative, chars) := sign chars
  match chars with
  | 'i' :: 'n' :: 'f' :: rest => some (if negative then -1.0 / 0.0 else 1.0 / 0.0, rest)
  | 'n' :: 'a' :: 'n' :: rest => some (0.0 / 0.0, rest)
  | chars =>
    (wholeDigits chars).bind fun (whole, rest) ↦
      (fractionAndExponent rest).bind fun (fraction, power, rest) ↦
        let value := floatOf negative (ofDigits 10 (whole ++ fraction)) (power - fraction.length)
        if value.isInf && !negative then none else some (value, rest)

end Exposure.Toml
