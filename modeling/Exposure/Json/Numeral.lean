import Exposure.Json.Fault

/-!
# Reading JSON numbers

A number is an optional minus sign, an integer without idle zeros, and perhaps a fraction and
an exponent. Integers that fit into 64 bits stay exact. Every other number becomes a
floating-point number: as many leading digits as fit into 64 bits are kept, the others only
move the exponent, and a power of ten is multiplied on or divided out.
-/

namespace Exposure.Json

/-- The value of a decimal digit. -/
def digitValue? (c : Char) : Option Nat :=
  if '0' ≤ c ∧ c ≤ '9' then some (c.toNat - 48) else none

/-- Whether a character is a decimal digit. -/
def isDigit (c : Char) : Bool := (digitValue? c).isSome

/-- The largest significand that is kept. -/
def significandLimit : Nat := Nat.pow 2 64 - 1

/-- The largest exponent that is kept. -/
def exponentLimit : Nat := Nat.pow 2 31 - 1

/-- Takes digits into a number as long as it stays within a limit: the number, how many
digits it took, and the rest. -/
def takeDigits (limit : Nat) : (value count : Nat) → List Char → Nat × Nat × List Char
  | value, count, [] => (value, count, [])
  | value, count, c :: rest =>
    match digitValue? c with
    | some digit =>
      if value * 10 + digit ≤ limit then takeDigits limit (value * 10 + digit) (count + 1) rest
      else (value, count, c :: rest)
    | none => (value, count, c :: rest)

/-- The greatest power of ten that is a floating-point number. -/
def greatestPower : Nat := 308

/-- A power of ten as a floating-point number. -/
def powerOfTen (exponent : Nat) : Float := Float.ofScientific 1 false exponent

/-- Divides by powers of ten until the exponent is used up or nothing is left. -/
def divideOut : (steps : Nat) → Float → (exponent : Nat) → Float
  | 0, value, _ => value
  | steps + 1, value, exponent =>
    if exponent ≤ greatestPower then value / powerOfTen exponent
    else if value == 0.0 then value
    else divideOut steps (value / powerOfTen greatestPower) (exponent - greatestPower)

/-- The floating-point number of a significand and an exponent, if it is in range. A
significand of 64 bits vanishes after three divisions by the greatest power. -/
def scaled? (significand : Nat) (exponent : Int) : Option Float :=
  let value := Float.ofNat significand
  if exponent < 0 then some (divideOut 4 value exponent.natAbs)
  else if exponent.toNat ≤ greatestPower then
    let product := value * powerOfTen exponent.toNat
    if product.isInf then none else some product
  else if value == 0.0 then some value
  else none

/-- The floating-point number of a significand and an exponent, in front of the rest. -/
def scaled (negative : Bool) (significand : Nat) (exponent : Int) : Reader Found := fun chars ↦
  match scaled? significand exponent with
  | some value => .ok (.float (if negative then -value else value), chars)
  | none => .error (.before .numberOutOfRange chars)

/-- The exponent of a number, from behind its letter. -/
def exponentPart (negative : Bool) (significand : Nat) (exponent : Int) : Reader Found :=
  fun chars ↦
    let (down, chars) : Bool × List Char := match chars with
      | '+' :: rest => (false, rest)
      | '-' :: rest => (true, rest)
      | chars => (false, chars)
    match chars with
    | [] => .error (.before .endInValue [])
    | c :: rest =>
      match digitValue? c with
      | none => .error (.into .invalidNumber 1 (c :: rest))
      | some digit =>
        let (raised, _, rest) := takeDigits exponentLimit digit 0 rest
        if isDigit (rest.headD ' ') then
          -- The exponent is out of bounds: the number is too, or it is zero.
          if significand ≠ 0 ∧ ¬ down then .error (.before .numberOutOfRange (rest.drop 1))
          else .ok (.float (if negative then -0.0 else 0.0), rest.dropWhile isDigit)
        else
          scaled negative significand (if down then exponent - raised else exponent + raised) rest

/-- What follows the digits of a number with a fraction. -/
def afterFraction (negative : Bool) (significand : Nat) (exponent : Int) : Reader Found
  | 'e' :: rest | 'E' :: rest => exponentPart negative significand exponent rest
  | chars => scaled negative significand exponent chars

/-- The fraction of a number, from behind its point. -/
def fractionPart (negative : Bool) (significand : Nat) (exponent : Int) : Reader Found :=
  fun chars ↦
    let (significand, count, rest) := takeDigits significandLimit significand 0 chars
    let behind := rest.dropWhile isDigit
    if count = 0 ∧ behind.length = rest.length then
      match rest with
      | [] => .error (.before .endInValue [])
      | _ => .error (.into .invalidNumber 1 rest)
    else afterFraction negative significand (exponent - count) behind

/-- What follows the integer digits of a number; `idle` counts the digits that did not fit
into its significand. -/
def afterInteger (negative : Bool) (significand idle : Nat) : Reader Found
  | '.' :: rest => fractionPart negative significand idle rest
  | 'e' :: rest | 'E' :: rest => exponentPart negative significand idle rest
  | chars =>
    if 0 < idle then scaled negative significand idle chars
    else if ¬ negative then .ok (.integer significand, chars)
    else if 0 < significand ∧ significand ≤ Nat.pow 2 63 then .ok (.integer (-significand), chars)
    else .ok (.float (-Float.ofNat significand), chars)

/-- A number, from behind its sign. -/
def numeral (negative : Bool) : Reader Found
  | [] => .error (.before .endInValue [])
  | '0' :: rest =>
    if isDigit (rest.headD ' ') then .error (.into .invalidNumber 1 rest)
    else afterInteger negative 0 0 rest
  | c :: rest =>
    if isDigit c then
      let (significand, _, more) := takeDigits significandLimit 0 0 (c :: rest)
      let behind := more.dropWhile isDigit
      afterInteger negative significand (more.length - behind.length) behind
    else .error (.into .invalidNumber 1 (c :: rest))

end Exposure.Json
