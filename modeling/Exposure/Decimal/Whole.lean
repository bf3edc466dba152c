/-!
# Whole numbers in decimal

Readers of whole numbers that fill a text: any row of decimal digits, idle zeros included.
-/

namespace Exposure.Decimal

/-- The number that decimal digits stand for, if there are any and nothing else. -/
def number? (chars : List Char) : Option Nat :=
  if chars.isEmpty ∨ ¬ chars.all Char.isDigit then none
  else some (chars.foldl (fun number c ↦ number * 10 + (c.toNat - 48)) 0)

/-- A number below `2 ^ 64`, perhaps with a plus in front. -/
def count? (chars : List Char) : Option Nat :=
  let digits := match chars with
    | '+' :: rest => rest
    | chars => chars
  (number? digits).filter (· < Nat.pow 2 64)

/-- A number behind a minus, from `-2 ^ 63` on. -/
def negative? : List Char → Option Int
  | '-' :: rest =>
    (number? rest).bind fun number ↦
      if number ≤ Nat.pow 2 63 then some (-(number : Int)) else none
  | _ => none

end Exposure.Decimal
