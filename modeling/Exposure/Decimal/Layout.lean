import Exposure.Decimal.Shortest

/-!
# Layouts of decimals

A shortest decimal is a row of digits and a place for the decimal point. A **layout** decides
how the two are written: for which places the digits are written out with zeros, and whether a
whole number keeps a fraction of zero. It also says how ties between two shortest decimals go.
-/

namespace Exposure.Decimal

/-- A way to write decimals. -/
structure Layout where
  /-- The least and the greatest number of digits in front of the point for which no exponent
  is written; without bounds there never is one. -/
  plain : Option (Int × Int)
  /-- Whether a whole number that is written out ends in `.0`. -/
  keepsFraction : Bool
  /-- Which of two decimals that are equally near is written. -/
  ties : Ties
  deriving DecidableEq, Repr

/-- Every digit is written out, and whole numbers look like integers. -/
def Layout.full : Layout := ⟨none, false, .upward⟩

/-- Up to sixteen digits and down to four zeros behind the point are written out, and
whole numbers keep their point. -/
def Layout.scientific : Layout := ⟨some (-4, 16), true, .toEven⟩

/-- The digits without the zeros at their end. -/
def significant (digits : List Char) : List Char :=
  (digits.reverse.dropWhile (· = '0')).reverse

/-- The digits with the point behind the first `place` of them, filled up with zeros. -/
def Layout.written (layout : Layout) (digits : List Char) (place : Int) : List Char :=
  if place ≤ 0 then '0' :: '.' :: (List.replicate (-place).toNat '0' ++ digits)
  else if digits.length ≤ place.toNat then
    digits ++ List.replicate (place.toNat - digits.length) '0' ++
      if layout.keepsFraction then ['.', '0'] else []
  else digits.take place.toNat ++ '.' :: digits.drop place.toNat

/-- The digits with the point behind the first, and an exponent that always has a sign. -/
def raised (digits : List Char) (place : Int) : List Char :=
  let fraction := digits.drop 1
  let exponent := place - 1
  digits.take 1 ++ (if fraction.isEmpty then [] else '.' :: fraction) ++
    'e' :: (if exponent < 0 then '-' else '+') :: (toString exponent.natAbs).toList

/-- A row of digits with `place` of them in front of the point. -/
def Layout.placed (layout : Layout) (digits : List Char) (place : Int) : List Char :=
  match layout.plain with
  | none => layout.written digits place
  | some (least, greatest) =>
    if least ≤ place ∧ place ≤ greatest then layout.written digits place
    else raised digits place

/-- The text with a minus sign for negative numbers. -/
def signed (negative : Bool) (chars : List Char) : String :=
  String.ofList (if negative then '-' :: chars else chars)

/-- A floating-point number as text. -/
def Layout.render (layout : Layout) (x : Float) : String :=
  match Reading.ofFloat x with
  | .notANumber => "NaN"
  | .infinite negative => signed negative ['i', 'n', 'f']
  | .zero negative => signed negative (layout.written ['0'] 1)
  | .finite negative interval =>
    let (count, power) := interval.shortest layout.ties
    let digits := (toString count).toList
    signed negative (layout.placed (significant digits) (digits.length + power))

end Exposure.Decimal
