/-!
# Shortest decimals

Every finite floating-point number stands for an interval of reals: those that round to it.
Its **shortest decimal** is the decimal in that interval with the fewest digits, and among
those the one nearest to the number. Where the number lies in the middle of two, a rule for
**ties** decides.

A number has the form `m * 2 ^ q`, so the ends of its interval lie half a unit of the last
place away, or a quarter below a power of two. Both ends belong to the interval exactly if
`m` is even. Everything is compared in natural numbers: as multiples of one common fraction.

For each number of digits there is a grid of decimals, and if the interval holds a point of
the grid it holds one of the two that surround the number (`Interval.nearest?`). Seventeen
digits always suffice.
-/

namespace Exposure.Decimal

/-- Which of two decimals stands for a number in the middle between them. -/
inductive Ties where
  /-- The larger one. -/
  | upward
  /-- The one whose last digit is even. -/
  | toEven
  deriving DecidableEq, Repr

/-- Decides between a count and its successor. -/
def Ties.decide (ties : Ties) (below : Nat) : Nat :=
  match ties with
  | .upward => below + 1
  | .toEven => if below % 2 = 0 then below else below + 1

/-- A positive number and the ends of an interval around it, in parts of which `unit` make
one. -/
structure Interval where
  low : Nat
  value : Nat
  high : Nat
  unit : Nat
  /-- Whether the ends belong to the interval. -/
  closed : Bool
  deriving DecidableEq, Repr

namespace Interval

/-- The same interval measured in powers of ten. -/
def onGrid (interval : Interval) (power : Int) : Interval :=
  if power < 0 then
    let scale := Nat.pow 10 (-power).toNat
    { interval with
      low := interval.low * scale
      value := interval.value * scale
      high := interval.high * scale }
  else { interval with unit := interval.unit * Nat.pow 10 power.toNat }

/-- Whether a whole number of units lies in the interval. -/
def holds (interval : Interval) (count : Nat) : Bool :=
  let point := count * interval.unit
  if interval.closed then interval.low ≤ point && point ≤ interval.high
  else interval.low < point && point < interval.high

/-- The whole number of units in the interval that is nearest to the number, if there is one. -/
def nearest? (interval : Interval) (ties : Ties) : Option Nat :=
  let below := interval.value / interval.unit
  match interval.holds below, interval.holds (below + 1) with
  | true, true =>
    let doubled := 2 * (interval.value % interval.unit)
    if doubled < interval.unit then some below
    else if doubled = interval.unit then some (ties.decide below)
    else some (below + 1)
  | true, false => some below
  | false, true => some (below + 1)
  | false, false => none

/-- The number of digits in front of the decimal point: the least power of ten above the
number, which is not positive for numbers below one tenth. -/
def magnitude (interval : Interval) : Int :=
  if interval.unit ≤ interval.value then
    (toString (interval.value / interval.unit)).length
  else
    let digits := (toString (interval.unit / interval.value)).length
    if interval.unit ≤ interval.value * Nat.pow 10 (digits - 1) then 2 - (digits : Int)
    else 1 - (digits : Int)

/-- The whole number nearest to the interval's on the finest grid it takes, with the power of
ten of that grid. Grids are tried from the coarsest, which has one digit. -/
def onFirstGrid (interval : Interval) (ties : Ties) (magnitude : Int) :
    Nat → (digits : Nat) → Nat × Int
  | 0, _ => (0, 0)
  | grids + 1, digits =>
    match (interval.onGrid (magnitude - digits)).nearest? ties with
    | some count => (count, magnitude - digits)
    | none => onFirstGrid interval ties magnitude grids (digits + 1)

/-- The most digits a number needs. -/
def mostDigits : Nat := 17

/-- The shortest decimal in an interval, as a count of a power of ten. -/
def shortest (interval : Interval) (ties : Ties) : Nat × Int :=
  interval.onFirstGrid ties interval.magnitude mostDigits 1

/-- The interval around the number `m * 2 ^ q`; `below` says whether the gap below the number
is half as wide as the one above it. -/
def ofBinary (m : Nat) (q : Int) (below : Bool) : Interval :=
  let low := if below then 4 * m - 1 else 4 * m - 2
  let closed : Bool := m % 2 = 0
  if q < 2 then ⟨low, 4 * m, 4 * m + 2, Nat.pow 2 (2 - q).toNat, closed⟩
  else
    let scale := Nat.pow 2 (q - 2).toNat
    ⟨low * scale, 4 * m * scale, (4 * m + 2) * scale, 1, closed⟩

end Interval

/-- What a floating-point number is. -/
inductive Reading where
  | notANumber
  | infinite (negative : Bool)
  | zero (negative : Bool)
  /-- A number other than zero, with the interval around its magnitude. -/
  | finite (negative : Bool) (interval : Interval)
  deriving DecidableEq, Repr

/-- Takes a floating-point number apart: one bit of sign, eleven of exponent, and fifty-two of
fraction. Numbers with the least exponent have no hidden bit. -/
def Reading.ofFloat (x : Float) : Reading :=
  let bits := x.toBits.toNat
  let negative : Bool := Nat.pow 2 63 ≤ bits
  let exponent : Nat := bits / Nat.pow 2 52 % Nat.pow 2 11
  let fraction : Nat := bits % Nat.pow 2 52
  if exponent = 2047 then if fraction = 0 then .infinite negative else .notANumber
  else if exponent = 0 then
    if fraction = 0 then .zero negative
    else .finite negative (.ofBinary fraction (-1074) false)
  else
    .finite negative
      (.ofBinary (Nat.pow 2 52 + fraction) ((exponent : Int) - 1075) (fraction = 0 && 1 < exponent))

end Exposure.Decimal
