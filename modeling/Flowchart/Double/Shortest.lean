import Flowchart.Double.Nearest

/-!
# The shortest decimal of a double

Among the decimal numbers that read back as a given double, one with the
fewest digits is written, and of these the one nearest to the double.

A double stands for all numbers between the middles towards its two
neighbours. `shortest` tries one digit, then two, and so on; on the grid of
decimals with so many digits only the two neighbours of the double can lie
between those middles if any does. Seventeen digits always suffice.
-/

namespace Flowchart.Double

/-- A positive number `significand * 2 ^ power` with the numbers that round
to it: all in units of `2 ^ power`, over a common denominator. -/
structure Interval where
  lower : Nat
  value : Nat
  upper : Nat
  denominator : Nat
  /-- Whether the ends round to the number as well. -/
  closed : Bool

/-- A positive decimal number, `digits * 10 ^ exponent`. -/
structure Decimal where
  digits : Nat
  exponent : Int
  deriving DecidableEq

/-- The interval of a double, given by its bits without the sign. -/
def intervalOf (bits : Nat) : Interval :=
  let biased := bits / Nat.pow 2 52
  let fraction := bits % Nat.pow 2 52
  let significand := if biased = 0 then fraction else fraction + Nat.pow 2 52
  let power : Int := (max biased 1 : Nat) - 1077
  let scale := Nat.pow 2 power.toNat
  let below := if fraction = 0 && 1 < biased then 1 else 2
  { lower := (4 * significand - below) * scale
    value := 4 * significand * scale
    upper := (4 * significand + 2) * scale
    denominator := Nat.pow 2 (-power).toNat
    closed := significand % 2 == 0 }

/-- The interval in units of a power of ten. -/
def Interval.inUnits (i : Interval) (exponent : Int) : Interval :=
  let up := Nat.pow 10 (-exponent).toNat
  { i with
    lower := i.lower * up
    value := i.value * up
    upper := i.upper * up
    denominator := i.denominator * Nat.pow 10 exponent.toNat }

/-- Whether a whole number lies in the interval. -/
def Interval.holds (i : Interval) (n : Nat) : Bool :=
  let n := n * i.denominator
  if i.closed then i.lower ≤ n && n ≤ i.upper else i.lower < n && n < i.upper

/-- The whole number in the interval that is nearest to its value. -/
def Interval.nearest? (i : Interval) : Option Nat :=
  let below := i.value / i.denominator
  let near := roundDiv i.value i.denominator
  let far := if near = below then below + 1 else below
  if i.holds near then some near else if i.holds far then some far else none

/-- The exponent of the first decimal digit of the value, or one less. -/
def Interval.leading (i : Interval) : Int :=
  if i.denominator ≤ i.value then digitCount (i.value / i.denominator) - 1
  else -digitCount (i.denominator / i.value)

/-- A decimal without zeros at the end of its digits. -/
def Decimal.trimmed (fuel : Nat) (d : Decimal) : Decimal :=
  match fuel with
  | 0 => d
  | fuel + 1 =>
    if d.digits % 10 = 0 then trimmed fuel ⟨d.digits / 10, d.exponent + 1⟩ else d

/-- The first grid with a decimal in the interval, from a count of digits on. -/
def Interval.search (i : Interval) (exponent : Int) : Nat → Decimal
  | 0 => ⟨(i.inUnits exponent).value / (i.inUnits exponent).denominator, exponent⟩
  | tries + 1 =>
    match (i.inUnits exponent).nearest? with
    | some n => ⟨n, exponent⟩
    | none => search i (exponent - 1) tries

/-- **The shortest decimal** of a positive finite double, given by its bits. -/
def shortest (bits : Nat) : Decimal :=
  let i := intervalOf bits
  (i.search i.leading 17).trimmed 20

end Flowchart.Double
