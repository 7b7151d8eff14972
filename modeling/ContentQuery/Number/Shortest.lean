import ContentQuery.Number.Binary

/-!
# Shortest decimal text of a float

A float is written with the fewest significant digits that read back as the same float; among those
the nearest to its exact value, and the larger of two equally near. The notation is positional at
every magnitude, and a whole number has no decimal point.

`DecimalInterval` holds the numbers that read back as one float. `DecimalInterval.onGrid` looks for
them among the multiples of a power of ten, and `DecimalInterval.shortest` tries ever finer grids,
so the first grid with a hit has the fewest digits.
-/

namespace ContentQuery

/-- The interval of numbers that round to one float, as numerators over a common denominator. -/
structure DecimalInterval where
  low : Nat
  value : Nat
  high : Nat
  denominator : Nat
  /-- The two ends round to the float as well. -/
  closed : Bool

namespace DecimalInterval

/-- The numbers nearer to `mantissa · 2 ^ exponent` than to any other float. Below a power of two
the floats lie twice as dense, except at the bottom of the range. -/
def around (mantissa : Nat) (exponent : Int) : DecimalInterval :=
  let unit := Nat.pow 2 exponent.toNat
  let below := if mantissa = Nat.pow 2 52 ∧ -1074 < exponent then 1 else 2
  { low := (4 * mantissa - below) * unit
    value := 4 * mantissa * unit
    high := (4 * mantissa + 2) * unit
    denominator := 4 * Nat.pow 2 (-exponent).toNat
    closed := mantissa % 2 == 0 }

/-- Membership of `digits · 10 ^ power`. -/
def admits (interval : DecimalInterval) (digits : Nat) (power : Int) : Bool :=
  let number := digits * Nat.pow 10 power.toNat * interval.denominator
  let factor := Nat.pow 10 (-power).toNat
  if interval.closed then interval.low * factor ≤ number && number ≤ interval.high * factor
  else interval.low * factor < number && number < interval.high * factor

/-- The member nearest to the value among the multiples of `10 ^ power`, the larger of two equally
near ones. -/
def onGrid (interval : DecimalInterval) (power : Int) : Option Nat :=
  let numerator := interval.value * Nat.pow 10 (-power).toNat
  let denominator := interval.denominator * Nat.pow 10 power.toNat
  let below := numerator / denominator
  match interval.admits below power, interval.admits (below + 1) power with
  | true, true =>
    some (if 2 * (numerator % denominator) < denominator then below else below + 1)
  | true, false => some below
  | false, true => some (below + 1)
  | false, false => none

/-- Tries `count` grids from `10 ^ power` downwards and gives the digits with their power of ten. -/
def search (interval : DecimalInterval) : Nat → Int → Nat × Int
  | 0, power =>
    (interval.value * Nat.pow 10 (-power).toNat / (interval.denominator * Nat.pow 10 power.toNat),
      power)
  | count + 1, power =>
    match interval.onGrid power with
    | some digits => (digits, power)
    | none => interval.search count (power - 1)

/-- The power of ten at or just above the value. -/
def topPower (interval : DecimalInterval) : Int :=
  if interval.denominator ≤ interval.value then
    (Nat.toDigits 10 (interval.value / interval.denominator)).length
  else 1 - (Nat.toDigits 10 (interval.denominator / interval.value)).length

/-- The shortest digits in the interval with their power of ten. Seventeen digits always suffice,
and the value has at most one digit on the first grid. -/
def shortest (interval : DecimalInterval) : Nat × Int :=
  interval.search 20 interval.topPower

end DecimalInterval

/-- Positional notation of `digits · 10 ^ power`. -/
def positional (digits : Nat) (power : Int) : String :=
  let written := Nat.toDigits 10 digits
  if 0 ≤ power then String.ofList (written ++ List.replicate power.toNat '0')
  else
    let places := (-power).toNat
    let padded := List.replicate (places + 1 - written.length) '0' ++ written
    let whole := padded.length - places
    String.ofList (padded.take whole ++ '.' :: padded.drop whole)

/-- The shortest positional text of a number that is not negative. -/
def Binary.magnitudeText (number : Binary) : String :=
  if number.mantissa = 0 then "0"
  else
    let (digits, power) := (DecimalInterval.around number.mantissa number.exponent).shortest
    positional digits power

/-- The text of a float. A negative zero keeps its sign. -/
def floatText (value : Float) : String :=
  match FloatClass.ofFloat value with
  | .nan => "NaN"
  | .infinite negative => if negative then "-inf" else "inf"
  | .finite number => if number.negative then "-" ++ number.magnitudeText else number.magnitudeText

end ContentQuery
