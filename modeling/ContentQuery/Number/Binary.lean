/-!
# Binary numbers behind floats

A finite float stands for the exact number `±mantissa · 2 ^ exponent`. The operations on floats
whose results have to be exact, such as printing and conversion to a count of nanoseconds, work on
this form in integer arithmetic.
-/

namespace ContentQuery

/-- The number `±mantissa · 2 ^ exponent`. -/
structure Binary where
  negative : Bool
  mantissa : Nat
  exponent : Int
deriving DecidableEq, Repr

/-- What a float stands for. -/
inductive FloatClass where
  | nan
  | infinite (negative : Bool)
  | finite (number : Binary)
deriving DecidableEq, Repr

/-- Reads the sign, the biased exponent and the fraction of a binary64 float. -/
def FloatClass.ofFloat (value : Float) : FloatClass :=
  let bits := value.toBits.toNat
  let negative := decide (Nat.pow 2 63 ≤ bits)
  let biased : Nat := bits / Nat.pow 2 52 % 2048
  let fraction : Nat := bits % Nat.pow 2 52
  if biased = 2047 then
    if fraction = 0 then .infinite negative else .nan
  else if biased = 0 then .finite ⟨negative, fraction, -1074⟩
  else .finite ⟨negative, Nat.pow 2 52 + fraction, biased - 1075⟩

/-- A float that stands for a number. -/
def isFiniteFloat (value : Float) : Bool :=
  match FloatClass.ofFloat value with
  | .finite _ => true
  | _ => false

/-- The quotient rounded to the nearest natural number, a half to the even neighbour. -/
def roundHalfEven (numerator denominator : Nat) : Nat :=
  let quotient := numerator / denominator
  let doubled := 2 * (numerator % denominator)
  if doubled < denominator then quotient
  else if denominator < doubled then quotient + 1
  else quotient + quotient % 2

/-- The product of the magnitude with a natural number, rounded to the nearest natural number, a
half to the even neighbour. -/
def Binary.scaledMagnitude (number : Binary) (factor : Nat) : Nat :=
  roundHalfEven (number.mantissa * factor * Nat.pow 2 number.exponent.toNat)
    (Nat.pow 2 (-number.exponent).toNat)

end ContentQuery
