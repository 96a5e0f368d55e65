/-!
# Binary floating point numbers

The numbers of the 64-bit binary format, each held exactly: a finite number is a whole number of
units, where the unit is the least positive number of the format, `2 ^ -1074`.  Rounding a decimal
to the format and comparing with an integer are then exact arithmetic on natural numbers.
-/

namespace TableReconciler

/-- A number of the 64-bit binary format. -/
inductive Binary64 where
  /-- `units` times the least positive number, with a sign; zero has a sign too. -/
  | finite (negative : Bool) (units : Nat)
  /-- One of the two infinities. -/
  | infinite (negative : Bool)
  /-- Not a number.  Documents write it as a constant, which can be told from one that comes from
  anywhere else. -/
  | nan (constant : Bool)
  deriving DecidableEq, Repr

namespace Binary64

/-- How many units make one. -/
def unitsPerOne : Nat := Nat.pow 2 1074

/-- The least number of units beyond the range of the format. -/
def overflow : Nat := Nat.pow 2 2098

/-- The distance from a number of units to the next larger number of the format. -/
def spacing (units : Nat) : Nat :=
  Nat.pow 2 (units.log2 - 52)

/-- The quotient rounded to the nearest natural number, and to the even one of two. -/
def roundDiv (numerator denominator : Nat) : Nat :=
  let quotient := numerator / denominator
  let remainder := numerator % denominator
  if denominator < 2 * remainder || (2 * remainder == denominator && quotient % 2 == 1)
  then quotient + 1 else quotient

/-- The number of the format nearest to a fraction, and the one with the even significand of
two. -/
def ofRatio (negative : Bool) (numerator denominator : Nat) : Binary64 :=
  let step := spacing (numerator * unitsPerOne / denominator)
  let units := roundDiv (numerator * unitsPerOne) (denominator * step) * step
  if overflow ≤ units then .infinite negative else .finite negative units

/-- The number of the format nearest to `digits` times ten to the power `exponent`.  Exponents far
outside the range are answered without computing the power. -/
def ofDecimal (negative : Bool) (digits : Nat) (exponent : Int) : Binary64 :=
  let magnitude := exponent + (Nat.toDigits 10 digits).length
  if digits = 0 || magnitude < -400 then .finite negative 0
  else if 400 < magnitude then .infinite negative
  else if 0 ≤ exponent then ofRatio negative (digits * Nat.pow 10 exponent.toNat) 1
  else ofRatio negative digits (Nat.pow 10 (-exponent).toNat)

/-- Whether a number is zero, of either sign. -/
def isZero : Binary64 → Bool
  | .finite _ 0 => true
  | _ => false

/-- Whether two numbers are equal as numbers: the zeros are equal, and what is not a number equals
nothing. -/
def numericEq : Binary64 → Binary64 → Bool
  | .finite n u, .finite m v => u == v && (n == m || u == 0)
  | .infinite n, .infinite m => n == m
  | _, _ => false

/-- Whether a number is a given integer. -/
def isInt : Binary64 → Int → Bool
  | .finite negative units, n =>
      units == n.natAbs * unitsPerOne && (n == 0 || negative == decide (n < 0))
  | _, _ => false

end Binary64

end TableReconciler
