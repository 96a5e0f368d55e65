import TableReconciler.Binary64

/-!
# The shortest decimal that reads back

A finite number is written with the fewest digits that read back to it, and with the nearest such
digits.  The decimals that read back form an interval around the number; for one digit, two
digits, and so on up to seventeen, only the two neighbours of the number on that decimal grid have
to be tested.
-/

namespace TableReconciler.Binary64

/-- The decimal `digits` times ten to the power `exponent`. -/
structure Decimal where
  /-- The digits, read as one number. -/
  digits : Nat
  /-- The power of ten of the last digit. -/
  exponent : Int
  deriving DecidableEq, Repr

/-- A decimal as a fraction of natural numbers. -/
def Decimal.ratio (d : Decimal) : Nat × Nat :=
  if 0 ≤ d.exponent then (d.digits * Nat.pow 10 d.exponent.toNat, 1)
  else (d.digits, Nat.pow 10 (-d.exponent).toNat)

/-- Whether a decimal rounds to the given positive number of units: its distance is at most half
the way to the neighbour on its side, where half the way itself counts for an even significand
only.  Below a power of two the neighbour is nearer. -/
def readsBack (units : Nat) (d : Decimal) : Bool :=
  let (numerator, denominator) := d.ratio
  let above := spacing units
  let below :=
    if units = Nat.pow 2 units.log2 ∧ Nat.pow 2 53 ≤ units then above / 2 else above
  let even := units / above % 2 == 0
  let value := 2 * numerator * unitsPerOne
  let upper := (2 * units + above) * denominator
  let lower := (2 * units) * denominator - below * denominator
  if even then lower ≤ value && value ≤ upper else lower < value && value < upper

/-- The distance from a decimal to a number of units, as a numerator over the denominator of the
decimal. -/
def distance (units : Nat) (d : Decimal) : Nat :=
  let (numerator, denominator) := d.ratio
  (numerator * unitsPerOne - units * denominator) + (units * denominator - numerator * unitsPerOne)

/-- The power of ten of the leading digit of a positive number of units. -/
def leadingPower (units : Nat) : Int :=
  (Nat.toDigits 10 (units * Nat.pow 10 400 / unitsPerOne)).length - 401

/-- The two neighbours of a number on the grid of decimals with `count` digits. -/
def neighbours (units count : Nat) : Decimal × Decimal :=
  let exponent := leadingPower units - (count - 1 : Nat)
  let floor :=
    if 0 ≤ exponent then units / (unitsPerOne * Nat.pow 10 exponent.toNat)
    else units * Nat.pow 10 (-exponent).toNat / unitsPerOne
  (⟨floor, exponent⟩, ⟨floor + 1, exponent⟩)

/-- The decimal with `count` digits that reads back to a number, if there is one; of two the
nearer, and of two at the same distance the even one. -/
def decimalOfLength? (units count : Nat) : Option Decimal :=
  let (low, high) := neighbours units count
  match readsBack units low, readsBack units high with
  | true, true =>
      if distance units low < distance units high then some low
      else if distance units high < distance units low then some high
      else if low.digits % 2 = 0 then some low else some high
  | true, false => some low
  | false, true => some high
  | false, false => none

/-- The shortest decimal that reads back to a positive number of units.  Seventeen digits always
suffice. -/
def shortest (units : Nat) : Decimal :=
  ((List.range 17).findSome? fun i => decimalOfLength? units (i + 1)).getD
    (neighbours units 17).1

/-- Digits in base ten without the zeros at their end. -/
def significantDigits (digits : Nat) : List Char :=
  ((Nat.toDigits 10 digits).reverse.dropWhile (· == '0')).reverse

/-- The exponent of scientific notation: a sign and at least two digits. -/
def exponentText (exponent : Int) : List Char :=
  let magnitude := Nat.toDigits 10 exponent.natAbs
  (if exponent < 0 then '-' else '+') ::
    (if magnitude.length < 2 then '0' :: magnitude else magnitude)

/-- Write significant digits whose decimal point stands after `point` of them.  Positional from
one ten-thousandth up to, and without, ten to the sixteenth; scientific otherwise.  A whole number
in positional notation ends in `.0`. -/
def positionDigits (digits : List Char) (point : Int) : List Char :=
  if point ≤ -4 ∨ 16 < point then
    match digits with
    | [d] => d :: 'e' :: exponentText (point - 1)
    | d :: rest => d :: '.' :: rest ++ 'e' :: exponentText (point - 1)
    | [] => []
  else if point ≤ 0 then '0' :: '.' :: List.replicate (-point).toNat '0' ++ digits
  else if digits.length ≤ point.toNat then
    digits ++ List.replicate (point.toNat - digits.length) '0' ++ ['.', '0']
  else digits.take point.toNat ++ '.' :: digits.drop point.toNat

/-- The text of a number. -/
def display : Binary64 → String
  | .nan _ => "nan"
  | .infinite negative => if negative then "-inf" else "inf"
  | .finite negative units =>
      let body :=
        if units = 0 then ['0', '.', '0']
        else
          let d := shortest units
          positionDigits (significantDigits d.digits)
            ((Nat.toDigits 10 d.digits).length + d.exponent)
      String.ofList (if negative then '-' :: body else body)

end TableReconciler.Binary64
