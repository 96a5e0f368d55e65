import TableReconciler.Text.Blank
import TableReconciler.Text.Quoted

/-!
# Integers in text

Reading a decimal integer the way settings write it: white space around it, a sign, the decimal
digits of any script, and single underscores between digits.  A number of more than
`maxDigits` digits is refused.
-/

namespace TableReconciler.Text

/-- The zeros of all decimal digit alphabets; the other nine digits follow each. -/
def digitZeros : List Nat := [
    0x30, 0x660, 0x6F0, 0x7C0, 0x966, 0x9E6, 0xA66, 0xAE6, 0xB66, 0xBE6, 0xC66, 0xCE6, 0xD66,
    0xDE6, 0xE50, 0xED0, 0xF20, 0x1040, 0x1090, 0x17E0, 0x1810, 0x1946, 0x19D0, 0x1A80, 0x1A90,
    0x1B50, 0x1BB0, 0x1C40, 0x1C50, 0xA620, 0xA8D0, 0xA900, 0xA9D0, 0xA9F0, 0xAA50, 0xABF0,
    0xFF10, 0x104A0, 0x10D30, 0x11066, 0x110F0, 0x11136, 0x111D0, 0x112F0, 0x11450, 0x114D0,
    0x11650, 0x116C0, 0x11730, 0x118E0, 0x11950, 0x11C50, 0x11D50, 0x11DA0, 0x16A60, 0x16AC0,
    0x16B50, 0x1D7CE, 0x1D7D8, 0x1D7E2, 0x1D7EC, 0x1D7F6, 0x1E140, 0x1E2F0, 0x1E950, 0x1FBF0]

/-- The value of a decimal digit of any script. -/
def digitValue? (c : Char) : Option Nat :=
  (digitZeros.find? fun base => base ≤ c.toNat && c.toNat < base + 10).map (c.toNat - ·)

/-- White space around a number.  The information separators are white space elsewhere but not
here. -/
def isNumberBlank (c : Char) : Bool :=
  isBlank c && !(0x1C ≤ c.toNat && c.toNat ≤ 0x1F)

/-- The most digits an integer may be written with. -/
def maxDigits : Nat := 4300

/-- Why a text is not read as an integer. -/
inductive IntegerFault where
  /-- The text is not the decimal form of an integer. -/
  | malformed (text : String)
  /-- The integer has too many digits. -/
  | tooLong (digits : Nat)
  deriving DecidableEq, Repr

/-- The wording of an integer fault.  A malformed text is quoted up to 200 characters. -/
def IntegerFault.message : IntegerFault → String
  | .malformed text =>
      "invalid literal for int() with base 10: " ++ String.ofList ((quoted text).toList.take 200)
  | .tooLong digits =>
      "Exceeds the limit (" ++ toString maxDigits ++
        " digits) for integer string conversion: value has " ++ toString digits ++
        " digits; use sys.set_int_max_str_digits() to increase the limit"

/-- The digits of a number in which single underscores may stand between two digits. -/
def digits? : List Char → Option (List Nat)
  | [] => none
  | [c] => (digitValue? c).map ([·])
  | c :: '_' :: rest => do return (← digitValue? c) :: (← digits? rest)
  | c :: rest => do return (← digitValue? c) :: (← digits? rest)

/-- The number a list of decimal digits writes, first digit first. -/
def ofDigits (digits : List Nat) : Nat :=
  digits.foldl (fun value digit => 10 * value + digit) 0

/-- Split a sign from the front; without one the number is positive. -/
def takeSign : List Char → Bool × List Char
  | '-' :: rest => (true, rest)
  | '+' :: rest => (false, rest)
  | cs => (false, cs)

/-- Whether a character may stand in the digits of a number. -/
def isNumeral (c : Char) : Bool :=
  c == '_' || (digitValue? c).isSome

/-- Read an integer.  The number of digits is checked before what follows them. -/
def readInteger (text : String) : Except IntegerFault Int :=
  let (negative, body) := takeSign (trimWhile isNumberBlank text.toList)
  match digits? (body.takeWhile isNumeral) with
  | none => .error (.malformed text)
  | some digits =>
      if maxDigits < digits.length then .error (.tooLong digits.length)
      else if (body.dropWhile isNumeral).isEmpty then
        .ok (if negative then -(ofDigits digits : Int) else ofDigits digits)
      else .error (.malformed text)

end TableReconciler.Text
