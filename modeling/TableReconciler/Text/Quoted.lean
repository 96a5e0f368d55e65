import TableReconciler.Text.CodePoint
import TableReconciler.Text.Printable

/-!
# Quoted text

How a text is shown inside a message: between quotes, with everything that does not print written
as an escape.
-/

namespace TableReconciler.Text

/-- The last `width` digits of a number in base sixteen, with lower case letters. -/
def hex (width code : Nat) : List Char :=
  (List.range width).reverse.map fun place => Nat.digitChar (code / Nat.pow 16 place % 16)

/-- The escape of a code point that does not print, in the shortest of the three forms. -/
def escapeCode (code : Nat) : List Char :=
  if code < 0x100 then '\\' :: 'x' :: hex 2 code
  else if code < 0x10000 then '\\' :: 'u' :: hex 4 code
  else '\\' :: 'U' :: hex 8 code

/-- One character of a text between `mark`s. -/
def quotedChar (mark c : Char) : List Char :=
  if c = mark ∨ c = '\\' then ['\\', c]
  else if c = '\n' then ['\\', 'n']
  else if c = '\r' then ['\\', 'r']
  else if c = '\t' then ['\\', 't']
  else if isPrintable c then [c]
  else escapeCode c.toNat

/-- One code point of a text between `mark`s. -/
def quotedPoint (mark : Char) : CodePoint → List Char
  | .char c => quotedChar mark c
  | .surrogate unit => escapeCode unit

/-- The mark a text is quoted with: the single quote, unless the text holds one and no double
quote. -/
def quoteMark (points : List CodePoint) : Char :=
  if points.contains (.char '\'') && !points.contains (.char '"') then '"' else '\''

/-- Code points between quotes. -/
def quotedPoints (points : List CodePoint) : String :=
  let mark := quoteMark points
  String.ofList (mark :: points.flatMap (quotedPoint mark) ++ [mark])

/-- A text between quotes. -/
def quoted (text : String) : String :=
  quotedPoints (codePoints text)

end TableReconciler.Text
