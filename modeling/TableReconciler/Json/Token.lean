import TableReconciler.Text.Integer
import TableReconciler.Value

/-!
# JSON tokens

The scanner, one character at a time: between two tokens, inside a string, or inside a number or a
word.  Beside the words of the standard it knows `NaN`, `Infinity` and `-Infinity`.  White space is
the space, the tab, the carriage return and the line feed.

Characters that are no token, and integers that are not read, become tokens of their own.  Whether
they matter is for the reader to tell, who may have given up before it comes to them.
-/

namespace TableReconciler.Json

open Text (CodePoint)

/-- A token. -/
inductive Token where
  /-- The start of a list. -/
  | openList
  /-- The end of a list. -/
  | closeList
  /-- The start of an object. -/
  | openObject
  /-- The end of an object. -/
  | closeObject
  /-- What stands between two items or entries. -/
  | comma
  /-- What stands between a key and its value. -/
  | colon
  /-- A string, a number or a word. -/
  | atom (value : Scalar)
  /-- An integer that is not read. -/
  | unreadable (fault : Text.IntegerFault)
  /-- Characters that are no token. -/
  | invalid
  deriving DecidableEq, Repr

/-- Where in a string the scanner stands. -/
inductive StringPart where
  /-- Between two characters. -/
  | plain
  /-- After a backslash. -/
  | escape
  /-- Inside the four digits of an escaped code unit, `count` of which make `value`. -/
  | unit (count value : Nat)
  deriving DecidableEq, Repr

/-- Where the scanner stands. -/
inductive Mode where
  /-- Between two tokens. -/
  | gap
  /-- In a string whose code points so far are `done`, latest first. -/
  | string (done : List CodePoint) (part : StringPart)
  /-- In a number, its characters latest first. -/
  | number (done : List Char)
  /-- In a word, its characters latest first. -/
  | word (done : List Char)
  deriving DecidableEq, Repr

/-! ## Numbers and words -/

/-- An ASCII decimal digit. -/
def isDigit (c : Char) : Bool :=
  '0' ≤ c && c ≤ '9'

/-- The value of a text of ASCII digits. -/
def natOfDigits (digits : List Char) : Nat :=
  Text.ofDigits (digits.map fun c => c.toNat - '0'.toNat)

/-- The whole part of a number and the characters after it.  A zero stands for itself. -/
def wholePart : List Char → List Char × List Char
  | '0' :: rest => (['0'], rest)
  | cs => (cs.takeWhile isDigit, cs.dropWhile isDigit)

/-- The digits after the point of a number and the characters after them.  Without digits there is
no fraction. -/
def fractionPart : List Char → List Char × List Char
  | '.' :: rest =>
      let digits := rest.takeWhile isDigit
      if digits.isEmpty then ([], '.' :: rest) else (digits, rest.dropWhile isDigit)
  | cs => ([], cs)

/-- The exponent of a number, a letter, an optional sign and digits, and the characters after
it. -/
def exponentPart : List Char → Option Int × List Char
  | e :: rest =>
      let (negative, cs) := Text.takeSign rest
      let digits := cs.takeWhile isDigit
      if (e == 'e' || e == 'E') && !digits.isEmpty then
        let magnitude : Int := natOfDigits digits
        (some (if negative then -magnitude else magnitude), cs.dropWhile isDigit)
      else (none, e :: rest)
  | [] => (none, [])

/-- The token of an integer, which is not read when it is too long. -/
def integerToken (negative : Bool) (digits : List Char) : Token :=
  if Text.maxDigits < digits.length then .unreadable (.tooLong digits.length)
  else
    let magnitude : Int := natOfDigits digits
    .atom (.int (if negative then -magnitude else magnitude))

/-- The number at the start of the characters, to which `negative` gives the sign, and the
characters after it.  A number without fraction and exponent is an integer. -/
def unsignedNumber? (negative : Bool) (cs : List Char) : Option (Token × List Char) :=
  let (whole, rest) := wholePart cs
  if whole.isEmpty then none
  else
    let (fraction, rest) := fractionPart rest
    let (exponent, rest) := exponentPart rest
    let token :=
      if fraction.isEmpty && exponent.isNone then integerToken negative whole
      else .atom (.float (Binary64.ofDecimal negative (natOfDigits (whole ++ fraction))
        (exponent.getD 0 - fraction.length)))
    some (token, rest)

/-- The longest number at the start of the characters, and the characters after it. -/
def number? : List Char → Option (Token × List Char)
  | '-' :: rest => unsignedNumber? true rest
  | cs => unsignedNumber? false cs

/-- The tokens of characters that may stand in a number.  What a number leaves of them is no
token. -/
def numberTokens (cs : List Char) : List Token :=
  match number? cs with
  | none => [.invalid]
  | some (token, []) => [token]
  | some (token, _ :: _) => [token, .invalid]

/-- The token of a word. -/
def wordToken (cs : List Char) : Token :=
  match String.ofList cs with
  | "null" => .atom .null
  | "true" => .atom (.bool true)
  | "false" => .atom (.bool false)
  | "NaN" => .atom (.float (.nan true))
  | "Infinity" => .atom (.float (.infinite false))
  | "-Infinity" => .atom (.float (.infinite true))
  | _ => .invalid

/-! ## Strings -/

/-- Take an escaped code unit into the code points of a string, latest first.  The second half of a
surrogate pair makes one character with the first half right before it; any other surrogate stands
alone. -/
def pushUnit (done : List CodePoint) (unit : Nat) : List CodePoint :=
  if 0xD800 ≤ unit && unit ≤ 0xDFFF then
    match done with
    | .surrogate first :: rest =>
        if first < 0xDC00 && 0xDC00 ≤ unit then
          .char (Char.ofNat (0x10000 + (first - 0xD800) * 0x400 + (unit - 0xDC00))) :: rest
        else .surrogate unit :: done
    | _ => .surrogate unit :: done
  else .char (Char.ofNat unit) :: done

/-- The value of a hexadecimal digit. -/
def hexValue? (c : Char) : Option Nat :=
  if isDigit c then some (c.toNat - '0'.toNat)
  else if 'a' ≤ c && c ≤ 'f' then some (c.toNat - 'a'.toNat + 10)
  else if 'A' ≤ c && c ≤ 'F' then some (c.toNat - 'A'.toNat + 10)
  else none

/-- The character that a one-letter escape stands for. -/
def escaped? : Char → Option Char
  | '"' => some '"'
  | '\\' => some '\\'
  | '/' => some '/'
  | 'b' => some '\x08'
  | 'f' => some '\x0c'
  | 'n' => some '\n'
  | 'r' => some '\r'
  | 't' => some '\t'
  | _ => none

/-- Take one character inside a string. -/
def stringStep (done : List CodePoint) (part : StringPart) (c : Char) : List Token × Mode :=
  match part with
  | .plain =>
      if c = '"' then ([.atom (.ofPoints done.reverse)], .gap)
      else if c = '\\' then ([], .string done .escape)
      else if c.toNat < 0x20 then ([.invalid], .gap)
      else ([], .string (.char c :: done) .plain)
  | .escape =>
      if c = 'u' then ([], .string done (.unit 0 0))
      else
        match escaped? c with
        | some e => ([], .string (.char e :: done) .plain)
        | none => ([.invalid], .gap)
  | .unit count value =>
      match hexValue? c with
      | none => ([.invalid], .gap)
      | some digit =>
          let value := 16 * value + digit
          if count < 3 then ([], .string done (.unit (count + 1) value))
          else ([], .string (pushUnit done value) .plain)

/-! ## Scanning -/

/-- White space between tokens. -/
def isSpace (c : Char) : Bool :=
  c == ' ' || c == '\t' || c == '\n' || c == '\r'

/-- An ASCII letter. -/
def isLetter (c : Char) : Bool :=
  ('a' ≤ c && c ≤ 'z') || ('A' ≤ c && c ≤ 'Z')

/-- Take one character between two tokens. -/
def start (c : Char) : List Token × Mode :=
  if isSpace c then ([], .gap)
  else if c = '"' then ([], .string [] .plain)
  else if isDigit c || c = '-' then ([], .number [c])
  else if isLetter c then ([], .word [c])
  else
    match c with
    | '[' => ([.openList], .gap)
    | ']' => ([.closeList], .gap)
    | '\x7b' => ([.openObject], .gap)
    | '\x7d' => ([.closeObject], .gap)
    | ',' => ([.comma], .gap)
    | ':' => ([.colon], .gap)
    | _ => ([.invalid], .gap)

/-- Take one character: the tokens that it completes, and where the scanner then stands. -/
def step (mode : Mode) (c : Char) : List Token × Mode :=
  match mode with
  | .gap => start c
  | .string done part => stringStep done part c
  | .number done =>
      if isDigit c || c = '+' || c = '-' || c = '.' || c = 'e' || c = 'E' then
        ([], .number (c :: done))
      else if c = 'I' && done = ['-'] then ([], .word ['I', '-'])
      else
        let (tokens, mode) := start c
        (numberTokens done.reverse ++ tokens, mode)
  | .word done =>
      if isLetter c then ([], .word (c :: done))
      else
        let (tokens, mode) := start c
        (wordToken done.reverse :: tokens, mode)

/-- The tokens that the end of the text completes. -/
def finish : Mode → List Token
  | .gap => []
  | .string _ _ => [.invalid]
  | .number done => numberTokens done.reverse
  | .word done => [wordToken done.reverse]

end TableReconciler.Json
