import TableReconciler.Text.CharClass

/-!
# White space

The characters that count as white space, and trimming.  Besides the white space of the character
database the class holds the four information separators `U+001C` to `U+001F`.
-/

namespace TableReconciler.Text

/-- White space. -/
def blanks : CharClass := [
    (0x09, 0x0D), (0x1C, 0x20), (0x85, 0x85), (0xA0, 0xA0), (0x1680, 0x1680), (0x2000, 0x200A),
    (0x2028, 0x2029), (0x202F, 0x202F), (0x205F, 0x205F), (0x3000, 0x3000)]

/-- Whether a character is white space. -/
def isBlank (c : Char) : Bool :=
  blanks.contains c

/-- Drop the longest end of a text whose characters all satisfy `p`. -/
def dropEndWhile (p : Char → Bool) (cs : List Char) : List Char :=
  (cs.reverse.dropWhile p).reverse

/-- Drop the characters that satisfy `p` from both ends. -/
def trimWhile (p : Char → Bool) (cs : List Char) : List Char :=
  dropEndWhile p (cs.dropWhile p)

/-- Drop the white space at both ends. -/
def trim (cs : List Char) : List Char :=
  trimWhile isBlank cs

/-- A text without its trailing slashes. -/
def withoutTrailingSlashes (text : String) : String :=
  String.ofList (dropEndWhile (· == '/') text.toList)

end TableReconciler.Text
