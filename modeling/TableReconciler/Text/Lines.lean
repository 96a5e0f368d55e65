import TableReconciler.Text.Blank

/-!
# Lines

Where a line of text ends, and the first line of a message.
-/

namespace TableReconciler.Text

/-- The characters that end a line: line feed, vertical tab, form feed, carriage return, three of
the information separators, next line, and the line and paragraph separators. -/
def lineBreaks : CharClass := [
    (0x0A, 0x0D), (0x1C, 0x1E), (0x85, 0x85), (0x2028, 0x2029)]

/-- Whether a character ends a line. -/
def isLineBreak (c : Char) : Bool :=
  lineBreaks.contains c

/-- The first line of a message once the white space around the message is gone; empty when the
message is blank. -/
def headline (message : String) : String :=
  String.ofList ((trim message.toList).takeWhile fun c => !isLineBreak c)

end TableReconciler.Text
