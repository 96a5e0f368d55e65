/-!
# Comments

Comments are written between single quotes, where a backslash takes the following quote with it.
A text that is escaped already is first brought back to its plain form, so that the written form
carries one level of escaping whichever form it was given in.
-/

namespace TableReconciler.Comment

/-- Replace each backslash and quote by the quote, from left to right. -/
def unescapeChars : List Char → List Char
  | [] => []
  | '\\' :: '\'' :: rest => '\'' :: unescapeChars rest
  | c :: rest => c :: unescapeChars rest

/-- Put a backslash before each quote. -/
def guardQuotes (cs : List Char) : List Char :=
  cs.flatMap fun c => if c = '\'' then ['\\', '\''] else [c]

/-- The body of the literal that writes a text. -/
def escapeChars (cs : List Char) : List Char :=
  guardQuotes (unescapeChars cs)

/-- The plain form of a text. -/
def unescape (text : String) : String :=
  String.ofList (unescapeChars text.toList)

/-- The body of the literal that writes a text. -/
def escape (text : String) : String :=
  String.ofList (escapeChars text.toList)

/-- The literal that writes a text. -/
def literal (text : String) : String :=
  "'" ++ escape text ++ "'"

end TableReconciler.Comment
