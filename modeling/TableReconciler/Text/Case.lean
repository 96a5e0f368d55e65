import TableReconciler.Text.Case.Runs
import TableReconciler.Text.Case.Context
import TableReconciler.Text.CodePoint

/-!
# Letter case

Full lower and upper casing: one letter may become several, and a capital sigma that ends a word
becomes the final small sigma.
-/

namespace TableReconciler.Text

open Case

/-- The lower case form of one character, without regard to its context. -/
def lowerChar (c : Char) : List Char :=
  if c = 'İ' then ['i', '\u0307']
  else [Char.ofNat (mapCode lowerRuns c.toNat)]

/-- Whether a capital sigma ends a word: the nearest character before it that is not ignorable is
a letter with case, and the nearest one after it is not. -/
def endsWord (before after : List Char) : Bool :=
  ((before.dropWhile ignorable.contains).head?.any casedLetters.contains) &&
    !((after.dropWhile ignorable.contains).head?.any casedLetters.contains)

/-- The lower case form of a text that follows `before`, which is given latest character first. -/
def lowerAfter (before : List Char) : List Char → List Char
  | [] => []
  | c :: rest =>
      (if c = 'Σ' then (if endsWord before rest then ['ς'] else ['σ']) else lowerChar c)
        ++ lowerAfter (c :: before) rest

/-- The lower case form of a text. -/
def lowerChars (cs : List Char) : List Char :=
  lowerAfter [] cs

/-- The upper case form of one character. -/
def upperChar (c : Char) : List Char :=
  match upperExpansions.lookup c.toNat with
  | some codes => codes.map Char.ofNat
  | none => [Char.ofNat (mapCode upperRuns c.toNat)]

/-- The upper case form of one code point; a surrogate that stands alone has no case. -/
def upperPoint : CodePoint → List CodePoint
  | .char c => (upperChar c).map .char
  | .surrogate unit => [.surrogate unit]

/-- The lower case form of a text. -/
def lower (text : String) : String :=
  String.ofList (lowerChars text.toList)

/-- The upper case form of a text. -/
def upper (text : String) : String :=
  String.ofList (text.toList.flatMap upperChar)

end TableReconciler.Text
