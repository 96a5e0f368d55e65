/-!
# Segments

Cutting a text at every occurrence of one character.
-/

namespace TableReconciler.Text

/-- The segments between the occurrences of `separator`; a text without one is its own only
segment. -/
def segments (separator : Char) : List Char → List (List Char)
  | [] => [[]]
  | c :: rest =>
      if c = separator then [] :: segments separator rest
      else
        match segments separator rest with
        | [] => [[c]]
        | first :: others => (c :: first) :: others

end TableReconciler.Text
