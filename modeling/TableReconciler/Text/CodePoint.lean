/-!
# Code points

Texts code point by code point.  A surrogate is a code point but no character: two of them that
belong together make one character, and one that stands alone makes none.  A text with such a
surrogate is ill-formed.  It can be counted, compared and quoted, where an escape shows the
surrogate.  To be written it has to become characters, and a character of the last private plane
takes the place of the surrogate then, another one for each.
-/

namespace TableReconciler.Text

/-- A code point of a text. -/
inductive CodePoint where
  /-- A character. -/
  | char (c : Char)
  /-- A surrogate that stands alone. -/
  | surrogate (unit : Nat)
  deriving DecidableEq, Repr

namespace CodePoint

/-- The character that a code point is, if it is one. -/
def char? : CodePoint → Option Char
  | .char c => some c
  | .surrogate _ => none

/-- The character that is written for a code point. -/
def written : CodePoint → Char
  | .char c => c
  | .surrogate unit => Char.ofNat (0x100000 + unit)

end CodePoint

/-- The code points of a text. -/
def codePoints (text : String) : List CodePoint :=
  text.toList.map .char

/-- The text with the given code points, if they are characters throughout. -/
def ofCodePoints? (points : List CodePoint) : Option String :=
  (points.mapM CodePoint.char?).map String.ofList

/-- The text that is written for code points. -/
def written (points : List CodePoint) : String :=
  String.ofList (points.map CodePoint.written)

/-- A text is read back from its code points. -/
@[simp] theorem ofCodePoints?_codePoints (text : String) :
    ofCodePoints? (codePoints text) = some text := by
  have h : ∀ cs : List Char, (cs.map CodePoint.char).mapM CodePoint.char? = some cs := by
    intro cs
    induction cs with
    | nil => rfl
    | cons c rest ih => simp [List.mapM_cons, CodePoint.char?, ih]
  simp [ofCodePoints?, codePoints, h]

/-- Only the code points of a text are read back as the text. -/
theorem ofCodePoints?_eq_some_iff {points : List CodePoint} {text : String} :
    ofCodePoints? points = some text ↔ points = codePoints text := by
  have h : ∀ {points : List CodePoint} {cs : List Char},
      points.mapM CodePoint.char? = some cs → points = cs.map CodePoint.char := by
    intro points
    induction points with
    | nil => simp
    | cons point rest ih =>
        cases point with
        | surrogate unit => simp [List.mapM_cons, CodePoint.char?]
        | char c =>
            intro cs hcs
            simp only [List.mapM_cons, CodePoint.char?, Option.pure_def, Option.bind_eq_bind,
              Option.bind_some, Option.bind_eq_some_iff] at hcs
            obtain ⟨rest', hrest, hcs⟩ := hcs
            cases hcs
            simp [ih hrest]
  constructor
  · intro hread
    obtain ⟨cs, hcs, rfl⟩ := Option.map_eq_some_iff.mp hread
    simpa [codePoints] using h hcs
  · rintro rfl
    exact ofCodePoints?_codePoints text

/-- A text is written as it is. -/
@[simp] theorem written_codePoints (text : String) : written (codePoints text) = text := by
  simp [written, codePoints, Function.comp_def, CodePoint.written]

/-- Code points in sequence are written in sequence. -/
@[simp] theorem written_append (first second : List CodePoint) :
    written (first ++ second) = written first ++ written second := by
  simp [written]

/-- An ill-formed text. -/
structure IllFormed where
  /-- The code points. -/
  points : List CodePoint
  /-- One of them is no character. -/
  not_text : ofCodePoints? points = none
  deriving DecidableEq, Repr

end TableReconciler.Text
