import TableReconciler.Binary64.Shortest
import TableReconciler.Text.Quoted

/-!
# Configuration values

The data a configuration file is made of: nothing, truth values, integers of any size, binary
floating point numbers, texts, lists, and mappings that keep the order in which their keys were
first written.  A text may be ill-formed; such a text is none of the others.
-/

namespace TableReconciler

/-- A value without parts.  Mappings have scalars as keys. -/
inductive Scalar where
  /-- The absence of a value. -/
  | null
  /-- A truth value. -/
  | bool (value : Bool)
  /-- An integer. -/
  | int (value : Int)
  /-- A binary floating point number. -/
  | float (value : Binary64)
  /-- A text. -/
  | text (value : String)
  /-- A text with a surrogate that stands alone. -/
  | illFormed (value : Text.IllFormed)
  deriving DecidableEq, Repr

namespace Scalar

/-- The text with the given code points. -/
def ofPoints (points : List Text.CodePoint) : Scalar :=
  match h : Text.ofCodePoints? points with
  | some value => .text value
  | none => .illFormed ⟨points, h⟩

/-- The code points of a text. -/
def points? : Scalar → Option (List Text.CodePoint)
  | .text value => some (Text.codePoints value)
  | .illFormed value => some value.points
  | _ => none

/-- Characters make a text. -/
@[simp] theorem ofPoints_codePoints (text : String) :
    ofPoints (Text.codePoints text) = .text text := by
  unfold ofPoints
  split
  · next h => simpa [eq_comm] using h
  · next h => simp at h

/-- Code points make a text that has them. -/
@[simp] theorem points?_ofPoints (points : List Text.CodePoint) :
    (ofPoints points).points? = some points := by
  unfold ofPoints
  split
  · next h => simp [points?, Text.ofCodePoints?_eq_some_iff.mp h]
  · rfl

/-- The integer a scalar counts as: truth values count as zero and one. -/
def asInt? : Scalar → Option Int
  | .bool value => some (if value then 1 else 0)
  | .int value => some value
  | _ => none

/-- Whether two scalars are equal.  Numbers are compared as numbers, whatever their kind, so that
what is not a number equals nothing. -/
def equals : Scalar → Scalar → Bool
  | .null, .null => true
  | .text a, .text b => a == b
  | .illFormed a, .illFormed b => a == b
  | .float a, .float b => a.numericEq b
  | .float a, b => b.asInt?.any a.isInt
  | a, .float b => a.asInt?.any b.isInt
  | a, b => a.asInt?.isSome && a.asInt? == b.asInt?

/-- Whether two scalars are the same key: they are equal, or both are the constant that documents
write for what is not a number. -/
def sameKey (a b : Scalar) : Bool :=
  a.equals b || (a == .float (.nan true) && a == b)

/-- Texts are the same key when they are the same text. -/
@[simp] theorem sameKey_text (a b : String) : sameKey (.text a) (.text b) = (a == b) := by
  simp [sameKey, equals]

/-- Whether a key occurs twice. -/
def repeated : List Scalar → Bool
  | [] => false
  | key :: rest => rest.any key.sameKey || repeated rest

/-- Among texts no key occurs twice exactly when no text does. -/
theorem repeated_map_text (texts : List String) :
    repeated (texts.map .text) = false ↔ texts.Nodup := by
  induction texts with
  | nil => simp [repeated]
  | cons text rest ih =>
      have h : (∀ x ∈ rest, ¬text = x) ↔ text ∉ rest :=
        ⟨fun h hmem => h text hmem rfl, fun h x hx e => h (e ▸ hx)⟩
      simp [repeated, ih, h]

/-- Whether a scalar counts as absent: nothing, false, a zero, or the empty text. -/
def isEmpty : Scalar → Bool
  | .null => true
  | .bool value => !value
  | .int value => value == 0
  | .float value => value.isZero
  | .text value => value.isEmpty
  | .illFormed _ => false

/-- A scalar inside a larger value: texts stand between quotes. -/
def shown : Scalar → String
  | .null => "None"
  | .bool value => if value then "True" else "False"
  | .int value => toString value
  | .float value => value.display
  | .text value => Text.quoted value
  | .illFormed value => Text.quotedPoints value.points

/-- The code points of the text of a scalar. -/
def wording (scalar : Scalar) : List Text.CodePoint :=
  scalar.points?.getD (Text.codePoints scalar.shown)

/-- Whether a scalar is a text. -/
def isText (scalar : Scalar) : Bool :=
  scalar.points?.isSome

/-- The text of a scalar, as it is written. -/
def display : Scalar → String
  | .text value => value
  | .illFormed value => Text.written value.points
  | scalar => scalar.shown

/-- A scalar is written as its wording is. -/
@[simp] theorem written_wording (scalar : Scalar) :
    Text.written scalar.wording = scalar.display := by
  cases scalar <;> simp [wording, points?, display]

end Scalar

/-- A configuration value. -/
inductive Value where
  /-- A value without parts. -/
  | scalar (value : Scalar)
  /-- A list of values. -/
  | list (items : List Value)
  /-- A mapping, entry by entry in order. -/
  | mapping (entries : List (Scalar × Value))

namespace Value

/-! ## Identity -/

mutual

/-- Decide whether two values are written alike. -/
def decEq : (a b : Value) → Decidable (a = b)
  | .scalar a, .scalar b => if h : a = b then .isTrue (by rw [h]) else .isFalse (by simp [h])
  | .list a, .list b =>
      match decEqItems a b with
      | .isTrue h => .isTrue (by rw [h])
      | .isFalse h => .isFalse (by simp [h])
  | .mapping a, .mapping b =>
      match decEqEntries a b with
      | .isTrue h => .isTrue (by rw [h])
      | .isFalse h => .isFalse (by simp [h])
  | .scalar _, .list _ | .scalar _, .mapping _ | .list _, .scalar _ | .list _, .mapping _
  | .mapping _, .scalar _ | .mapping _, .list _ => .isFalse (by simp)

/-- Decide whether two lists of values are written alike. -/
def decEqItems : (a b : List Value) → Decidable (a = b)
  | [], [] => .isTrue rfl
  | [], _ :: _ | _ :: _, [] => .isFalse (by simp)
  | x :: a, y :: b =>
      match decEq x y, decEqItems a b with
      | .isTrue h, .isTrue h' => .isTrue (by rw [h, h'])
      | .isFalse h, _ => .isFalse (by simp [h])
      | _, .isFalse h => .isFalse (by simp [h])

/-- Decide whether two lists of entries are written alike. -/
def decEqEntries : (a b : List (Scalar × Value)) → Decidable (a = b)
  | [], [] => .isTrue rfl
  | [], _ :: _ | _ :: _, [] => .isFalse (by simp)
  | (k, x) :: a, (l, y) :: b =>
      if hk : k = l then
        match decEq x y, decEqEntries a b with
        | .isTrue h, .isTrue h' => .isTrue (by rw [hk, h, h'])
        | .isFalse h, _ => .isFalse (by simp [h])
        | _, .isFalse h => .isFalse (by simp [h])
      else .isFalse (by simp [hk])

end

instance : DecidableEq Value := decEq

/-! ## Parts -/

/-- The absence of a value. -/
def null : Value := .scalar .null

/-- A text. -/
def text (value : String) : Value := .scalar (.text value)

/-- The value that is the text with the given code points. -/
def ofPoints (points : List Text.CodePoint) : Value :=
  .scalar (.ofPoints points)

/-- The text that a value is, as it is written, if it is one. -/
def text? : Value → Option String
  | .scalar (.text value) => some value
  | .scalar (.illFormed value) => some (Text.written value.points)
  | _ => none

/-- The key that a value can be, if it has no parts. -/
def key? : Value → Option Scalar
  | .scalar value => some value
  | _ => none

/-- Whether a value is the absence of a value. -/
def isNull : Value → Bool
  | .scalar .null => true
  | _ => false

/-- Whether a value counts as absent: an empty scalar, list or mapping. -/
def isEmpty : Value → Bool
  | .scalar value => value.isEmpty
  | .list items => items.isEmpty
  | .mapping entries => entries.isEmpty

/-- Put an entry into a mapping.  A key that is already there keeps its place and its spelling and
takes the new value; a new key goes to the end. -/
def insertEntry (key : Scalar) (value : Value) : List (Scalar × Value) → List (Scalar × Value)
  | [] => [(key, value)]
  | (k, v) :: rest =>
      if key.sameKey k then (k, value) :: rest else (k, v) :: insertEntry key value rest

/-- The mapping with the given entries, where a repeated key keeps its first place and takes its
last value. -/
def ofEntries (entries : List (Scalar × Value)) : Value :=
  .mapping (entries.foldl (fun done entry => insertEntry entry.1 entry.2 done) [])

/-- The value stored under a text. -/
def lookup? (entries : List (Scalar × Value)) (key : String) : Option Value :=
  (entries.find? fun entry => (Scalar.text key).sameKey entry.1).map (·.2)

/-! ## Equality -/

mutual

/-- Whether two items of larger values are equal: as keys, item by item, or, for mappings, entry by
entry in whatever order. -/
def sameItem : Value → Value → Bool
  | .scalar a, .scalar b => a.sameKey b
  | .list a, .list b => sameItems a b
  | .mapping a, .mapping b => a.length == b.length && sameEntries a b
  | _, _ => false

/-- Whether two lists of items are equal. -/
def sameItems : List Value → List Value → Bool
  | [], [] => true
  | x :: a, y :: b => sameItem x y && sameItems a b
  | _, _ => false

/-- Whether each of the entries has its equal among others. -/
def sameEntries : List (Scalar × Value) → List (Scalar × Value) → Bool
  | [], _ => true
  | (key, x) :: rest, others =>
      (match others.find? fun entry => key.sameKey entry.1 with
        | some entry => sameItem x entry.2
        | none => false) && sameEntries rest others

end

/-- Whether two values are equal.  What is not a number equals nothing, unless it is the constant
inside a list or mapping. -/
def equals : Value → Value → Bool
  | .scalar a, .scalar b => a.equals b
  | a, b => sameItem a b

/-! ## Wording -/

mutual

/-- A value inside a larger one. -/
def shown : Value → String
  | .scalar value => value.shown
  | .list items => "[" ++ ", ".intercalate (shownItems items) ++ "]"
  | .mapping entries => "\x7b" ++ ", ".intercalate (shownEntries entries) ++ "\x7d"

/-- The items of a list, each as it is shown. -/
def shownItems : List Value → List String
  | [] => []
  | item :: rest => item.shown :: shownItems rest

/-- The entries of a mapping, each as a key and a value with a colon between them. -/
def shownEntries : List (Scalar × Value) → List String
  | [] => []
  | (key, value) :: rest => (key.shown ++ ": " ++ value.shown) :: shownEntries rest

end

/-- The code points of the text of a value.  A text is its own text; texts inside lists and
mappings stand between quotes. -/
def wording : Value → List Text.CodePoint
  | .scalar value => value.wording
  | value => Text.codePoints value.shown

/-- The text of a value, as it is written. -/
def display : Value → String
  | .scalar value => value.display
  | value => value.shown

/-- A value is written as its wording is. -/
@[simp] theorem written_wording (value : Value) :
    Text.written value.wording = value.display := by
  cases value <;> simp [wording, display]

instance : Repr Value where
  reprPrec value _ := value.shown

end Value

end TableReconciler
