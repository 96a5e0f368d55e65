import TableReconciler.Value

/-!
# Entries

What a description holds where the catalog has a text.  A configuration may say anything there; the
description keeps what it says, and it is a fault only when something is done with the entry that
can be done with texts alone.  A description from the catalog holds texts.
-/

namespace TableReconciler

/-- What may stand in the place of a text. -/
class Entry (τ : Type) where
  /-- The entry that is a text. -/
  ofText : String → τ
  /-- The value that an entry is. -/
  value : τ → Value
  /-- A text is the value of its entry. -/
  value_ofText : ∀ text, value (ofText text) = .text text

instance : Entry String := ⟨id, Value.text, fun _ => rfl⟩

instance : Entry Value := ⟨Value.text, id, fun _ => rfl⟩

/-- How an entry fails where only texts will do. -/
inductive EntryFault where
  /-- A text is to be cut or escaped, and the entry is none. -/
  | notText
  /-- Texts are to be joined, and one of the entries is none. -/
  | notTexts
  deriving DecidableEq, Repr

namespace Entry

variable {τ : Type} [Entry τ]

/-- The text that an entry is, as it is written, if it is one. -/
def text? (entry : τ) : Option String :=
  (value entry).text?

/-- The key that an entry can be, if it has no parts. -/
def key? (entry : τ) : Option Scalar :=
  (value entry).key?

/-- The code points of the wording of an entry. -/
def wording (entry : τ) : List Text.CodePoint :=
  (value entry).wording

/-- The wording of an entry, as it is written. -/
def display (entry : τ) : String :=
  (value entry).display

/-- Whether an entry counts as absent. -/
def isEmpty (entry : τ) : Bool :=
  (value entry).isEmpty

/-- An entry, unless it is the absence of a value. -/
def nonNull? (entry : τ) : Option τ :=
  if (value entry).isNull then none else some entry

/-- The text of an entry that is escaped; an entry that counts as absent has the empty text. -/
def escapable (entry : τ) : Except EntryFault String :=
  if isEmpty entry then .ok ""
  else
    match text? entry with
    | some text => .ok text
    | none => .error .notText

/-- The texts of entries that are joined. -/
def joinable (entries : List τ) : Except EntryFault (List String) :=
  match entries.mapM text? with
  | some texts => .ok texts
  | none => .error .notTexts

/-- An entry is written as its wording is. -/
@[simp] theorem written_wording (entry : τ) : Text.written (wording entry) = display entry :=
  Value.written_wording (value entry)

/-! ## Entries that are texts -/

@[simp] theorem text?_string (text : String) : text? text = some text := rfl

@[simp] theorem key?_string (text : String) : key? text = some (.text text) := rfl

@[simp] theorem wording_string (text : String) : wording text = Text.codePoints text := rfl

@[simp] theorem display_string (text : String) : display text = text := rfl

@[simp] theorem isEmpty_string (text : String) : isEmpty text = text.isEmpty := rfl

@[simp] theorem nonNull?_string (text : String) : nonNull? text = some text := rfl

@[simp] theorem ofText_string (text : String) : (ofText text : String) = text := rfl

@[simp] theorem escapable_string (text : String) : escapable text = .ok text := by
  by_cases h : text.isEmpty
  · simp_all [escapable]
  · simp [escapable, h]

@[simp] theorem joinable_string (texts : List String) : joinable texts = .ok texts := by
  have h : texts.mapM text? = some texts := by
    induction texts with
    | nil => rfl
    | cons text rest ih => simp [List.mapM_cons, ih]
  simp [joinable, h]

end Entry

end TableReconciler
