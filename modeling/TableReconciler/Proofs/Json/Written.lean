import Mathlib.Data.List.Forall2
import TableReconciler.Json.Reader

/-!
# Lists of texts as JSON

How texts and lists of them are written as JSON, and that what is written is read back.  In a string
a quote and a backslash follow a backslash, and a control character is written as its code unit.

Reading goes character by character, so that it can be followed part by part: characters that
`Spell` a value take the reader from where a value may stand to right after the value, whatever
containers are open around it.
-/

namespace TableReconciler.Json

/-! ## Writing -/

/-- A hexadecimal digit. -/
def hexDigit (digit : Nat) : Char :=
  Char.ofNat (if digit < 10 then '0'.toNat + digit else 'a'.toNat + (digit - 10))

/-- A character inside a string. -/
def writeChar (c : Char) : List Char :=
  if c = '"' ∨ c = '\\' then ['\\', c]
  else if c.toNat < 0x20 then
    ['\\', 'u', '0', '0', hexDigit (c.toNat / 16), hexDigit (c.toNat % 16)]
  else [c]

/-- A text. -/
def writeText (text : String) : List Char :=
  '"' :: (text.toList.flatMap writeChar ++ ['"'])

/-- The items of a list after the first, and the end of the list. -/
def writeLater : List (List Char) → List Char
  | [] => [']']
  | item :: rest => ',' :: (item ++ writeLater rest)

/-- A list with its items. -/
def writeList : List (List Char) → List Char
  | [] => ['[', ']']
  | item :: rest => '[' :: (item ++ writeLater rest)

/-- A list of paths, each a list of texts. -/
def writePaths (paths : List (List String)) : String :=
  String.ofList (writeList (paths.map fun path => writeList (path.map writeText)))

/-! ## Characters -/

variable {depth room : Nat} {mode next : Mode} {reader reader' : Reader} {c : Char}
  {cs : List Char} {value : Value}

/-- Reading goes on after a character that completes no token. -/
theorem foldlM_readChar_of_silent (h : step mode c = ([], next)) (later : List Char) :
    (c :: later).foldlM (readChar depth) (mode, reader) =
      later.foldlM (readChar depth) (next, reader) := by
  rw [List.foldlM_cons, readChar, h]
  rfl

/-- Reading goes on after a character that completes a token. -/
theorem foldlM_readChar_of_token {token : Token} (h : step mode c = ([token], next))
    (hpush : Reader.push depth reader token = .ok reader') (later : List Char) :
    (c :: later).foldlM (readChar depth) (mode, reader) =
      later.foldlM (readChar depth) (next, reader') := by
  rw [List.foldlM_cons, readChar, h]
  simp only [List.foldlM_cons, List.foldlM_nil, hpush]
  rfl

/-- A hexadecimal digit has its value. -/
theorem hexValue?_hexDigit : ∀ digit < 16, hexValue? (hexDigit digit) = some digit := by
  decide

/-- A control character is read back from its code unit. -/
theorem foldlM_readChar_control (hc : c.toNat < 0x20) (done : List Text.CodePoint)
    (later : List Char) :
    ('\\' :: 'u' :: '0' :: '0' :: hexDigit (c.toNat / 16) :: hexDigit (c.toNat % 16) ::
        later).foldlM (readChar depth) (.string done .plain, reader) =
      later.foldlM (readChar depth) (.string (.char c :: done) .plain, reader) := by
  have hhigh : hexValue? (hexDigit (c.toNat / 16)) = some (c.toNat / 16) :=
    hexValue?_hexDigit _ (by omega)
  have hlow : hexValue? (hexDigit (c.toNat % 16)) = some (c.toNat % 16) :=
    hexValue?_hexDigit _ (by omega)
  have hunit : 16 * (c.toNat / 16) + c.toNat % 16 = c.toNat := Nat.div_add_mod _ _
  have hpushed : pushUnit done c.toNat = .char c :: done := by
    have hsurrogate : ¬0xD800 ≤ c.toNat := by omega
    simp [pushUnit, hsurrogate]
  have hfirst : step (.string done (.unit 2 0)) (hexDigit (c.toNat / 16)) =
      ([], .string done (.unit 3 (c.toNat / 16))) := by
    simp [step, stringStep, hhigh]
  have hsecond : step (.string done (.unit 3 (c.toNat / 16))) (hexDigit (c.toNat % 16)) =
      ([], .string (.char c :: done) .plain) := by
    simp [step, stringStep, hlow, hunit, hpushed]
  change (hexDigit (c.toNat / 16) :: hexDigit (c.toNat % 16) :: later).foldlM (readChar depth)
    (.string done (.unit 2 0), reader) = _
  rw [foldlM_readChar_of_silent hfirst, foldlM_readChar_of_silent hsecond]

/-- A character inside a string is read back. -/
theorem foldlM_readChar_writeChar (c : Char) (done : List Text.CodePoint) (later : List Char) :
    (writeChar c ++ later).foldlM (readChar depth) (.string done .plain, reader) =
      later.foldlM (readChar depth) (.string (.char c :: done) .plain, reader) := by
  unfold writeChar
  split
  next hescaped => rcases hescaped with rfl | rfl <;> rfl
  next hplain =>
    obtain ⟨hquote, hbackslash⟩ := not_or.mp hplain
    split
    next hcontrol => exact foldlM_readChar_control hcontrol done later
    next hcontrol =>
      refine foldlM_readChar_of_silent ?_ later
      simp [step, stringStep, hquote, hbackslash, hcontrol]

/-- The characters of a string are read back. -/
theorem foldlM_readChar_flatMap (chars : List Char) (done : List Text.CodePoint)
    (later : List Char) :
    (chars.flatMap writeChar ++ later).foldlM (readChar depth) (.string done .plain, reader) =
      later.foldlM (readChar depth)
        (.string ((chars.map .char).reverse ++ done) .plain, reader) := by
  induction chars generalizing done with
  | nil => rfl
  | cons c rest ih =>
      rw [List.flatMap_cons, List.append_assoc, foldlM_readChar_writeChar, ih, List.map_cons,
        List.reverse_cons, List.append_assoc]
      rfl

/-! ## Values -/

/-- The characters take the reader from where a value may stand to right after the value, inside any
containers that leave room for `room` more. -/
def Spell (depth room : Nat) (cs : List Char) (value : Value) : Prop :=
  ∀ frames expects later, (expects = .value ∨ expects = .firstItem) →
    frames.length + room ≤ depth →
    (cs ++ later).foldlM (readChar depth) (.gap, ⟨frames, expects⟩) =
      later.foldlM (readChar depth) (.gap, ⟨frames, .after value⟩)

/-- A text is spelled as it is written. -/
theorem spell_writeText (text : String) : Spell depth 0 (writeText text) (.text text) := by
  intro frames expects later hexpects _
  have hclose : step (.string (text.toList.map Text.CodePoint.char).reverse .plain) '"' =
      ([.atom (.text text)], .gap) := by
    simp only [step, stringStep, if_pos, List.reverse_reverse]
    rw [← Scalar.ofPoints_codePoints text]
    rfl
  have hpush : Reader.push depth ⟨frames, expects⟩ (.atom (.text text)) =
      .ok ⟨frames, .after (.text text)⟩ := by
    rcases hexpects with rfl | rfl <;> rfl
  have hopen : step .gap '"' = ([], .string [] .plain) := rfl
  rw [writeText, List.cons_append, foldlM_readChar_of_silent hopen, List.append_assoc,
    foldlM_readChar_flatMap, List.append_nil]
  exact foldlM_readChar_of_token hclose hpush later

/-- The later items of a list, after one that has been read. -/
theorem foldlM_readChar_writeLater {items : List (List Char)} {values : List Value}
    (h : List.Forall₂ (Spell depth room) items values) {frames : List Frame}
    (hroom : frames.length + (room + 1) ≤ depth) (first : Value) (done : List Value)
    (later : List Char) :
    (writeLater items ++ later).foldlM (readChar depth)
        (.gap, ⟨.list done :: frames, .after first⟩) =
      later.foldlM (readChar depth)
        (.gap, ⟨frames, .after (.list ((first :: done).reverse ++ values))⟩) := by
  induction h generalizing first done with
  | nil =>
      rw [List.append_nil]
      exact foldlM_readChar_of_token rfl rfl later
  | @cons item value items values hitem _ ih =>
      have hcomma : step .gap ',' = ([.comma], .gap) := rfl
      rw [writeLater, List.cons_append, foldlM_readChar_of_token hcomma rfl, List.append_assoc,
        hitem _ _ _ (.inl rfl) (by simp only [List.length_cons]; omega), ih]
      simp

/-- A list is spelled by what spells its items. -/
theorem spell_writeList {items : List (List Char)} {values : List Value}
    (h : List.Forall₂ (Spell depth room) items values) :
    Spell depth (room + 1) (writeList items) (.list values) := by
  intro frames expects later hexpects hroom
  have hopen : step .gap '[' = ([.openList], .gap) := rfl
  -- the list takes one place of the room, and its items the others
  have hpush : Reader.push depth ⟨frames, expects⟩ .openList =
      .ok ⟨.list [] :: frames, .firstItem⟩ := by
    have hdepth : frames.length < depth := by omega
    rcases hexpects with rfl | rfl <;> exact if_pos hdepth
  cases h with
  | nil =>
      rw [writeList, List.cons_append, foldlM_readChar_of_token hopen hpush]
      exact foldlM_readChar_of_token rfl rfl later
  | @cons item value items values hitem hitems =>
      rw [writeList, List.cons_append, foldlM_readChar_of_token hopen hpush, List.append_assoc,
        hitem _ _ _ (.inr rfl) (by simp only [List.length_cons]; omega),
        foldlM_readChar_writeLater hitems hroom]
      rfl

/-! ## Whole texts -/

/-- A text that spells a value is read as the value. -/
theorem read_of_spell (h : Spell depth room cs value) (hroom : room ≤ depth) :
    read depth (String.ofList cs) = .ok value := by
  have hread := h [] .value [] (.inl rfl) ((Nat.zero_add room).symm ▸ hroom)
  rw [List.append_nil] at hread
  unfold read
  rw [String.toList_ofList]
  change (cs.foldlM (readChar depth) (.gap, ⟨[], .value⟩) >>= _) = _
  rw [hread]
  rfl

/-- **Paths are read back.**  A list of paths that is written as JSON is read as that list. -/
theorem read_writePaths (paths : List (List String)) (hdepth : 2 ≤ depth) :
    read depth (writePaths paths) =
      .ok (.list (paths.map fun path => .list (path.map .text))) := by
  have hpath : ∀ path : List String,
      Spell depth 1 (writeList (path.map writeText)) (.list (path.map .text)) := by
    intro path
    refine spell_writeList (List.forall₂_map_left_iff.mpr (List.forall₂_map_right_iff.mpr ?_))
    exact List.forall₂_same.mpr fun text _ => spell_writeText text
  refine read_of_spell (spell_writeList ?_) hdepth
  refine List.forall₂_map_left_iff.mpr (List.forall₂_map_right_iff.mpr ?_)
  exact List.forall₂_same.mpr fun path _ => hpath path

end TableReconciler.Json
