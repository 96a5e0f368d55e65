import Mathlib.Tactic.SplitIfs
import TableReconciler.Json.Reader

/-!
# Texts within the limits

Reading JSON stops at lists and objects that stand too deep, and at integers that are too long.  A
text is `Within` these limits when reading it does not stop so: it is read, or it is not JSON.

A text is within the limits when it has no more opening brackets than may stand inside one another,
and no more digits than an integer may have (`within_of_countP`).  With every character the scanner
gives tokens that open no more than the character does, and holds no more digits than it was given
(`scanned_step`); and the reader has no more containers open than its tokens opened
(`push_bounded`).
-/

namespace TableReconciler.Json

/-- Reading the text does not stop at a limit. -/
def Within (depth : Nat) (text : String) : Prop :=
  ∀ fault, read depth text = .error fault → fault = .malformed

/-! ## Tokens -/

/-- How many containers a token opens. -/
def Token.openings : Token → Nat
  | .openList | .openObject => 1
  | _ => 0

/-- How many containers tokens open. -/
def openings : List Token → Nat
  | [] => 0
  | token :: rest => token.openings + openings rest

/-- The token is no integer that is not read. -/
def Token.Readable (token : Token) : Prop :=
  ∀ fault, token ≠ .unreadable fault

/-- The token is a value or no token. -/
def Token.Plain (token : Token) : Prop :=
  token = .invalid ∨ ∃ value, token = .atom value

/-- Such a token opens nothing. -/
theorem Token.Plain.openings {token : Token} (h : token.Plain) : token.openings = 0 := by
  rcases h with rfl | ⟨_, rfl⟩ <;> rfl

/-- Such a token is no integer that is not read. -/
theorem Token.Plain.readable {token : Token} (h : token.Plain) : token.Readable := by
  rcases h with rfl | ⟨_, rfl⟩ <;> exact nofun

/-- Tokens open what those in front open and those behind. -/
theorem openings_append (first second : List Token) :
    openings (first ++ second) = openings first + openings second := by
  induction first with
  | nil => exact (Nat.zero_add _).symm
  | cons token rest ih => rw [List.cons_append, openings, openings, ih, Nat.add_assoc]

/-- Values open nothing. -/
theorem openings_of_plain {tokens : List Token} (h : ∀ token ∈ tokens, token.Plain) :
    openings tokens = 0 := by
  induction tokens with
  | nil => rfl
  | cons token rest ih =>
      obtain ⟨htoken, hrest⟩ := List.forall_mem_cons.mp h
      rw [openings, htoken.openings, ih hrest]

/-! ## The reader -/

/-- How many containers are open: those with a frame, and an object that waits for a key or a
colon. -/
def Reader.openings (reader : Reader) : Nat :=
  reader.frames.length +
    match reader.expects with
    | .key _ _ | .colon _ _ => 1
    | _ => 0

/-- Reading goes on with `bound` open containers at most, or ends since the text is not JSON. -/
def Bounded (bound : Nat) : Except Fault Reader → Prop
  | .ok reader => reader.openings ≤ bound
  | .error fault => fault = .malformed

/-- What is bounded is bounded by more. -/
theorem Bounded.mono {bound wider : Nat} {result : Except Fault Reader} (h : Bounded bound result)
    (hwider : bound ≤ wider) : Bounded wider result := by
  cases result with
  | ok reader => exact Nat.le_trans h hwider
  | error fault => exact h

namespace Reader

variable {depth bound : Nat} {reader : Reader} {token : Token} {tokens : List Token}

/-- The first token of a value. -/
theorem pushValue_bounded {frames : List Frame} (htoken : token.Readable)
    (h : frames.length + token.openings ≤ depth) :
    Bounded (frames.length + token.openings) (pushValue depth frames token) := by
  cases token with
  | openList | openObject =>
      have hroom : frames.length < depth := h
      simp only [pushValue, if_pos hroom]
      exact Nat.le_refl _
  | atom value => exact Nat.le_refl _
  | unreadable fault => exact absurd rfl (htoken fault)
  | closeList | closeObject | comma | colon | invalid => rfl

/-- A token after a complete value. -/
theorem pushAfter_bounded (value : Value) (frames : List Frame) (token : Token) :
    Bounded (frames.length + token.openings) (pushAfter value frames token) := by
  unfold pushAfter
  split
  all_goals first | rfl | exact Nat.le_succ_of_le (Nat.le_refl _) | exact Nat.le_refl _

/-- A token opens what it opens, and no limit is met while there is room for that. -/
theorem push_bounded (htoken : token.Readable) (h : reader.openings + token.openings ≤ depth) :
    Bounded (reader.openings + token.openings) (push depth reader token) := by
  obtain ⟨frames, expects⟩ := reader
  cases expects with
  | value => exact pushValue_bounded htoken h
  | after value => exact pushAfter_bounded value frames token
  | firstItem =>
      by_cases hclose : token = .closeList
      · subst hclose
        change frames.tail.length ≤ frames.length
        rw [List.length_tail]
        exact Nat.sub_le _ _
      · have hpush : push depth ⟨frames, .firstItem⟩ token = pushValue depth frames token := by
          cases token <;> first | rfl | exact absurd rfl hclose
        rw [hpush]
        exact pushValue_bounded htoken h
  | key entries first =>
      cases token with
      | closeObject =>
          cases first
          · rfl
          · exact Nat.le_succ_of_le (Nat.le_refl _)
      | atom key =>
          have hpush : push depth ⟨frames, .key entries first⟩ (.atom key) =
              if key.isText then .ok ⟨frames, .colon entries key⟩ else .error .malformed := by
            cases first <;> rfl
          rw [hpush]
          split
          · exact Nat.le_refl _
          · rfl
      | openList | closeList | openObject | comma | colon | unreadable | invalid =>
          cases first <;> rfl
  | colon entries key =>
      cases token with
      | colon => exact Nat.le_refl _
      | openList | closeList | openObject | closeObject | comma | atom | unreadable | invalid => rfl

/-- Tokens open what they open, and no limit is met while there is room for that. -/
theorem foldlM_push_bounded (htokens : ∀ token ∈ tokens, token.Readable)
    (h : reader.openings + Json.openings tokens ≤ depth) :
    Bounded (reader.openings + Json.openings tokens) (tokens.foldlM (push depth) reader) := by
  induction tokens generalizing reader with
  | nil => exact Nat.le_refl _
  | cons token rest ih =>
      have hsum : Json.openings (token :: rest) = token.openings + Json.openings rest := rfl
      rw [hsum, ← Nat.add_assoc] at h ⊢
      obtain ⟨htoken, hrest⟩ := List.forall_mem_cons.mp htokens
      have hpushed := push_bounded htoken (Nat.le_of_add_right_le h)
      rw [List.foldlM_cons]
      rcases hpush : push depth reader token with fault | next <;> rw [hpush] at hpushed
      · exact hpushed
      · have hnext : next.openings ≤ reader.openings + token.openings := hpushed
        have hroom : next.openings + Json.openings rest ≤
            reader.openings + token.openings + Json.openings rest :=
          Nat.add_le_add_right hnext _
        exact (ih hrest (Nat.le_trans hroom h)).mono hroom

end Reader

/-! ## The scanner -/

/-- How many digits of a number the scanner holds. -/
def Mode.digits : Mode → Nat
  | .number done => done.countP isDigit
  | _ => 0

/-- Whether a character opens a list or an object. -/
def isOpening (c : Char) : Bool :=
  c == '[' || c == '\x7b'

/-- The whole part of a number has no more digits than its characters. -/
theorem length_wholePart_le (cs : List Char) : (wholePart cs).1.length ≤ cs.countP isDigit := by
  unfold wholePart
  split
  next rest =>
    rw [List.countP_cons_of_pos (by decide)]
    exact Nat.le_add_left 1 _
  next =>
    have hall : (cs.takeWhile isDigit).countP isDigit = (cs.takeWhile isDigit).length :=
      List.countP_eq_length.mpr fun c hc => List.all_eq_true.mp List.all_takeWhile c hc
    rw [← hall]
    exact (List.takeWhile_sublist isDigit).countP_le

/-- The number at the start of characters is read if they do not have too many digits. -/
theorem plain_of_unsignedNumber? {negative : Bool} {cs rest : List Char} {token : Token}
    (hdigits : cs.countP isDigit ≤ Text.maxDigits)
    (h : unsignedNumber? negative cs = some (token, rest)) : token.Plain := by
  have hwhole : ¬Text.maxDigits < (wholePart cs).1.length :=
    Nat.not_lt.mpr (Nat.le_trans (length_wholePart_le cs) hdigits)
  unfold unsignedNumber? at h
  simp only at h
  split at h
  · cases h
  · cases h
    right
    split
    · rw [integerToken, if_neg hwhole]
      exact ⟨_, rfl⟩
    · exact ⟨_, rfl⟩

/-- Characters of a number make values, if they do not have too many digits. -/
theorem plain_of_mem_numberTokens {cs : List Char} {token : Token}
    (hdigits : cs.countP isDigit ≤ Text.maxDigits) (h : token ∈ numberTokens cs) :
    token.Plain := by
  have hnumber : ∀ {first rest}, number? cs = some (first, rest) → first.Plain := by
    intro first rest hfirst
    unfold number? at hfirst
    split at hfirst
    next digits =>
      rw [List.countP_cons_of_neg (by decide)] at hdigits
      exact plain_of_unsignedNumber? hdigits hfirst
    next => exact plain_of_unsignedNumber? hdigits hfirst
  unfold numberTokens at h
  split at h
  next => exact .inl (List.mem_singleton.mp h)
  next first hfirst => exact List.mem_singleton.mp h ▸ hnumber hfirst
  next first _ _ hfirst =>
    rcases List.mem_cons.mp h with rfl | hlast
    · exact hnumber hfirst
    · exact .inl (List.mem_singleton.mp hlast)

/-- A word is a value or no token. -/
theorem plain_wordToken (cs : List Char) : (wordToken cs).Plain := by
  unfold wordToken
  split
  all_goals first | exact .inl rfl | exact .inr ⟨_, rfl⟩

/-- What the scanner makes of a character: tokens that open no more than the character does, none of
them an integer that is not read, and a place where it holds `digits` digits at most. -/
structure Scanned (c : Char) (digits : Nat) (result : List Token × Mode) : Prop where
  /-- No token is an integer that is not read. -/
  readable : ∀ token ∈ result.1, token.Readable
  /-- The tokens open no more than the character does. -/
  openings : openings result.1 ≤ (isOpening c).toNat
  /-- The scanner holds no more digits than that. -/
  digits : result.2.digits ≤ digits

namespace Scanned

variable {c : Char} {digits : Nat} {tokens : List Token} {mode : Mode}

/-- Values and what is no token. -/
theorem of_plain (htokens : ∀ token ∈ tokens, token.Plain) (hdigits : mode.digits ≤ digits) :
    Scanned c digits (tokens, mode) where
  readable token htoken := (htokens token htoken).readable
  openings := openings_of_plain htokens ▸ Nat.zero_le _
  digits := hdigits

/-- A character that completes no token and is no digit of a number. -/
theorem silent (hdigits : mode.digits ≤ digits) : Scanned c digits ([], mode) :=
  of_plain nofun hdigits

/-- A character that completes a value, or is no part of a token. -/
theorem plain {token : Token} (h : token.Plain) : Scanned c digits ([token], .gap) :=
  of_plain (List.forall_mem_singleton.mpr h) (Nat.zero_le digits)

/-- A token of one character. -/
theorem single {token : Token} (hreadable : token.Readable)
    (hopenings : token.openings ≤ (isOpening c).toNat) : Scanned c digits ([token], .gap) where
  readable := List.forall_mem_singleton.mpr hreadable
  openings := hopenings
  digits := Nat.zero_le digits

/-- Values and what is no token before other tokens. -/
theorem append {before : List Token} (hbefore : ∀ token ∈ before, token.Plain)
    (h : Scanned c digits (tokens, mode)) : Scanned c digits (before ++ tokens, mode) where
  readable := List.forall_mem_append.mpr
    ⟨fun token htoken => (hbefore token htoken).readable, h.readable⟩
  openings := by
    rw [openings_append, openings_of_plain hbefore, Nat.zero_add]
    exact h.openings
  digits := h.digits

end Scanned

/-- A digit counts as one. -/
theorem countP_isDigit_cons (c : Char) (done : List Char) :
    (c :: done).countP isDigit = done.countP isDigit + (isDigit c).toNat := by
  rw [List.countP_cons]
  cases isDigit c <;> rfl

/-- Between two tokens. -/
theorem scanned_start (c : Char) (digits : Nat) :
    Scanned c (digits + (isDigit c).toNat) (start c) := by
  unfold start
  split_ifs with hspace hquote hnumber hletter
  · exact .silent (Nat.zero_le _)
  · exact .silent (Nat.zero_le _)
  · refine .silent ?_
    change [c].countP isDigit ≤ _
    rw [countP_isDigit_cons]
    exact Nat.add_le_add_right (Nat.zero_le digits) _
  · exact .silent (Nat.zero_le _)
  · split
    all_goals first | exact .single nofun (by decide) | exact .plain (.inl rfl)

/-- Inside a string. -/
theorem scanned_stringStep (done : List Text.CodePoint) (part : StringPart) (c : Char)
    (digits : Nat) : Scanned c digits (stringStep done part c) := by
  have hsilent : ∀ points part, Scanned c digits ([], .string points part) :=
    fun _ _ => .silent (Nat.zero_le _)
  cases part with
  | plain =>
      unfold stringStep
      simp only
      split_ifs
      · exact .plain (.inr ⟨_, rfl⟩)
      · exact hsilent _ _
      · exact .plain (.inl rfl)
      · exact hsilent _ _
  | escape =>
      unfold stringStep
      simp only
      split_ifs
      · exact hsilent _ _
      · split
        · exact hsilent _ _
        · exact .plain (.inl rfl)
  | unit count value =>
      unfold stringStep
      simp only
      split
      · exact .plain (.inl rfl)
      · split_ifs
        · exact hsilent _ _
        · exact hsilent _ _

/-- What a character completes opens as much as the character, and the digits that the scanner then
holds are those it held and the character. -/
theorem scanned_step {mode : Mode} (c : Char) (hdigits : mode.digits ≤ Text.maxDigits) :
    Scanned c (mode.digits + (isDigit c).toNat) (step mode c) := by
  cases mode with
  | gap => exact scanned_start c 0
  | string done part => exact scanned_stringStep done part c _
  | number done =>
      have hheld : ∀ token ∈ numberTokens done.reverse, token.Plain := by
        intro token htoken
        refine plain_of_mem_numberTokens ?_ htoken
        rw [List.countP_reverse]
        exact hdigits
      unfold step
      simp only
      split_ifs
      · exact .silent (Nat.le_of_eq (countP_isDigit_cons c done))
      · exact .silent (Nat.zero_le _)
      · exact (scanned_start c _).append hheld
  | word done =>
      unfold step
      simp only
      split_ifs
      · exact .silent (Nat.zero_le _)
      · exact (scanned_start c _).append (List.forall_mem_singleton.mpr (plain_wordToken _))

/-! ## Whole texts -/

/-- What the end of a text completes. -/
theorem plain_of_mem_finish {mode : Mode} (hdigits : mode.digits ≤ Text.maxDigits) :
    ∀ token ∈ finish mode, token.Plain := by
  cases mode with
  | gap => exact nofun
  | string => exact List.forall_mem_singleton.mpr (.inl rfl)
  | number done =>
      intro token htoken
      refine plain_of_mem_numberTokens ?_ htoken
      rw [List.countP_reverse]
      exact hdigits
  | word done => exact List.forall_mem_singleton.mpr (plain_wordToken _)

/-- A character is taken in by its tokens. -/
theorem readChar_eq (depth : Nat) (mode : Mode) (reader : Reader) (c : Char) :
    readChar depth (mode, reader) c =
      ((step mode c).1.foldlM (Reader.push depth) reader).map
        fun next => ((step mode c).2, next) := by
  rcases hstep : step mode c with ⟨tokens, next⟩
  simp only [readChar, hstep]
  cases tokens.foldlM (Reader.push depth) reader <;> rfl

/-- While there is room for the opening brackets and the digits of some characters, no limit is met
on the way, and afterwards neither the open containers nor the digits held are beyond the limits. -/
theorem foldlM_readChar_bounded {depth : Nat} {cs : List Char} {mode : Mode} {reader : Reader}
    (hopenings : reader.openings + cs.countP isOpening ≤ depth)
    (hdigits : mode.digits + cs.countP isDigit ≤ Text.maxDigits) :
    match cs.foldlM (readChar depth) (mode, reader) with
    | .ok (last, final) => last.digits ≤ Text.maxDigits ∧ final.openings ≤ depth
    | .error fault => fault = .malformed := by
  induction cs generalizing mode reader with
  | nil => exact ⟨hdigits, hopenings⟩
  | cons c rest ih =>
      -- what the character adds to what is open and held, it no longer counts among the rest
      have hcount : (c :: rest).countP isOpening = (isOpening c).toNat + rest.countP isOpening := by
        rw [List.countP_cons, Nat.add_comm]
        cases isOpening c <;> rfl
      rw [hcount] at hopenings
      rw [countP_isDigit_cons] at hdigits
      have hscanned := scanned_step c (Nat.le_of_add_right_le hdigits)
      have hopened := hscanned.openings
      have hheld := hscanned.digits
      have hroom : reader.openings + openings (step mode c).1 ≤ depth := by omega
      have hpushed := Reader.foldlM_push_bounded hscanned.readable hroom
      rw [List.foldlM_cons, readChar_eq]
      rcases hpush : (step mode c).1.foldlM (Reader.push depth) reader with fault | next
        <;> rw [hpush] at hpushed
      · exact hpushed
      · have hnext : next.openings ≤ reader.openings + openings (step mode c).1 := hpushed
        exact ih (by omega) (by omega)

/-- **Texts within the limits.**  A text with no more opening brackets than may stand inside one
another, and with no more digits than an integer may have, is read or is not JSON. -/
theorem within_of_countP {depth : Nat} {text : String}
    (hopenings : text.toList.countP isOpening ≤ depth)
    (hdigits : text.toList.countP isDigit ≤ Text.maxDigits) : Within depth text := by
  intro fault hread
  have hbounded := foldlM_readChar_bounded
    (Nat.le_trans (Nat.le_of_eq (Nat.zero_add _)) hopenings :
      Reader.initial.openings + text.toList.countP isOpening ≤ depth)
    (Nat.le_trans (Nat.le_of_eq (Nat.zero_add _)) hdigits :
      Mode.gap.digits + text.toList.countP isDigit ≤ Text.maxDigits)
  unfold read at hread
  rcases hchars : text.toList.foldlM (readChar depth) (.gap, .initial) with early | ⟨mode, reader⟩
    <;> rw [hchars] at hbounded hread
  · cases hread
    exact hbounded
  · obtain ⟨hheld, hopen⟩ := hbounded
    have hplain := plain_of_mem_finish hheld
    have hroom : reader.openings + openings (finish mode) ≤ depth := by
      rw [openings_of_plain hplain]
      exact hopen
    have hlast := Reader.foldlM_push_bounded (fun token h => (hplain token h).readable) hroom
    change (finish mode).foldlM (Reader.push depth) reader >>= Reader.result = _ at hread
    rcases hfinish : (finish mode).foldlM (Reader.push depth) reader with late | final
      <;> rw [hfinish] at hlast hread
    · cases hread
      exact hlast
    · change final.result = _ at hread
      unfold Reader.result at hread
      split at hread <;> cases hread
      rfl

end TableReconciler.Json
