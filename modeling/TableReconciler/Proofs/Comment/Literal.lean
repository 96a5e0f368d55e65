import Mathlib.Algebra.Ring.Parity
import TableReconciler.Ddl.Create

/-!
# Comments as literals

A literal is read from the quote that opens it to the first quote that no backslash takes; a
backslash takes the character that follows it, whatever that is (`readLiteral`).  A body stays
inside its quotes when no quote in it is bare and no backslash waits at its end (`Enclosed`); then,
and only then, the literal ends with the quote that was written behind the body
(`readLiteral_append_iff`).

The body that is written for a comment has a backslash before each quote, but backslashes are
written as they are.  `Guarded` counts them: the body stays inside its quotes exactly when each run
of backslashes in front of a quote of the comment is empty or odd, and the run at its end is even
(`enclosed_escapeChars_iff`).  The main statement says so for every statement that writes a comment
(`readLiteral_of_commented`).
-/

namespace TableReconciler.Comment

/-! ## Reading a literal -/

/-- The body of a literal, and what follows its closing quote.  The flag says that a backslash waits
for a character to take. -/
def readLiteral : Bool → List Char → Option (List Char × List Char)
  | _, [] => none
  | true, c :: rest => (readLiteral false rest).map fun (body, after) => (c :: body, after)
  | false, c :: rest =>
      if c = '\'' then some ([], rest)
      else (readLiteral (c = '\\') rest).map fun (body, after) => (c :: body, after)

/-- A body in which no quote is bare, and at whose end no backslash waits. -/
def Enclosed : Bool → List Char → Prop
  | waiting, [] => waiting = false
  | true, _ :: rest => Enclosed false rest
  | false, c :: rest => c ≠ '\'' ∧ Enclosed (c = '\\') rest

/-- Whether a body stays inside its quotes can be computed. -/
instance decidableEnclosed :
    (waiting : Bool) → (body : List Char) → Decidable (Enclosed waiting body)
  | waiting, [] => inferInstanceAs (Decidable (waiting = false))
  | true, _ :: rest => decidableEnclosed false rest
  | false, c :: rest =>
      haveI := decidableEnclosed (c = '\\') rest
      inferInstanceAs (Decidable (c ≠ '\'' ∧ Enclosed (c = '\\') rest))

/-- A literal ends with the quote behind its body exactly when the body stays inside. -/
theorem readLiteral_append_iff {waiting : Bool} {body after : List Char} :
    readLiteral waiting (body ++ '\'' :: after) = some (body, after) ↔ Enclosed waiting body := by
  induction body generalizing waiting with
  | nil =>
      cases waiting with
      | true =>
          -- the closing quote is taken, so that the body that is read is not empty
          have hread : readLiteral true ('\'' :: after) =
              (readLiteral false after).map fun (body, after) => ('\'' :: body, after) := rfl
          simp [hread, Enclosed]
      | false => simp [readLiteral, Enclosed]
  | cons c rest ih =>
      have hmap : ∀ next : Bool,
          ((readLiteral next (rest ++ '\'' :: after)).map fun (body, after) => (c :: body, after)) =
            some (c :: rest, after) ↔ Enclosed next rest := by
        intro next
        rw [← ih, Option.map_eq_some_iff]
        constructor
        · rintro ⟨⟨body, tail⟩, hread, h⟩
          cases h
          exact hread
        · intro h
          exact ⟨(rest, after), h, rfl⟩
      cases waiting with
      | true => exact hmap false
      | false =>
          by_cases hquote : c = '\''
          · simp [readLiteral, Enclosed, hquote]
          · simp only [List.cons_append, readLiteral, Enclosed, ne_eq, hquote, not_false_eq_true,
              true_and]
            exact hmap _

/-- What is read stands in the text, with its closing quote. -/
theorem eq_of_readLiteral {waiting : Bool} {text body after : List Char}
    (h : readLiteral waiting text = some (body, after)) : text = body ++ '\'' :: after := by
  induction text generalizing waiting body with
  | nil => cases waiting <;> cases h
  | cons c rest ih =>
      have hmap : ∀ next : Bool,
          ((readLiteral next rest).map fun (body, after) => (c :: body, after)) =
            some (body, after) → c :: rest = body ++ '\'' :: after := by
        intro next hread
        obtain ⟨⟨inner, tail⟩, hinner, heq⟩ := Option.map_eq_some_iff.mp hread
        obtain ⟨rfl, rfl⟩ := Prod.mk.inj heq
        rw [ih hinner, List.cons_append]
      cases waiting with
      | true => exact hmap false h
      | false =>
          rw [readLiteral] at h
          split at h
          next hquote =>
            obtain ⟨rfl, rfl⟩ := Prod.mk.inj (Option.some.inj h)
            rw [hquote, List.nil_append]
          next => exact hmap _ h

/-- A literal is read exactly when its body stays inside and the closing quote stands behind it. -/
theorem readLiteral_eq_some_iff {waiting : Bool} {text body after : List Char} :
    readLiteral waiting text = some (body, after) ↔
      text = body ++ '\'' :: after ∧ Enclosed waiting body := by
  constructor
  · intro h
    have htext := eq_of_readLiteral h
    rw [htext, readLiteral_append_iff] at h
    exact ⟨htext, h⟩
  · rintro ⟨rfl, h⟩
    exact readLiteral_append_iff.mpr h

/-! ## Runs of backslashes -/

/-- The length of the run of backslashes at the end of a text. -/
def endRun (cs : List Char) : Nat :=
  (cs.reverse.takeWhile (· = '\\')).length

@[simp] theorem endRun_replicate (n : Nat) : endRun (List.replicate n '\\') = n := by
  simp [endRun]

/-- Only what follows another character belongs to the run at the end. -/
theorem endRun_append_cons {c : Char} (h : c ≠ '\\') (before after : List Char) :
    endRun (before ++ c :: after) = endRun after := by
  have hstop : (c :: before.reverse).takeWhile (· = '\\') = [] := by simp [h]
  have hreverse : (before ++ c :: after).reverse = after.reverse ++ c :: before.reverse := by simp
  unfold endRun
  rw [hreverse, List.takeWhile_append]
  split
  next hall => rw [hstop, List.append_nil, hall]
  next => rfl

/-- In front of each quote the run of backslashes is empty or odd, and the run at the end is
even. -/
structure Guarded (cs : List Char) : Prop where
  /-- The runs in front of quotes. -/
  quotes : ∀ before after, cs = before ++ '\'' :: after →
    endRun before = 0 ∨ Odd (endRun before)
  /-- The run at the end. -/
  ending : Even (endRun cs)

/-- A text without backslashes is guarded. -/
theorem guarded_of_not_mem {cs : List Char} (h : '\\' ∉ cs) : Guarded cs := by
  have hrun : ∀ part, (∀ c ∈ part, c ∈ cs) → endRun part = 0 := by
    intro part hpart
    have hnone : part.reverse.takeWhile (· = '\\') = [] := by
      cases hreverse : part.reverse with
      | nil => rfl
      | cons c before =>
          have hmem : c ∈ part := List.mem_reverse.mp (hreverse ▸ List.mem_cons_self)
          have hc : c ≠ '\\' := fun e => h (e ▸ hpart c hmem)
          simp [hc]
    simp [endRun, hnone]
  refine ⟨fun before after hsplit => .inl (hrun before fun c hc => ?_), ?_⟩
  · rw [hsplit]
    exact List.mem_append_left _ hc
  · simp [hrun cs fun c hc => hc]

/-- A run of backslashes alone is guarded exactly when it is even. -/
theorem guarded_replicate_iff {n : Nat} : Guarded (List.replicate n '\\') ↔ Even n := by
  constructor
  · intro h
    simpa using h.ending
  · intro h
    refine ⟨fun before after hsplit => ?_, by simpa using h⟩
    have hmem : '\'' ∈ List.replicate n '\\' := by simp [hsplit]
    exact absurd (List.eq_of_mem_replicate hmem) (by decide)

/-- The quotes of a text that begins with a run of backslashes: the character behind the run, if
that is one, and those that follow. -/
theorem forall_quotes_iff (n : Nat) (c : Char) (rest : List Char) (p : List Char → Prop) :
    (∀ before after, List.replicate n '\\' ++ c :: rest = before ++ '\'' :: after → p before) ↔
      (c = '\'' → p (List.replicate n '\\')) ∧
      ∀ before after, rest = before ++ '\'' :: after →
        p (List.replicate n '\\' ++ c :: before) := by
  constructor
  · intro h
    refine ⟨?_, ?_⟩
    · rintro rfl
      exact h _ rest rfl
    · rintro before after rfl
      exact h _ after (by simp)
  · rintro ⟨hfirst, hlater⟩ before after hsplit
    rcases List.append_eq_append_iff.mp hsplit with ⟨middle, rfl, hrest⟩ | ⟨middle, hrun, hrest⟩
    · cases middle with
      | nil =>
          obtain ⟨rfl, -⟩ := List.cons.inj hrest
          simpa using hfirst rfl
      | cons first middle =>
          obtain ⟨rfl, rfl⟩ := List.cons.inj hrest
          exact hlater middle after rfl
    · cases middle with
      | nil =>
          obtain ⟨rfl, -⟩ := List.cons.inj hrest
          rw [List.append_nil] at hrun
          exact hrun ▸ hfirst rfl
      | cons first middle =>
          -- a quote inside the run
          obtain ⟨rfl, -⟩ := List.cons.inj hrest
          have hmem : '\'' ∈ List.replicate n '\\' := by simp [hrun]
          exact absurd (List.eq_of_mem_replicate hmem) (by decide)

/-- Whether a text is guarded is decided run by run. -/
theorem guarded_replicate_append_iff {n : Nat} {c : Char} (h : c ≠ '\\') (rest : List Char) :
    Guarded (List.replicate n '\\' ++ c :: rest) ↔
      (c = '\'' → n = 0 ∨ Odd n) ∧ Guarded rest := by
  have hquotes := forall_quotes_iff n c rest fun before => endRun before = 0 ∨ Odd (endRun before)
  simp only [endRun_replicate, endRun_append_cons h] at hquotes
  constructor
  · intro hguarded
    obtain ⟨hfirst, hlater⟩ := hquotes.mp hguarded.quotes
    refine ⟨hfirst, hlater, ?_⟩
    have hending := hguarded.ending
    rwa [endRun_append_cons h] at hending
  · rintro ⟨hfirst, hguarded⟩
    refine ⟨hquotes.mpr ⟨hfirst, hguarded.quotes⟩, ?_⟩
    rw [endRun_append_cons h]
    exact hguarded.ending

/-! ## The body that is written for a comment -/

/-- A run of backslashes leaves one of them waiting exactly when it is odd. -/
theorem enclosed_replicate_append (n : Nat) (rest : List Char) :
    Enclosed false (List.replicate n '\\' ++ rest) ↔ Enclosed (decide (Odd n)) rest := by
  have hstep : ∀ waiting : Bool, Enclosed waiting (List.replicate n '\\' ++ rest) ↔
      Enclosed (xor waiting (decide (Odd n))) rest := by
    induction n with
    | zero => simp
    | succ n ih =>
        intro waiting
        have hodd : decide (Odd (n + 1)) = !decide (Odd n) := by
          rw [← decide_not]
          exact decide_eq_decide.mpr Nat.odd_add_one
        rw [List.replicate_succ, List.cons_append, hodd]
        cases waiting with
        | true =>
            have htaken : Enclosed true ('\\' :: (List.replicate n '\\' ++ rest)) ↔
                Enclosed false (List.replicate n '\\' ++ rest) := Iff.rfl
            rw [htaken, ih false]
            simp
        | false =>
            have hwaits : Enclosed false ('\\' :: (List.replicate n '\\' ++ rest)) ↔
                Enclosed true (List.replicate n '\\' ++ rest) := by simp [Enclosed]
            rw [hwaits, ih true]
            simp
  simpa using hstep false

/-- A quote behind a run of backslashes is not bare exactly when the run is odd. -/
theorem enclosed_replicate_append_quote (n : Nat) (rest : List Char) :
    Enclosed false (List.replicate n '\\' ++ '\'' :: rest) ↔ Odd n ∧ Enclosed false rest := by
  rw [enclosed_replicate_append]
  by_cases hodd : Odd n
  · simp [hodd, Enclosed]
  · simp [hodd, Enclosed]

/-- Any other character ends the run. -/
theorem enclosed_replicate_append_cons {c : Char} (hquote : c ≠ '\'') (hslash : c ≠ '\\') (n : Nat)
    (rest : List Char) :
    Enclosed false (List.replicate n '\\' ++ c :: rest) ↔ Enclosed false rest := by
  rw [enclosed_replicate_append]
  by_cases hodd : Odd n
  · simp [hodd, Enclosed]
  · simp [hodd, Enclosed, hquote, hslash]

/-- A run of backslashes is written as it is in front of anything but a quote. -/
theorem escapeChars_replicate_append {rest : List Char} (h : rest.head? ≠ some '\'') (n : Nat) :
    escapeChars (List.replicate n '\\' ++ rest) = List.replicate n '\\' ++ escapeChars rest := by
  induction n with
  | zero => rfl
  | succ n ih =>
      have hhead : (List.replicate n '\\' ++ rest).head? ≠ some '\'' := by
        cases n with
        | zero => exact h
        | succ n => simp [List.replicate_succ]
      have hcons : ∀ tail : List Char, tail.head? ≠ some '\'' →
          escapeChars ('\\' :: tail) = '\\' :: escapeChars tail := by
        intro tail htail
        cases tail with
        | nil => rfl
        | cons c tail =>
            have hc : c ≠ '\'' := fun e => htail (by simp [e])
            simp [escapeChars, unescapeChars, hc, guardQuotes]
      rw [List.replicate_succ, List.cons_append, hcons _ hhead, ih, List.cons_append]

/-- In front of a quote the run loses the backslash that took the quote, and gets one that takes
it. -/
theorem escapeChars_replicate_append_quote (n : Nat) (rest : List Char) :
    escapeChars (List.replicate n '\\' ++ '\'' :: rest) =
      List.replicate (max n 1) '\\' ++ '\'' :: escapeChars rest := by
  cases n with
  | zero => simp [escapeChars, unescapeChars, guardQuotes]
  | succ n =>
      have hlast : List.replicate (n + 1) '\\' ++ '\'' :: rest =
          List.replicate n '\\' ++ '\\' :: '\'' :: rest := by
        rw [List.replicate_succ', List.append_assoc, List.singleton_append]
      have hescape : escapeChars ('\\' :: '\'' :: rest) = '\\' :: '\'' :: escapeChars rest := rfl
      have hmax : max (n + 1) 1 = n + 1 := by omega
      rw [hlast, escapeChars_replicate_append (by simp), hescape, hmax, List.replicate_succ',
        List.append_assoc, List.singleton_append]

/-- The body that is written for a text stays inside its quotes exactly when the text is guarded. -/
theorem enclosed_escapeChars_iff (cs : List Char) :
    Enclosed false (escapeChars cs) ↔ Guarded cs := by
  -- the induction counts the backslashes that stand in front of what is left of the text
  have hrun : ∀ n, Enclosed false (escapeChars (List.replicate n '\\' ++ cs)) ↔
      Guarded (List.replicate n '\\' ++ cs) := by
    induction cs with
    | nil =>
        intro n
        have hending : Enclosed (decide (Odd n)) (escapeChars []) ↔ Even n := by
          simp [escapeChars, unescapeChars, guardQuotes, Enclosed]
        rw [escapeChars_replicate_append (by simp), enclosed_replicate_append, hending,
          List.append_nil, guarded_replicate_iff]
    | cons c rest ih =>
        intro n
        by_cases hslash : c = '\\'
        · have hlonger : List.replicate n '\\' ++ c :: rest =
              List.replicate (n + 1) '\\' ++ rest := by
            rw [hslash, List.replicate_succ', List.append_assoc, List.singleton_append]
          rw [hlonger]
          exact ih (n + 1)
        · have hrest := ih 0
          simp only [List.replicate_zero, List.nil_append] at hrest
          rw [guarded_replicate_append_iff hslash, ← hrest]
          by_cases hquote : c = '\''
          · have hparity : Odd (max n 1) ↔ n = 0 ∨ Odd n := by
              cases n with
              | zero => simp
              | succ n => simp
            rw [hquote, escapeChars_replicate_append_quote, enclosed_replicate_append_quote,
              hparity]
            simp
          · have hhead : (c :: rest).head? ≠ some '\'' := by simp [hquote]
            have hescape : escapeChars (c :: rest) = c :: escapeChars rest := by
              simp [escapeChars, unescapeChars, guardQuotes, hquote, hslash]
            rw [escapeChars_replicate_append hhead, hescape,
              enclosed_replicate_append_cons hquote hslash]
            simp [hquote]
  exact hrun 0

/-! ## Statements that write comments -/

/-- The texts of the statements that write a comment, each with the comment: the one that creates an
object writes its comment and those of its columns, unless they are empty, and so does the one that
adds a column; two others change a comment. -/
inductive Commented : String → String → Prop
  /-- An object is created. -/
  | create (managed : ManagedKeys) (d : TableSpec) (kind : ObjectKind) (h : d.comment ≠ "") :
      Commented (d.createText managed kind) d.comment
  /-- An object is created with a column. -/
  | createColumn (managed : ManagedKeys) (d : TableSpec) (kind : ObjectKind) (column : Column)
      (hcolumn : column ∈ d.columns) (h : column.comment ≠ "") :
      Commented (d.createText managed kind) column.comment
  /-- The comment of an object is changed. -/
  | commentOn (kind : ObjectKind) (name : QualifiedName) (comment : String) :
      Commented (Statement.commentOn kind name comment).render comment
  /-- A column is added. -/
  | addColumn (kind : ObjectKind) (name : QualifiedName) (column : Column) (after : Option String)
      (h : column.comment ≠ "") :
      Commented (Statement.alterColumns kind name (.add column after)).render column.comment
  /-- The comment of a column is changed. -/
  | setComment (kind : ObjectKind) (name : QualifiedName) (column comment : String) :
      Commented (Statement.alterColumns kind name (.setComment column comment)).render comment

/-- A text is part of another one. -/
def PartOf (part text : String) : Prop :=
  ∃ before after, text = before ++ part ++ after

namespace PartOf

theorem refl (text : String) : PartOf text text := ⟨"", "", by simp⟩

theorem append_left {part text : String} (h : PartOf part text) (before : String) :
    PartOf part (before ++ text) := by
  obtain ⟨front, back, rfl⟩ := h
  exact ⟨before ++ front, back, by simp only [String.append_assoc]⟩

theorem append_right {part text : String} (h : PartOf part text) (after : String) :
    PartOf part (text ++ after) := by
  obtain ⟨front, back, rfl⟩ := h
  exact ⟨front, back ++ after, by simp only [String.append_assoc]⟩

/-- What is part of a text in a list is part of the texts put together. -/
theorem intercalate {part text separator : String} {texts : List String} (h : PartOf part text)
    (hmem : text ∈ texts) : PartOf part (separator.intercalate texts) := by
  induction texts with
  | nil => cases hmem
  | cons first rest ih =>
      cases rest with
      | nil =>
          rw [String.intercalate_singleton]
          exact List.mem_singleton.mp hmem ▸ h
      | cons second rest =>
          rw [String.intercalate_cons_cons]
          rcases List.mem_cons.mp hmem with rfl | hlater
          · exact (h.append_right separator).append_right _
          · exact (ih hlater).append_left _

end PartOf

/-- The definition of a column ends with its comment, if it has one. -/
theorem partOf_columnDefinition {column : Column} (h : column.comment ≠ "") :
    PartOf (literal column.comment) (Ddl.columnDefinition column) := by
  have hsome : column.comment.isEmpty = false := by simpa using h
  unfold Ddl.columnDefinition
  rw [hsome]
  exact (PartOf.refl _).append_left _ |>.append_left _

/-- A statement that writes a comment writes its literal. -/
theorem partOf_of_commented {statement comment : String} (h : Commented statement comment) :
    PartOf (literal comment) statement := by
  cases h with
  | create managed d kind h =>
      have hclause : "COMMENT " ++ literal d.comment ∈ d.createTail managed := by
        have hsome : d.comment.isEmpty = false := by simpa using h
        simp [TableSpec.createTail, TableSpec.clauseUnless, hsome]
      exact (((PartOf.refl _).append_left _).intercalate
        (List.mem_cons_of_mem _ hclause)).append_right ";"
  | createColumn managed d kind column hcolumn h =>
      have hdefinition : PartOf (literal column.comment) (Ddl.columnDefinitions d.columns) :=
        (partOf_columnDefinition h).intercalate (List.mem_map_of_mem hcolumn)
      have hhead : PartOf (literal column.comment) (d.createHead kind) := by
        have hsome : d.columns.isEmpty = false := by
          simpa using List.ne_nil_of_mem hcolumn
        unfold TableSpec.createHead
        rw [hsome]
        exact ((hdefinition.append_left " (").append_right ")").append_left _
      exact (hhead.intercalate List.mem_cons_self).append_right ";"
  | commentOn kind name => exact (PartOf.refl _).append_left _
  | addColumn kind name column after h =>
      exact ((partOf_columnDefinition h).append_left _).append_right _
  | setComment kind name column => exact (PartOf.refl _).append_left _

/-- **Comments inside their quotes.** The body that is written for a comment stays inside its quotes
if and only if the comment is guarded; one without backslashes is.  So a statement that writes the
comment has its literal in it, and wherever it has, the literal ends with the quote that was written
behind the body if and only if the comment is guarded. -/
theorem readLiteral_of_commented (comment : String) :
    (Enclosed false (escape comment).toList ↔ Guarded comment.toList) ∧
    ('\\' ∉ comment.toList → Guarded comment.toList) ∧
    ∀ statement, Commented statement comment →
      PartOf (literal comment) statement ∧
      ∀ before after : String, statement = before ++ "'" ++ escape comment ++ "'" ++ after →
        (readLiteral false ((escape comment).toList ++ '\'' :: after.toList) =
            some ((escape comment).toList, after.toList) ↔ Guarded comment.toList) := by
  have henclosed : Enclosed false (escape comment).toList ↔ Guarded comment.toList := by
    unfold escape
    rw [String.toList_ofList, enclosed_escapeChars_iff]
  refine ⟨henclosed, guarded_of_not_mem, fun statement h => ?_⟩
  refine ⟨partOf_of_commented h, fun before after _ => ?_⟩
  rw [readLiteral_append_iff, henclosed]

/-- A quote as it is, one that a backslash takes, and two backslashes at the end: the comment is
guarded, and its literal ends behind it. -/
theorem readLiteral_of_quoted :
    let comment := "it's the \\'raw\\' data of C:\\\\"
    let statement := (Statement.commentOn .table ⟨"main", "sales", "orders"⟩ comment).render
    Commented statement comment ∧ Guarded "it's".toList ∧
      statement = "COMMENT ON TABLE `main`.`sales`.`orders` IS " ++ "'" ++ escape comment ++ "'" ++
        "" ∧
      readLiteral false ((escape comment).toList ++ ['\'']) =
        some ((escape comment).toList, []) := by
  intro comment statement
  have hcommented : Commented statement comment := .commentOn _ _ _
  obtain ⟨henclosed, -, hread⟩ := readLiteral_of_commented comment
  have hguarded : Guarded comment.toList := henclosed.mp (by decide +kernel)
  have hplain : Guarded "it's".toList := (readLiteral_of_commented "it's").2.1 (by decide)
  have hstatement : statement = "COMMENT ON TABLE `main`.`sales`.`orders` IS " ++ "'" ++
      escape comment ++ "'" ++ "" := by decide +kernel
  exact ⟨hcommented, hplain, hstatement,
    ((hread _ hcommented).2 _ "" hstatement).mpr hguarded⟩

/-- Backslashes that are written as they are.  One at the end of a comment takes the closing quote,
so that the literal does not end.  Two in front of a quote take each other, so that the literal ends
inside the comment. -/
theorem readLiteral_of_backslash :
    (¬Enclosed false (escape "C:\\").toList ∧
      (Statement.commentOn .table ⟨"main", "sales", "orders"⟩ "C:\\").render =
        "COMMENT ON TABLE `main`.`sales`.`orders` IS 'C:\\'" ∧
      readLiteral false "C:\\'".toList = none) ∧
    ¬Enclosed false (escape "\\\\' x").toList ∧
      (Statement.commentOn .table ⟨"main", "sales", "orders"⟩ "\\\\' x").render =
        "COMMENT ON TABLE `main`.`sales`.`orders` IS '\\\\' x'" ∧
      readLiteral false "\\\\' x'".toList = some ("\\\\".toList, " x'".toList) := by
  refine ⟨⟨?_, ?_, ?_⟩, ?_, ?_, ?_⟩ <;> decide +kernel

end TableReconciler.Comment
