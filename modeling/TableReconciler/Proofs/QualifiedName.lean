import TableReconciler.Proofs.Text.Segments
import TableReconciler.QualifiedName

/-!
# Reading names

Which texts name an object, and which names are read back from what is written for them.

Back quotes are dropped wherever they stand, so that only the characters that remain matter
(`parse?_congr`).  They are cut at the dots, and each segment is trimmed; that the text is trimmed
as a whole before makes no difference.  A text is therefore read as the three names in `parts`
exactly when these are its trimmed segments and none of them is empty (`parse?_eq_some_iff`).

What is read has parts without dots, back quotes and white space at the ends (`IsPart`), and a name
of such parts is read back from its written forms.  The main statement is
`parse?_format_and_quoted`.
-/

namespace TableReconciler.QualifiedName

/-- The characters of a text without its back quotes. -/
def unquoted (text : String) : List Char :=
  text.toList.filter (· ≠ backQuote)

/-- A text that is read as a part of a name as it stands. -/
structure IsPart (part : String) : Prop where
  /-- It is not empty. -/
  ne_empty : part ≠ ""
  /-- It has no dot. -/
  dot_not_mem : '.' ∉ part.toList
  /-- It has no back quote. -/
  backQuote_not_mem : backQuote ∉ part.toList
  /-- It does not begin with white space. -/
  first : ∀ c ∈ part.toList.head?, Text.isBlank c = false
  /-- It does not end with white space. -/
  last : ∀ c ∈ part.toList.getLast?, Text.isBlank c = false

/-- A name whose parts are read as they stand. -/
def WellFormed (name : QualifiedName) : Prop :=
  ∀ part ∈ name.parts, IsPart part

variable {text : String} {name : QualifiedName}

/-! ## What is read -/

/-- The segments of a text are cut at the dots and trimmed one by one. -/
theorem segments_eq (text : String) :
    segments text.toList = ((unquoted text).splitOn '.').map Text.trim := by
  unfold segments
  rw [Text.map_trim_segments_trim (by decide), Text.segments_eq_splitOn]
  rfl

/-- A text is read as a name when its trimmed segments are the parts of the name and none of these
is empty. -/
theorem parse?_eq_some_iff :
    parse? text = some name ↔
      ((unquoted text).splitOn '.').map Text.trim = name.parts.map String.toList ∧
        ∀ part ∈ name.parts, part ≠ "" := by
  obtain ⟨catalog, schema, table⟩ := name
  rw [← segments_eq]
  unfold parse?
  split
  next first second third hsegments =>
    have hparts : segments text.toList = [catalog.toList, schema.toList, table.toList] ↔
        catalog = String.ofList first ∧ schema = String.ofList second ∧
          table = String.ofList third := by
      rw [hsegments]
      simp only [List.cons.injEq, and_true, String.ext_iff, String.toList_ofList, eq_comm]
    have hempty : (first.isEmpty || second.isEmpty || third.isEmpty) = true ↔
        ¬(String.ofList first ≠ "" ∧ String.ofList second ≠ "" ∧ String.ofList third ≠ "") := by
      simp only [Bool.or_eq_true, List.isEmpty_iff, ne_eq, String.ofList_eq_empty_iff, not_and_or,
        not_not, or_assoc]
    simp only [parts, List.map_cons, List.map_nil, hparts, List.forall_mem_cons]
    split
    next h =>
      refine iff_of_false nofun ?_
      rintro ⟨⟨rfl, rfl, rfl⟩, hfirst, hsecond, hthird, -⟩
      exact hempty.mp h ⟨hfirst, hsecond, hthird⟩
    next h =>
      rw [hempty, not_not] at h
      rw [Option.some.injEq, mk.injEq]
      constructor
      · rintro ⟨rfl, rfl, rfl⟩
        exact ⟨⟨rfl, rfl, rfl⟩, h.1, h.2.1, h.2.2, List.forall_mem_nil _⟩
      · rintro ⟨⟨rfl, rfl, rfl⟩, -⟩
        exact ⟨rfl, rfl, rfl⟩
  next hother =>
    refine iff_of_false nofun ?_
    rintro ⟨h, -⟩
    exact hother _ _ _ h

/-- A text names an object when it has two dots and something besides white space between them,
before and behind. -/
theorem isSome_parse?_iff :
    (parse? text).isSome = true ↔
      (unquoted text).count '.' = 2 ∧
        ∀ segment ∈ (unquoted text).splitOn '.', ∃ c ∈ segment, Text.isBlank c = false := by
  have hlength := Text.length_segments '.' (unquoted text)
  rw [Text.segments_eq_splitOn] at hlength
  rw [Option.isSome_iff_exists]
  constructor
  · rintro ⟨name, h⟩
    obtain ⟨hparts, hne⟩ := parse?_eq_some_iff.mp h
    refine ⟨?_, fun segment hsegment => ?_⟩
    · have hthree := congrArg List.length hparts
      rw [List.length_map, hlength] at hthree
      exact Nat.succ.inj hthree
    · have hmem : Text.trim segment ∈ name.parts.map String.toList :=
        hparts ▸ List.mem_map_of_mem hsegment
      obtain ⟨part, hpart, htrim⟩ := List.mem_map.mp hmem
      rw [← Text.trim_ne_nil_iff, ← htrim]
      simpa using hne part hpart
  · rintro ⟨hcount, hsome⟩
    rw [hcount] at hlength
    obtain ⟨first, second, third, hthree⟩ := List.length_eq_three.mp hlength
    rw [hthree] at hsome
    refine ⟨⟨String.ofList (Text.trim first), String.ofList (Text.trim second),
      String.ofList (Text.trim third)⟩, parse?_eq_some_iff.mpr ⟨?_, ?_⟩⟩
    · simp [hthree, parts]
    · have hne : ∀ segment ∈ [first, second, third], String.ofList (Text.trim segment) ≠ "" := by
        intro segment hsegment
        rw [ne_eq, String.ofList_eq_empty_iff]
        exact Text.trim_ne_nil_iff.mpr (hsome segment hsegment)
      simpa [parts] using hne

/-- Only the characters besides back quotes matter. -/
theorem parse?_congr {other : String} (h : unquoted text = unquoted other) :
    parse? text = parse? other := by
  apply Option.ext
  intro name
  rw [parse?_eq_some_iff, parse?_eq_some_iff, h]

/-! ## What is written -/

/-- A name that is read is well formed. -/
theorem wellFormed_of_parse? (h : parse? text = some name) : name.WellFormed := by
  obtain ⟨hparts, hne⟩ := parse?_eq_some_iff.mp h
  intro part hpart
  have hmem : part.toList ∈ ((unquoted text).splitOn '.').map Text.trim :=
    hparts ▸ List.mem_map_of_mem hpart
  obtain ⟨segment, hsegment, htrim⟩ := List.mem_map.mp hmem
  rw [← Text.segments_eq_splitOn] at hsegment
  obtain ⟨hdot, hchars⟩ := Text.of_mem_segments hsegment
  have hpartMem : ∀ c ∈ part.toList, c ∈ segment := fun c hc =>
    Text.mem_of_mem_trim (htrim ▸ hc)
  have hends := Text.trim_eq_self_iff.mp (Text.trim_trim segment)
  rw [htrim] at hends
  refine ⟨hne part hpart, fun hmem => hdot (hpartMem _ hmem), fun hmem => ?_, hends.1, hends.2⟩
  have hquote := (List.mem_filter.mp (hchars _ (hpartMem _ hmem))).2
  simp at hquote

/-- Without its back quotes the quoted form of a name is the other one. -/
theorem unquoted_quoted (name : QualifiedName) : unquoted name.quoted = unquoted name.format := by
  have hpart : ∀ part, unquoted (backQuoted part) = unquoted part := by
    intro part
    simp [unquoted, backQuoted, backQuote]
  simp only [unquoted] at hpart
  simp only [unquoted, quoted, format, parts, List.map_cons, List.map_nil,
    String.intercalate_cons_cons, String.intercalate_singleton, String.toList_append,
    List.filter_append, hpart]

/-- A well-formed name is written without back quotes of its own, with dots between the parts. -/
theorem unquoted_format_of_wellFormed (h : name.WellFormed) :
    unquoted name.format = ['.'].intercalate (name.parts.map String.toList) := by
  have hpart : ∀ part ∈ name.parts, part.toList.filter (· ≠ backQuote) = part.toList := by
    intro part hpart
    refine List.filter_eq_self.mpr fun c hc => decide_eq_true ?_
    exact ne_of_mem_of_not_mem hc (h part hpart).backQuote_not_mem
  simp only [parts, List.forall_mem_cons] at hpart
  simp only [unquoted, format, parts, String.intercalate_cons_cons, String.intercalate_singleton,
    String.toList_append, List.filter_append, hpart]
  simp [backQuote]

/-- A well-formed name is read back from what is written for it. -/
theorem parse?_format_of_wellFormed (h : name.WellFormed) : parse? name.format = some name := by
  have hsplit : (unquoted name.format).splitOn '.' = name.parts.map String.toList := by
    rw [unquoted_format_of_wellFormed h]
    refine List.splitOn_intercalate '.' (fun cs hcs => ?_) (List.cons_ne_nil _ _)
    obtain ⟨part, hpart, rfl⟩ := List.mem_map.mp hcs
    exact (h part hpart).dot_not_mem
  rw [parse?_eq_some_iff, hsplit, List.map_map]
  refine ⟨List.map_congr_left fun part hpart => ?_, fun part hpart => (h part hpart).ne_empty⟩
  exact Text.trim_eq_self_iff.mpr ⟨(h part hpart).first, (h part hpart).last⟩

/-- **Reading three-part names.**

* A text is read if and only if, without its back quotes, it has exactly two dots and each of the
  three segments has a character that is no white space.  The parts that are read are the segments
  without the white space around them.
* They are not empty, have neither dots nor back quotes, and neither begin nor end with white space.
  Both written forms of what is read are read as the same name.
* For any three parts the two written forms are both refused or read as the same name.  This is the
  name of the three parts if and only if each of them is not empty, has neither dots nor back
  quotes, and neither begins nor ends with white space. -/
theorem parse?_format_and_quoted :
    (∀ text, (parse? text).isSome = true ↔
      (unquoted text).count '.' = 2 ∧
        ∀ segment ∈ (unquoted text).splitOn '.', ∃ c ∈ segment, Text.isBlank c = false) ∧
    (∀ text name, parse? text = some name →
      name.parts.map String.toList = ((unquoted text).splitOn '.').map Text.trim ∧
      name.WellFormed ∧ parse? name.format = some name ∧ parse? name.quoted = some name) ∧
    ∀ name : QualifiedName, parse? name.format = parse? name.quoted ∧
      (parse? name.format = some name ↔ name.WellFormed) := by
  have hforms : ∀ name : QualifiedName, parse? name.format = parse? name.quoted :=
    fun name => (parse?_congr (unquoted_quoted name)).symm
  refine ⟨fun text => isSome_parse?_iff, fun text name h => ?_, fun name => ⟨hforms name, ?_⟩⟩
  · have hname := wellFormed_of_parse? h
    have hformat := parse?_format_of_wellFormed hname
    exact ⟨(parse?_eq_some_iff.mp h).1.symm, hname, hformat, hforms name ▸ hformat⟩
  · exact ⟨wellFormed_of_parse?, parse?_format_of_wellFormed⟩

/-- A name with back quotes around, between and inside its parts, and with white space of several
kinds.  It is read, and what is read is written with all of that gone. -/
theorem parse?_of_spaced :
    let text := "\u00A0`main` .\t`sales\u2003`. or`ders `\n"
    let name : QualifiedName := ⟨"main", "sales", "orders"⟩
    parse? text = some name ∧ name.WellFormed ∧ parse? "main.sales.orders" = some name ∧
      parse? "`main`.`sales`.`orders`" = some name := by
  intro text name
  have h : parse? text = some name := by decide +kernel
  obtain ⟨-, hname, hformat, hquoted⟩ := parse?_format_and_quoted.2.1 text name h
  exact ⟨h, hname, hformat, hquoted⟩

end TableReconciler.QualifiedName
