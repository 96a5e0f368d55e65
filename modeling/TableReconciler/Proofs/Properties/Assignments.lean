import TableReconciler.Proofs.Comment.Literal
import TableReconciler.Proofs.Properties.Order

/-!
# What assignments tell of their pairs

Keys and values are written between quotes as they are, unlike comments, which are escaped.  So a
quote in one of them can end it early, and what follows can pass for another pair: two maps with
different pairs may be written alike (`assignments_of_hidden_pair`).  This is so for every map of
two pairs or more, because all that is written behind its first key can be the value of this key
(`unmistakable_iff`).

Two maps are told from each other as long as no key and no value holds the mark that is written
behind it, which is `'='` behind a key and `', '` behind a value.  `Apart` says so of one text, and
two maps of such texts that are written alike have the same pairs (`assignments_eq_iff`).  Those who
read the clause as literals end a key or a value at its first bare quote; they find exactly the
pairs of the map when every key and every value stays inside its quotes (`reads_assignments_iff`).
All of this is put together in `assignments_determine_pairs`.
-/

namespace TableReconciler

open Comment (readLiteral Enclosed)

/-! ## Marks -/

/-- A mark behind a text begins nowhere inside the text. -/
def Apart (mark : List Char) : List Char → Prop
  | [] => True
  | c :: rest => ¬mark <+: c :: (rest ++ mark) ∧ Apart mark rest

/-- Whether a text stands apart from a mark can be computed. -/
instance decidableApart (mark : List Char) : (text : List Char) → Decidable (Apart mark text)
  | [] => inferInstanceAs (Decidable True)
  | c :: rest =>
      haveI := decidableApart mark rest
      inferInstanceAs (Decidable (¬mark <+: c :: (rest ++ mark) ∧ Apart mark rest))

namespace Apart

variable {mark : List Char}

/-- A text without the first character of a mark stands apart from it. -/
theorem of_not_mem {c : Char} {more text : List Char} (h : c ∉ text) : Apart (c :: more) text := by
  induction text with
  | nil => exact trivial
  | cons first rest ih =>
      rw [List.mem_cons, not_or] at h
      exact ⟨fun hfront => h.1 (List.cons_prefix_cons.mp hfront).1, ih h.2⟩

/-- Where a mark begins a text that is longer than the mark, it begins the text as far as the mark
behind it. -/
theorem prefix_of_append_eq {c : Char} {rest a b : List Char}
    (h : mark ++ a = c :: (rest ++ mark ++ b)) : mark <+: c :: (rest ++ mark) := by
  have hlong : c :: (rest ++ mark) <+: mark ++ a := ⟨b, by rw [h]; simp⟩
  refine List.prefix_of_prefix_length_le (List.prefix_append mark a) hlong ?_
  rw [List.length_cons, List.length_append]
  omega

/-- Of two texts in front of the same mark, one that stands apart from it is not the longer one. -/
theorem prefix_of_eq {x y a b : List Char} (hx : Apart mark x)
    (h : x ++ mark ++ a = y ++ mark ++ b) : x <+: y := by
  induction x generalizing y with
  | nil => exact List.nil_prefix
  | cons c x ih =>
      cases y with
      | nil => exact absurd (prefix_of_append_eq h.symm) hx.1
      | cons d y =>
          obtain ⟨rfl, hrest⟩ := List.cons.inj h
          exact List.cons_prefix_cons.mpr ⟨rfl, ih hx.2 hrest⟩

/-- Two texts in front of the same mark are told from what follows. -/
theorem cancel {x y a b : List Char} (hx : Apart mark x) (hy : Apart mark y)
    (h : x ++ mark ++ a = y ++ mark ++ b) : x = y ∧ a = b := by
  have hxy : x = y :=
    (hx.prefix_of_eq h).eq_of_length_le (hy.prefix_of_eq h.symm).length_le
  subst hxy
  exact ⟨rfl, List.append_cancel_left h⟩

/-- A text that does not stand apart from a mark has an earlier one in it. -/
theorem exists_of_not {text : List Char} (h : ¬Apart mark text) :
    ∃ before after, before ≠ text ∧ text ++ mark = before ++ mark ++ after := by
  induction text with
  | nil => exact absurd trivial h
  | cons c rest ih =>
      by_cases hfront : mark <+: c :: (rest ++ mark)
      · obtain ⟨after, hafter⟩ := hfront
        exact ⟨[], after, (List.cons_ne_nil c rest).symm, hafter.symm⟩
      · obtain ⟨before, after, hne, heq⟩ := ih fun hrest => h ⟨hfront, hrest⟩
        exact ⟨c :: before, after, fun hcons => hne (List.cons.inj hcons).2, by simp [heq]⟩

end Apart

namespace PropertyMap

/-! ## Clauses as characters -/

/-- What is written between a key and its value. -/
def keyMark : List Char := ['\'', '=', '\'']

/-- What is written between a value and the next key. -/
def valueMark : List Char := ['\'', ',', ' ', '\'']

/-- The characters of a clause behind its first quote. -/
def body : List (String × String) → List Char
  | [] => []
  | [(key, value)] => key.toList ++ keyMark ++ (value.toList ++ ['\''])
  | (key, value) :: next :: rest =>
      key.toList ++ keyMark ++ (value.toList ++ valueMark ++ body (next :: rest))

/-- The assignments of pairs. -/
def assigned (pairs : List (String × String)) : String :=
  Ddl.commaSeparated (pairs.map fun pair => Ddl.assignment pair.1 pair.2)

/-- The assignments of at least one pair begin with a quote. -/
theorem toList_assigned (pair : String × String) (rest : List (String × String)) :
    (assigned (pair :: rest)).toList = '\'' :: body (pair :: rest) := by
  unfold assigned
  induction rest generalizing pair with
  | nil => simp [Ddl.commaSeparated, Ddl.assignment, body, keyMark]
  | cons next rest ih =>
      have hnext := ih next
      unfold Ddl.commaSeparated at hnext ⊢
      rw [List.map_cons] at hnext
      rw [List.map_cons, List.map_cons, String.intercalate_cons_cons, String.toList_append, hnext]
      simp [Ddl.assignment, body, keyMark, valueMark]

/-- Only where there are no pairs nothing is written. -/
theorem assigned_eq_empty_iff {pairs : List (String × String)} :
    assigned pairs = "" ↔ pairs = [] := by
  cases pairs with
  | nil => exact iff_of_true rfl rfl
  | cons pair rest =>
      refine iff_of_false (fun h => ?_) (List.cons_ne_nil _ _)
      have hchars := congrArg String.toList h
      rw [toList_assigned] at hchars
      exact List.cons_ne_nil _ _ hchars

/-- The assignments of a map are those of its sorted pairs. -/
theorem assignments_eq_assigned (m : PropertyMap) : Ddl.assignments m = assigned m.sorted :=
  rfl

/-- Maps have the same values when they have the same sorted pairs. -/
theorem find?_eq_of_sorted_eq {m n : PropertyMap} (h : m.sorted = n.sorted) (key : String) :
    m.find? key = n.find? key :=
  entries_perm_iff.mp (m.sorted_perm.symm.trans (h ▸ n.sorted_perm)) key

/-! ## Telling the pairs by their marks -/

/-- No key and no value holds the mark that is written behind it. -/
def Separable (pairs : List (String × String)) : Prop :=
  ∀ pair ∈ pairs, Apart keyMark pair.1.toList ∧ Apart valueMark pair.2.toList

/-- Whether pairs are separable can be computed. -/
instance decidableSeparable (pairs : List (String × String)) : Decidable (Separable pairs) :=
  inferInstanceAs (Decidable (∀ pair ∈ pairs, _ ∧ _))

/-- Pairs of texts without single quotes are separable. -/
theorem separable_of_unquoted {pairs : List (String × String)}
    (h : ∀ pair ∈ pairs, '\'' ∉ pair.1.toList ∧ '\'' ∉ pair.2.toList) : Separable pairs :=
  fun pair hpair => ⟨.of_not_mem (h pair hpair).1, .of_not_mem (h pair hpair).2⟩

/-- A value with its closing quote is not continued by another pair. -/
theorem not_continued {value other later : List Char} (hvalue : Apart valueMark value)
    (hother : Apart valueMark other) : value ++ ['\''] ≠ other ++ valueMark ++ later := by
  intro h
  have hlonger : value ++ valueMark ++ [] = other ++ valueMark ++ (later ++ [',', ' ', '\'']) := by
    have happend := congrArg (· ++ [',', ' ', '\'']) h
    simpa [valueMark] using happend
  have hnil := (Apart.cancel hvalue hother hlonger).2
  exact List.append_ne_nil_of_right_ne_nil later (List.cons_ne_nil _ _) hnil.symm

/-- Pairs that stand apart from their marks are told by what is written. -/
theorem eq_of_body_eq {pairs others : List (String × String)} (hpairs : pairs ≠ [])
    (hothers : others ≠ []) (hseparable : Separable pairs) (hseparable' : Separable others)
    (h : body pairs = body others) : pairs = others := by
  induction pairs generalizing others with
  | nil => exact absurd rfl hpairs
  | cons pair rest ih =>
      obtain ⟨other, rest', rfl⟩ := List.exists_cons_of_ne_nil hothers
      obtain ⟨key, value⟩ := pair
      obtain ⟨key', value'⟩ := other
      obtain ⟨⟨hkey, hvalue⟩, hrest⟩ := List.forall_mem_cons.mp hseparable
      obtain ⟨⟨hkey', hvalue'⟩, hrest'⟩ := List.forall_mem_cons.mp hseparable'
      -- either list of pairs ends here or goes on, and only two of a kind are written alike
      cases rest with
      | nil =>
          cases rest' with
          | nil =>
              obtain ⟨hkeys, hvalues⟩ := Apart.cancel hkey hkey' h
              have hvalues := List.append_cancel_right hvalues
              rw [Prod.ext (String.toList_inj.mp hkeys) (String.toList_inj.mp hvalues)]
          | cons next' rest' =>
              exact absurd (Apart.cancel hkey hkey' h).2 (not_continued hvalue hvalue')
      | cons next rest =>
          cases rest' with
          | nil => exact absurd (Apart.cancel hkey hkey' h).2.symm (not_continued hvalue' hvalue)
          | cons next' rest' =>
              obtain ⟨hkeys, hlater⟩ := Apart.cancel hkey hkey' h
              obtain ⟨hvalues, hbody⟩ := Apart.cancel hvalue hvalue' hlater
              rw [Prod.ext (String.toList_inj.mp hkeys) (String.toList_inj.mp hvalues),
                ih (List.cons_ne_nil _ _) (List.cons_ne_nil _ _) hrest hrest' hbody]

/-- The same holds of the text of assignments, where no pairs are written as nothing. -/
theorem eq_of_assigned_eq {pairs others : List (String × String)} (hseparable : Separable pairs)
    (hseparable' : Separable others) (h : assigned pairs = assigned others) : pairs = others := by
  cases pairs with
  | nil => exact (assigned_eq_empty_iff.mp h.symm).symm
  | cons pair rest =>
      cases others with
      | nil => exact assigned_eq_empty_iff.mp h
      | cons other rest' =>
          have hchars := congrArg String.toList h
          rw [toList_assigned, toList_assigned] at hchars
          exact eq_of_body_eq (List.cons_ne_nil _ _) (List.cons_ne_nil _ _) hseparable hseparable'
            (List.cons.inj hchars).2

/-- Maps have the same assignments exactly when they have the same values. -/
theorem assignments_eq_iff {m n : PropertyMap} (hm : Separable m.entries)
    (hn : Separable n.entries) :
    Ddl.assignments m = Ddl.assignments n ↔ ∀ key, m.find? key = n.find? key := by
  refine ⟨fun h => find?_eq_of_sorted_eq ?_, assignments_eq⟩
  exact eq_of_assigned_eq (fun pair hpair => hm pair (m.sorted_perm.mem_iff.mp hpair))
    (fun pair hpair => hn pair (n.sorted_perm.mem_iff.mp hpair)) h

/-! ## Maps that no other map is written like -/

/-- In what is written for a pair the mark behind keys stands only between its key and its value. -/
def HasOneMark (pair : String × String) : Prop :=
  Apart keyMark pair.1.toList ∧ ¬keyMark <:+: '\'' :: pair.2.toList

/-- Where the mark stands only once, the texts around it are told. -/
theorem eq_of_hasOneMark {pair : String × String} (h : HasOneMark pair) {x a : List Char}
    (heq : x ++ keyMark ++ a = pair.1.toList ++ keyMark ++ pair.2.toList) :
    x = pair.1.toList ∧ a = pair.2.toList := by
  obtain ⟨more, rfl⟩ := h.1.prefix_of_eq heq.symm
  simp only [List.append_assoc, List.append_cancel_left_eq] at heq
  -- a mark further behind would share at most its last quote with the first one
  cases more with
  | nil => exact ⟨by simp, by simpa [keyMark] using heq⟩
  | cons c more =>
      cases more with
      | nil => simp [keyMark] at heq
      | cons d more =>
          refine absurd ⟨more, a, ?_⟩ h.2
          simp only [keyMark, List.cons_append, List.nil_append, List.cons.injEq] at heq ⊢
          simpa using heq.2.2

/-- What is written for pairs is also written for one pair, whose key is the first one.  It has
further marks in its value where there are further pairs. -/
theorem exists_body_eq (pair : String × String) (rest : List (String × String)) :
    ∃ inner, body (pair :: rest) = pair.1.toList ++ keyMark ++ (inner ++ ['\'']) ∧
      (rest = [] ∧ inner = pair.2.toList ∨ keyMark <:+: inner) := by
  induction rest generalizing pair with
  | nil => exact ⟨pair.2.toList, rfl, .inl ⟨rfl, rfl⟩⟩
  | cons next rest ih =>
      obtain ⟨inner, hinner, -⟩ := ih next
      refine ⟨pair.2.toList ++ valueMark ++ next.1.toList ++ keyMark ++ inner, ?_, .inr ?_⟩
      · rw [body, hinner]
        simp only [List.append_assoc]
      · exact ⟨pair.2.toList ++ valueMark ++ next.1.toList, inner, rfl⟩

/-- One pair whose texts make up what is written for a map is written like the map. -/
theorem assignments_single {m : PropertyMap} {pair : String × String}
    {rest : List (String × String)} (hm : m.sorted = pair :: rest) {x a : List Char}
    (h : body (pair :: rest) = x ++ keyMark ++ (a ++ ['\''])) :
    Ddl.assignments (.ofList [(String.ofList x, String.ofList a)]) = Ddl.assignments m := by
  have hsorted : (PropertyMap.ofList [(String.ofList x, String.ofList a)]).sorted =
      [(String.ofList x, String.ofList a)] := List.mergeSort_singleton _
  rw [← String.toList_inj, assignments_eq_assigned, assignments_eq_assigned, hsorted, hm,
    toList_assigned, toList_assigned, h]
  simp [body]

/-- A map of one pair with one mark is the only one that is written like it. -/
theorem sorted_eq_of_hasOneMark {n : PropertyMap} {pair : String × String}
    (hmark : HasOneMark pair) (h : Ddl.assignments n = assigned [pair]) : n.sorted = [pair] := by
  rw [assignments_eq_assigned] at h
  cases hn : n.sorted with
  | nil =>
      rw [hn] at h
      exact (assigned_eq_empty_iff.mp h.symm).symm
  | cons other rest =>
      have hchars := congrArg String.toList h
      rw [hn, toList_assigned, toList_assigned, List.cons.injEq] at hchars
      obtain ⟨inner, hinner, hrest⟩ := exists_body_eq other rest
      have hparts : other.1.toList ++ keyMark ++ inner =
          pair.1.toList ++ keyMark ++ pair.2.toList := by
        have hbody := hinner.symm.trans hchars.2
        simpa only [body, ← List.append_assoc, List.append_cancel_right_eq] using hbody
      obtain ⟨hkey, hvalue⟩ := eq_of_hasOneMark hmark hparts
      rcases hrest with ⟨rfl, hlast⟩ | hmore
      · have hvalue' := hlast.symm.trans hvalue
        rw [Prod.ext (String.toList_inj.mp hkey) (String.toList_inj.mp hvalue')]
      · rw [hvalue] at hmore
        exact absurd (List.infix_cons hmore) hmark.2

/-- Where a map is the only one that is written like it, it has no second pair and no second
mark. -/
theorem hasOneMark_of_unmistakable {m : PropertyMap} {pair : String × String}
    {rest : List (String × String)} (hm : m.sorted = pair :: rest)
    (h : ∀ n, Ddl.assignments n = Ddl.assignments m → ∀ key, n.find? key = m.find? key) :
    m.entries = [pair] ∧ HasOneMark pair := by
  -- every way to split what is written into a key and a value gives the pair of the map
  have hsplit : ∀ x a, body (pair :: rest) = x ++ keyMark ++ (a ++ ['\'']) →
      m.entries = [(String.ofList x, String.ofList a)] := by
    intro x a hbody
    have hsame := h _ (assignments_single hm hbody)
    exact List.perm_singleton.mp (entries_perm_iff.mpr fun key => (hsame key).symm)
  have hentries : m.entries = [pair] := by
    obtain ⟨inner, hinner, -⟩ := exists_body_eq pair rest
    have hmem : pair ∈ m.entries := m.sorted_perm.mem_iff.mp (hm ▸ List.mem_cons_self)
    have hone := hsplit _ _ hinner
    rw [hone, List.mem_singleton] at hmem
    rw [hone, ← hmem]
  have hsorted : pair :: rest = [pair] :=
    hm.symm.trans (List.perm_singleton.mp (hentries ▸ m.sorted_perm))
  have hkey : ∀ x a, pair.1.toList ++ keyMark ++ pair.2.toList = x ++ keyMark ++ a →
      x = pair.1.toList := by
    intro x a hparts
    have hbody : body (pair :: rest) = x ++ keyMark ++ (a ++ ['\'']) := by
      rw [hsorted, body, ← List.append_assoc, hparts, List.append_assoc]
    have hone := hentries.symm.trans (hsplit x a hbody)
    rw [List.singleton_inj] at hone
    rw [hone, String.toList_ofList]
  refine ⟨hentries, Decidable.byContradiction fun hapart => ?_, fun hmore => ?_⟩
  · obtain ⟨before, after, hne, heq⟩ := Apart.exists_of_not hapart
    exact hne (hkey before (after ++ pair.2.toList) (by rw [heq, List.append_assoc]))
  · obtain ⟨before, after, heq⟩ := hmore
    have hparts : pair.1.toList ++ keyMark ++ pair.2.toList =
        pair.1.toList ++ ['\'', '='] ++ before ++ keyMark ++ after := by
      simpa [keyMark] using heq.symm
    have hlength := congrArg List.length (hkey _ _ hparts)
    simp at hlength

/-- No other map is written like a map exactly when it has one pair at most, and the mark behind
keys stands only once in what is written. -/
theorem unmistakable_iff {m : PropertyMap} :
    (∀ n, Ddl.assignments n = Ddl.assignments m → ∀ key, n.find? key = m.find? key) ↔
      m.entries.length ≤ 1 ∧ ∀ pair ∈ m.entries, HasOneMark pair := by
  cases hm : m.sorted with
  | nil =>
      have hentries : m.entries = [] := List.perm_nil.mp (hm ▸ m.sorted_perm.symm)
      refine iff_of_true (fun n h => find?_eq_of_sorted_eq ?_) (by simp [hentries])
      rw [assignments_eq_assigned, assignments_eq_assigned, hm] at h
      rw [hm, assigned_eq_empty_iff.mp h]
  | cons pair rest =>
      constructor
      · intro h
        obtain ⟨hentries, hmark⟩ := hasOneMark_of_unmistakable hm h
        rw [hentries, List.forall_mem_singleton]
        exact ⟨Nat.le_refl 1, hmark⟩
      · rintro ⟨hlength, hmark⟩ n h
        have hsorted : m.sorted = [pair] := by
          rw [← m.sorted_perm.length_eq, hm, List.length_cons] at hlength
          have hrest : rest = [] := List.eq_nil_of_length_eq_zero (by omega)
          rw [hm, hrest]
        have hpair : pair ∈ m.entries := m.sorted_perm.mem_iff.mp (hm ▸ List.mem_cons_self)
        rw [assignments_eq_assigned m, hsorted] at h
        exact find?_eq_of_sorted_eq ((sorted_eq_of_hasOneMark (hmark pair hpair) h).trans
          hsorted.symm)

/-- The user's part of a map of such pairs. -/
theorem Separable.unmanaged {m : PropertyMap} (h : Separable m.entries) (managed : ManagedKeys) :
    Separable (managed.unmanaged m).entries :=
  fun pair hpair => h pair (List.mem_filter.mp hpair).1

/-! ## Clauses of statements -/

/-- A statement whose clauses are all the same but for some in the middle tells these. -/
theorem eq_of_intercalate_eq {separator head : String} {before after some other : List String}
    (h : separator.intercalate (head :: (before ++ some ++ after)) =
      separator.intercalate (head :: (before ++ other ++ after))) :
    String.join (some.map (separator ++ ·)) = String.join (other.map (separator ++ ·)) := by
  have hjoin : ∀ (first : String) (rest : List String), separator.intercalate (first :: rest) =
      first ++ String.join (rest.map (separator ++ ·)) := by
    intro first rest
    induction rest generalizing first with
    | nil => simp
    | cons next rest ih =>
        rw [String.intercalate_cons_cons, ih, List.map_cons, String.join_cons]
        simp only [String.append_assoc]
  simpa only [hjoin, List.map_append, String.join_append, String.append_right_inj,
    String.append_left_inj] using h

/-- A clause of a statement with pairs behind what opens it, which is left out where there are
none. -/
def clause (opening : String) (m : PropertyMap) : List String :=
  TableSpec.clauseUnless m.isEmpty (opening ++ Ddl.assignments m ++ ")")

/-- Statements tell the values by such a clause. -/
theorem find?_eq_of_clause_eq {opening separator : String} {m n : PropertyMap}
    (hseparator : separator ≠ "") (hm : Separable m.entries) (hn : Separable n.entries)
    (h : String.join ((clause opening m).map (separator ++ ·)) =
      String.join ((clause opening n).map (separator ++ ·)))
    (key : String) : m.find? key = n.find? key := by
  refine (assignments_eq_iff hm hn).mp ?_ key
  have hnil : ∀ m : PropertyMap, m.isEmpty = true → Ddl.assignments m = "" := by
    intro m hempty
    have hsorted := m.sorted_perm
    rw [List.isEmpty_iff.mp hempty] at hsorted
    rw [assignments_eq_assigned, assigned_eq_empty_iff, hsorted.eq_nil]
  unfold clause TableSpec.clauseUnless at h
  cases hm' : m.isEmpty with
  | true =>
      cases hn' : n.isEmpty with
      | true => rw [hnil m hm', hnil n hn']
      | false => simp [hm', hn', hseparator] at h
  | false =>
      cases hn' : n.isEmpty with
      | true => simp [hm', hn', hseparator] at h
      | false => simpa [hm', hn'] using h

/-- A statement that creates an object has one clause for the properties and one for the options,
and the other clauses do not depend on them. -/
theorem createTail_eq (managed : ManagedKeys) (d : TableSpec) :
    ∃ before after : List String, ∀ properties options : PropertyMap,
      ({ d with properties, options } : TableSpec).createTail managed =
        before ++ clause "TBLPROPERTIES (" (managed.unmanaged properties) ++
          clause "OPTIONS (" (managed.unmanaged options) ++ after :=
  ⟨TableSpec.clauseUnless (d.isView || d.format.isEmpty) ("USING " ++ d.format) ++
      TableSpec.clauseUnless d.partitions.isEmpty
        ("PARTITIONED BY (" ++ Ddl.commaSeparated d.partitions ++ ")") ++
      TableSpec.clauseUnless d.clusterKeys.isEmpty
        ("CLUSTER BY (" ++ Ddl.commaSeparated d.clusterKeys ++ ")") ++
      TableSpec.clauseUnless d.comment.isEmpty ("COMMENT " ++ Comment.literal d.comment),
    if d.isView then ["AS " ++ d.viewDefinition]
    else TableSpec.clauseUnless d.location.isEmpty (Ddl.location d.location d.credential),
    fun _ _ => rfl⟩

/-- Creating tells the values that the user controls in a clause, where two descriptions differ in
nothing else. -/
theorem find?_eq_of_createStatement_eq {managed : ManagedKeys} {d e : TableSpec} {type : TableType}
    (h : d.createStatement managed = e.createStatement managed)
    (hd : d.type = .supported type) (he : e.type = .supported type)
    (hhead : d.createHead type.kind = e.createHead type.kind)
    {opening : String} {before after : List String} {m n : PropertyMap}
    (hm : Separable m.entries) (hn : Separable n.entries)
    (htail : d.createTail managed = before ++ clause opening (managed.unmanaged m) ++ after)
    (htail' : e.createTail managed = before ++ clause opening (managed.unmanaged n) ++ after)
    {key : String} (hkey : managed.manages key = false) : m.find? key = n.find? key := by
  rw [TableSpec.createStatement_of_supported managed hd,
    TableSpec.createStatement_of_supported managed he] at h
  have htext := Except.ok.inj h
  rw [TableSpec.createText, TableSpec.createText, String.append_left_inj, hhead, htail,
    htail'] at htext
  have hsame := find?_eq_of_clause_eq (by decide) (hm.unmanaged managed) (hn.unmanaged managed)
    (eq_of_intercalate_eq htext) key
  simpa only [ManagedKeys.find?_unmanaged, hkey, Bool.false_eq_true, if_false] using hsame

/-! ## Reading the pairs as literals -/

/-- One pair, which is two literals with an equals sign between them, and what follows it. -/
def readPair? : List Char → Option ((String × String) × List Char)
  | '\'' :: text =>
      match readLiteral false text with
      | some (key, '=' :: '\'' :: later) =>
          (readLiteral false later).map fun (value, rest) =>
            ((String.ofList key, String.ofList value), rest)
      | _ => none
  | _ => none

/-- A clause is read as pairs, with a comma and a space between them. -/
inductive Reads : List Char → List (String × String) → Prop
  /-- Nothing is read as no pairs. -/
  | nil : Reads [] []
  /-- The clause ends behind the last pair. -/
  | last {text : List Char} {pair : String × String} (h : readPair? text = some (pair, [])) :
      Reads text [pair]
  /-- Another pair follows. -/
  | cons {text later : List Char} {pair next : String × String} {rest : List (String × String)}
      (h : readPair? text = some (pair, ',' :: ' ' :: later))
      (hlater : Reads later (next :: rest)) : Reads text (pair :: next :: rest)

/-- The key and the value of a pair stay inside their quotes. -/
def InQuotes (pair : String × String) : Prop :=
  Enclosed false pair.1.toList ∧ Enclosed false pair.2.toList

/-- Whether a pair stays inside its quotes can be computed. -/
instance decidableInQuotes (pair : String × String) : Decidable (InQuotes pair) :=
  inferInstanceAs (Decidable (_ ∧ _))

/-- A pair is read exactly when it stands in the text and stays inside its quotes. -/
theorem readPair?_eq_some_iff {text rest : List Char} {pair : String × String} :
    readPair? text = some (pair, rest) ↔
      text = '\'' :: (pair.1.toList ++ keyMark ++ (pair.2.toList ++ '\'' :: rest)) ∧
        InQuotes pair := by
  obtain ⟨key, value⟩ := pair
  constructor
  · intro h
    unfold readPair? at h
    split at h
    next text =>
      split at h
      next keyChars later hkey =>
        obtain ⟨⟨valueChars, rest'⟩, hvalue, heq⟩ := Option.map_eq_some_iff.mp h
        cases heq
        obtain ⟨rfl, hkeyIn⟩ := Comment.readLiteral_eq_some_iff.mp hkey
        obtain ⟨rfl, hvalueIn⟩ := Comment.readLiteral_eq_some_iff.mp hvalue
        simp only [InQuotes, String.toList_ofList]
        exact ⟨by simp [keyMark], hkeyIn, hvalueIn⟩
      next => cases h
    next => cases h
  · rintro ⟨rfl, hkeyIn, hvalueIn⟩
    have hkey : readLiteral false (key.toList ++ keyMark ++ (value.toList ++ '\'' :: rest)) =
        some (key.toList, '=' :: '\'' :: (value.toList ++ '\'' :: rest)) :=
      Comment.readLiteral_eq_some_iff.mpr ⟨by simp [keyMark], hkeyIn⟩
    have hvalue : readLiteral false (value.toList ++ '\'' :: rest) = some (value.toList, rest) :=
      Comment.readLiteral_eq_some_iff.mpr ⟨rfl, hvalueIn⟩
    simp only [readPair?, hkey, hvalue, Option.map_some, String.ofList_toList]

/-- A clause is read in one way at most. -/
theorem Reads.unique {text : List Char} {pairs pairs' : List (String × String)}
    (h : Reads text pairs) (h' : Reads text pairs') : pairs = pairs' := by
  induction h generalizing pairs' with
  | nil =>
      cases h' with
      | nil => rfl
      | last h' => cases h'
      | cons h' => cases h'
  | last h =>
      cases h' with
      | nil => cases h
      | last h' => cases h.symm.trans h'; rfl
      | cons h' => cases h.symm.trans h'
  | cons h hlater ih =>
      cases h' with
      | nil => cases h
      | last h' => cases h.symm.trans h'
      | cons h' hlater' =>
          cases h.symm.trans h'
          rw [ih hlater']

/-- What is written for pairs is read as these pairs exactly when all of them stay inside their
quotes. -/
theorem reads_body_iff (pair : String × String) (rest : List (String × String)) :
    Reads ('\'' :: body (pair :: rest)) (pair :: rest) ↔ ∀ each ∈ pair :: rest, InQuotes each := by
  induction rest generalizing pair with
  | nil =>
      rw [List.forall_mem_singleton]
      constructor
      · intro h
        cases h with
        | last h => exact (readPair?_eq_some_iff.mp h).2
      · intro h
        exact .last (readPair?_eq_some_iff.mpr ⟨rfl, h⟩)
  | cons next rest ih =>
      have htext : '\'' :: body (pair :: next :: rest) =
          '\'' :: (pair.1.toList ++ keyMark ++
            (pair.2.toList ++ '\'' :: ',' :: ' ' :: '\'' :: body (next :: rest))) := by
        simp [body, valueMark]
      rw [List.forall_mem_cons, ← ih next, htext]
      constructor
      · intro h
        cases h with
        | cons h hlater =>
            obtain ⟨heq, henclosed⟩ := readPair?_eq_some_iff.mp h
            simp only [List.cons.injEq, true_and, List.append_cancel_left_eq] at heq
            exact ⟨henclosed, heq ▸ hlater⟩
      · rintro ⟨henclosed, hlater⟩
        exact .cons (readPair?_eq_some_iff.mpr ⟨rfl, henclosed⟩) hlater

/-- The assignments of a map are read as its pairs, and as nothing else, exactly when all of them
stay inside their quotes. -/
theorem reads_assignments_iff {m : PropertyMap} :
    (∀ pairs, Reads (Ddl.assignments m).toList pairs ↔ pairs = m.sorted) ↔
      ∀ pair ∈ m.entries, InQuotes pair := by
  have hreads : Reads (Ddl.assignments m).toList m.sorted ↔ ∀ pair ∈ m.sorted, InQuotes pair := by
    rw [assignments_eq_assigned]
    cases m.sorted with
    | nil => exact iff_of_true .nil (List.forall_mem_nil _)
    | cons pair rest => rw [toList_assigned, reads_body_iff]
  have hmem : (∀ pair ∈ m.entries, InQuotes pair) ↔ ∀ pair ∈ m.sorted, InQuotes pair :=
    forall_congr' fun pair => imp_congr_left m.sorted_perm.mem_iff.symm
  rw [hmem, ← hreads]
  constructor
  · intro h
    exact (h m.sorted).mpr rfl
  · intro h pairs
    exact ⟨fun hpairs => hpairs.unique h, fun hpairs => hpairs ▸ h⟩

/-! ## What a clause tells -/

/-- **What assignments tell of their pairs**, be it alone, in a statement that writes properties, or
in the clause for properties or options of a statement that creates an object.

* Let in two maps no key hold the mark that is written behind keys, and no value the one that is
  written behind values, nor a beginning that the mark behind it completes.  Then both maps have the
  same assignments exactly when they have the same values.  Where the statements are the same the
  maps have the same values at all keys that are written, which are those that the user controls
  when an object is created.
* Keys and values without single quotes are such.
* No other map at all has the same assignments as a map exactly when the map has one pair at most,
  and the mark behind keys stands only once in what is written for it.
* What is written for any map is read, as literals whose quotes may be escaped by backslashes, as
  the pairs of this map and as no others, exactly when every key and every value of the map stays
  inside its quotes. -/
theorem assignments_determine_pairs (m n : PropertyMap) :
    (Separable m.entries → Separable n.entries →
      (Ddl.assignments m = Ddl.assignments n ↔ ∀ key, m.find? key = n.find? key) ∧
      (∀ kind name, (Statement.setProperties kind name m : Statement).render =
          (Statement.setProperties kind name n : Statement).render →
        ∀ key, m.find? key = n.find? key) ∧
      ∀ managed {d : TableSpec} {type : TableType}, d.type = .supported type →
        (({ d with properties := m } : TableSpec).createStatement managed =
            ({ d with properties := n } : TableSpec).createStatement managed →
          ∀ key, managed.manages key = false → m.find? key = n.find? key) ∧
        (({ d with options := m } : TableSpec).createStatement managed =
            ({ d with options := n } : TableSpec).createStatement managed →
          ∀ key, managed.manages key = false → m.find? key = n.find? key)) ∧
    ((∀ pair ∈ m.entries, '\'' ∉ pair.1.toList ∧ '\'' ∉ pair.2.toList) → Separable m.entries) ∧
    ((∀ other, Ddl.assignments other = Ddl.assignments m →
        ∀ key, other.find? key = m.find? key) ↔
      m.entries.length ≤ 1 ∧ ∀ pair ∈ m.entries, HasOneMark pair) ∧
    ((∀ pairs, Reads (Ddl.assignments m).toList pairs ↔ pairs = m.sorted) ↔
      ∀ pair ∈ m.entries, InQuotes pair) := by
  refine ⟨fun hm hn => ⟨assignments_eq_iff hm hn, fun kind name h => ?_,
    fun managed d type htype => ?_⟩, separable_of_unquoted, unmistakable_iff,
    reads_assignments_iff⟩
  · refine (assignments_eq_iff hm hn).mp ?_
    simpa only [Statement.render, Ddl.setProperties, String.append_right_inj,
      String.append_left_inj] using h
  · obtain ⟨before, after, htail⟩ := createTail_eq managed d
    have htail' : ∀ properties, ({ d with properties } : TableSpec).createTail managed =
        before ++ clause "TBLPROPERTIES (" (managed.unmanaged properties) ++
          (clause "OPTIONS (" (managed.unmanaged d.options) ++ after) :=
      fun properties => (htail properties d.options).trans (List.append_assoc _ _ _)
    refine ⟨fun h _ hkey => ?_, fun h _ hkey => ?_⟩
    · exact find?_eq_of_createStatement_eq h htype htype rfl hm hn (htail' m) (htail' n) hkey
    · exact find?_eq_of_createStatement_eq h htype htype rfl hm hn (htail d.properties m)
        (htail d.properties n) hkey

/-- Two maps with a quote in one of their values, and with commas and equals signs in another: the
statements that write them as properties differ, and so do those that create an object with them as
options.  But there is another map that is written like the first one, as it has two pairs.  And
what is written for it is not read as its pairs, because the quote ends its literal. -/
theorem assignments_of_apostrophe :
    let m : PropertyMap := .ofList [("title", "the cook's table"), ("tags", "a=1, b=2")]
    let n : PropertyMap := .ofList [("tags", "a=1, b=2"), ("title", "the cooks' table")]
    let d : TableSpec := .ofColumns []
    Separable m.entries ∧ Separable n.entries ∧
      (∀ kind name, (Statement.setProperties kind name m : Statement).render ≠
        (Statement.setProperties kind name n : Statement).render) ∧
      ({ d with options := m } : TableSpec).createStatement .default ≠
        ({ d with options := n } : TableSpec).createStatement .default ∧
      (∃ other, Ddl.assignments other = Ddl.assignments m ∧ ∃ key, other.find? key ≠ m.find? key) ∧
      ¬∀ pairs, Reads (Ddl.assignments m).toList pairs ↔ pairs = m.sorted := by
  intro m n d
  have hm : Separable m.entries := by decide
  have hn : Separable n.entries := by decide
  have hdiffer : m.find? "title" ≠ n.find? "title" := by decide
  obtain ⟨hwritten, -, honly, hread⟩ := assignments_determine_pairs m n
  obtain ⟨-, hset, hcreate⟩ := hwritten hm hn
  refine ⟨hm, hn, fun kind name h => hdiffer (hset kind name h "title"), fun h => ?_, ?_,
    fun h => ?_⟩
  · exact hdiffer ((hcreate .default (d := d) rfl).2 h "title" (by decide))
  · have htwo := mt honly.mp fun hone => absurd hone.1 (by decide)
    push Not at htwo
    exact htwo
  · exact absurd (hread.mp h) (by decide)

/-- A map with a value that reads like the end of one pair and another pair: it is written like the
map with both pairs, in all statements with its pairs. -/
theorem assignments_of_hidden_pair :
    let hidden : PropertyMap := .ofList [("a", "1', 'b'='2")]
    let shown : PropertyMap := .ofList [("a", "1"), ("b", "2")]
    let d : TableSpec := .ofColumns []
    hidden.find? "b" = none ∧ shown.find? "b" = some "2" ∧
      Ddl.assignments hidden = Ddl.assignments shown ∧
      (∀ kind name, (Statement.setProperties kind name hidden : Statement).render =
        (Statement.setProperties kind name shown : Statement).render) ∧
      ({ d with properties := hidden } : TableSpec).createStatement .default =
        ({ d with properties := shown } : TableSpec).createStatement .default := by
  intro hidden shown d
  have hsortedHidden : hidden.sorted = [("a", "1', 'b'='2")] :=
    List.mergeSort_of_pairwise (by decide)
  have hsortedShown : shown.sorted = [("a", "1"), ("b", "2")] :=
    List.mergeSort_of_pairwise (by decide)
  have hsame : Ddl.assignments hidden = Ddl.assignments shown := by
    rw [Ddl.assignments, Ddl.assignments, hsortedHidden, hsortedShown]
    decide +kernel
  refine ⟨by decide, by decide, hsame, fun kind name => ?_, ?_⟩
  · simp only [Statement.render, Ddl.setProperties, hsame]
  · have hhidden : ManagedKeys.default.unmanaged hidden = hidden := by decide
    have hshown : ManagedKeys.default.unmanaged shown = shown := by decide
    have hempty : hidden.isEmpty = shown.isEmpty := by decide
    have htail : ({ d with properties := hidden } : TableSpec).createTail .default =
        ({ d with properties := shown } : TableSpec).createTail .default := by
      simp only [TableSpec.createTail, hhidden, hshown, hempty, hsame]
      rfl
    rw [TableSpec.createStatement_of_supported _ rfl, TableSpec.createStatement_of_supported _ rfl,
      TableSpec.createText, htail]
    rfl

end PropertyMap

end TableReconciler
