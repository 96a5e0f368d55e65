import Mathlib.Data.List.Nodup
import Mathlib.Data.List.Perm.Basic
import TableReconciler.Proofs.Columns.Effect
import TableReconciler.Proofs.Plan.Wording

/-!
# Columns that come and go

What the plan for columns does when the desired and the previous description differ in the number
of columns: `run_columns_of_length_ne`.  The plan never fails, it leaves exactly the desired names,
it never touches a column that stays, and the order it leaves is the desired one if and only if the
columns that stay are in the desired order already.

The run is followed through the desired columns one by one.  `Stage` says how the columns stand
once some of the desired columns are settled: the settled ones are there, of the others only those
that were there before.  Each column that is new is put behind its predecessor, which is settled,
and so is there whether it was there before or has just been added.
-/

namespace TableReconciler

namespace ColumnChange

/-! ## The changes -/

/-- The names that are dropped are those that are not desired. -/
theorem removedNames_eq (desired previous : List Column) :
    removedNames desired previous =
      (previous.map Column.name).filter fun name => name ∉ desired.map Column.name := by
  unfold removedNames
  refine List.filter_congr fun name _ => ?_
  rw [Bool.eq_iff_iff]
  simp

/-- A desired column that was there before is not added. -/
theorem additions_cons_of_mem {kept : List String} {column : Column} (h : column.name ∈ kept)
    (after : Option String) (rest : List Column) :
    additions kept after (column :: rest) = additions kept (some column.name) rest := by
  simp [additions, h]

/-- A desired column that is new is added behind its predecessor. -/
theorem additions_cons_of_not_mem {kept : List String} {column : Column} (h : column.name ∉ kept)
    (after : Option String) (rest : List Column) :
    additions kept after (column :: rest) =
      .add column after :: additions kept (some column.name) rest := by
  simp [additions, h]

/-- All that `additions` yields are additions. -/
theorem exists_add_of_mem_additions {kept : List String} {after : Option String}
    {desired : List Column} {change : ColumnChange} (h : change ∈ additions kept after desired) :
    ∃ column anchor, change = .add column anchor := by
  induction desired generalizing after with
  | nil => simp [additions] at h
  | cons column rest ih =>
      by_cases hkept : column.name ∈ kept
      · rw [additions_cons_of_mem hkept] at h
        exact ih h
      · rw [additions_cons_of_not_mem hkept] at h
        rcases List.mem_cons.mp h with rfl | h
        · exact ⟨column, after, rfl⟩
        · exact ih h

/-! ## Columns that stay -/

/-- Whether a change leaves the columns of a given name alone. -/
def Spares (name : String) : ColumnChange → Prop
  | .drop names => name ∉ names
  | .add _ _ => True
  | .rename old _ => name ≠ old
  | .setComment other _ => name ≠ other
  | .setNullable other _ => name ≠ other

/-- A column stays when the operation is on another one, or puts it back. -/
theorem mem_of_replaceNamed {name : String} {f : Column → List Column} {column : Column}
    {columns next : List Column} (h : replaceNamed name f columns = some next)
    (hmem : column ∈ columns) (hcolumn : column.name ≠ name ∨ column ∈ f column) :
    column ∈ next := by
  have hthere : name ∈ columns.map Column.name := by
    by_contra hnot
    rw [replaceNamed_eq_none_iff.mpr hnot] at h
    cases h
  obtain ⟨front, other, back, rfl, hname, hfront⟩ := exists_split_of_mem hthere
  rw [replaceNamed_append f back hfront hname] at h
  cases h
  rcases List.mem_append.mp hmem with hmem | hmem
  · exact List.mem_append_left _ hmem
  · rcases List.mem_cons.mp hmem with rfl | hmem
    · have hself : column ∈ f column := hcolumn.resolve_left fun hne => hne hname
      simp [hself]
    · simp [hmem]

/-- A column that a change leaves alone is there afterwards as it was before. -/
theorem mem_of_apply {change : ColumnChange} {column : Column} {columns next : List Column}
    (h : apply columns change = some next) (hmem : column ∈ columns)
    (hspares : change.Spares column.name) : column ∈ next := by
  cases change with
  | drop names =>
      cases h
      have hkept : column.name ∉ names := hspares
      exact List.mem_filter.mpr ⟨hmem, by simpa using hkept⟩
  | add new after =>
      simp only [apply] at h
      split at h
      · cases h
      cases after with
      | none =>
          cases h
          exact List.mem_cons_of_mem _ hmem
      | some anchor => exact mem_of_replaceNamed h hmem (.inr (by simp))
  | rename old new =>
      simp only [apply] at h
      split at h
      · cases h
      · exact mem_of_replaceNamed h hmem (.inl hspares)
  | setComment other comment => exact mem_of_replaceNamed h hmem (.inl hspares)
  | setNullable other nullable => exact mem_of_replaceNamed h hmem (.inl hspares)

/-- A column that all changes leave alone is there after the run as it was before. -/
theorem mem_of_run {changes : List ColumnChange} {column : Column} {columns reached : List Column}
    (h : run columns changes = .ok reached) (hmem : column ∈ columns)
    (hspares : ∀ change ∈ changes, change.Spares column.name) : column ∈ reached := by
  induction changes generalizing columns with
  | nil =>
      cases h
      exact hmem
  | cons change rest ih =>
      rcases happly : apply columns change with _ | next
      · rw [run_cons_of_none happly] at h
        cases h
      · rw [run_cons_of_some happly] at h
        have hnext := mem_of_apply happly hmem (hspares change List.mem_cons_self)
        exact ih h hnext fun other hother => hspares other (List.mem_cons_of_mem _ hother)

/-- The changes leave the columns alone whose names are desired. -/
theorem spares_of_mem_membership {desired previous : List Column} {name : String}
    (hname : name ∈ desired.map Column.name) {change : ColumnChange}
    (h : change ∈ membership desired previous) : change.Spares name := by
  rcases List.mem_append.mp h with h | h
  · split at h
    · cases h
    · rw [List.mem_singleton.mp h, removedNames_eq]
      intro hremoved
      exact absurd hname (by simpa using (List.mem_filter.mp hremoved).2)
  · obtain ⟨column, anchor, rfl⟩ := exists_add_of_mem_additions h
    trivial

/-! ## The run -/

/-- The previous columns with desired names have the previous names that are desired. -/
theorem map_name_filter (desired previous : List Column) :
    (previous.filter fun column => column.name ∈ desired.map Column.name).map Column.name =
      (previous.map Column.name).filter (· ∈ desired.map Column.name) := by
  rw [List.filter_map]
  rfl

/-- How the columns stand when the desired columns `settled` are in place and `rest` are to come:
the invariant of the run. -/
structure Stage (previous settled rest current : List Column) : Prop where
  /-- Names are unique. -/
  nodup : (current.map Column.name).Nodup
  /-- Of the columns to come those are there that were there before. -/
  mem_iff : ∀ name, name ∈ current.map Column.name ↔ name ∈ settled.map Column.name ∨
    name ∈ rest.map Column.name ∧ name ∈ previous.map Column.name
  /-- Each settled column that is new is there as it is desired. -/
  added : ∀ column ∈ settled, column.name ∉ previous.map Column.name → column ∈ current
  /-- The names that were there before stand in their previous order. -/
  order : (current.map Column.name).filter (· ∈ previous.map Column.name) =
    (previous.map Column.name).filter (· ∈ (settled ++ rest).map Column.name)

namespace Stage

variable {previous settled rest current : List Column} {column : Column}

/-- Once the columns are dropped that are not desired, the run is at its first stage. -/
theorem first (desired : List Column) (hp : (previous.map Column.name).Nodup) :
    Stage previous [] desired
      (previous.filter fun column => column.name ∈ desired.map Column.name) where
  nodup := hp.sublist (List.filter_sublist.map Column.name)
  mem_iff name := by
    constructor
    · intro h
      obtain ⟨column, hcolumn, rfl⟩ := List.mem_map.mp h
      obtain ⟨hmem, hdesired⟩ := List.mem_filter.mp hcolumn
      exact .inr ⟨of_decide_eq_true hdesired, List.mem_map_of_mem hmem⟩
    · rintro (h | ⟨hdesired, hprevious⟩)
      · cases h
      · obtain ⟨column, hmem, rfl⟩ := List.mem_map.mp hprevious
        exact List.mem_map_of_mem (List.mem_filter.mpr ⟨hmem, decide_eq_true hdesired⟩)
  added column h := absurd h List.not_mem_nil
  order := by
    rw [map_name_filter, List.nil_append]
    exact List.filter_eq_self.mpr fun name hname =>
      decide_eq_true (List.mem_filter.mp hname).1

/-- A column that was there before is settled as it is. -/
theorem keep (h : Stage previous settled (column :: rest) current)
    (hcolumn : column.name ∈ previous.map Column.name) :
    Stage previous (settled ++ [column]) rest current where
  nodup := h.nodup
  mem_iff name := by
    rw [h.mem_iff name]
    simp only [List.map_append, List.map_cons, List.map_nil, List.mem_append, List.mem_cons,
      List.not_mem_nil, or_false]
    constructor
    · rintro (hs | ⟨rfl | hr, hp⟩)
      · exact .inl (.inl hs)
      · exact .inl (.inr rfl)
      · exact .inr ⟨hr, hp⟩
    · rintro ((hs | rfl) | ⟨hr, hp⟩)
      · exact .inl hs
      · exact .inr ⟨.inl rfl, hcolumn⟩
      · exact .inr ⟨.inr hr, hp⟩
  added other hmem hnew := by
    rcases List.mem_append.mp hmem with hmem | hmem
    · exact h.added other hmem hnew
    · rw [List.mem_singleton.mp hmem] at hnew
      exact absurd hcolumn hnew
  order := by rw [h.order, List.append_assoc, List.singleton_append]

/-- A column that is new is settled by putting it anywhere. -/
theorem add {front back : List Column} (h : Stage previous settled (column :: rest) (front ++ back))
    (hcolumn : column.name ∉ previous.map Column.name)
    (hfree : column.name ∉ (front ++ back).map Column.name) :
    Stage previous (settled ++ [column]) rest (front ++ column :: back) where
  nodup := by
    rw [List.map_append, List.map_cons, List.nodup_middle, ← List.map_append]
    exact List.nodup_cons.mpr ⟨hfree, h.nodup⟩
  mem_iff name := by
    have hmiddle : name ∈ (front ++ column :: back).map Column.name ↔
        name = column.name ∨ name ∈ (front ++ back).map Column.name := by
      rw [(List.perm_middle.map Column.name).mem_iff, List.map_cons, List.mem_cons]
    rw [hmiddle, h.mem_iff name]
    simp only [List.map_append, List.map_cons, List.map_nil, List.mem_append, List.mem_cons,
      List.not_mem_nil, or_false]
    constructor
    · rintro (rfl | hs | ⟨rfl | hr, hp⟩)
      · exact .inl (.inr rfl)
      · exact .inl (.inl hs)
      · exact absurd hp hcolumn
      · exact .inr ⟨hr, hp⟩
    · rintro ((hs | rfl) | ⟨hr, hp⟩)
      · exact .inr (.inl hs)
      · exact .inl rfl
      · exact .inr (.inr ⟨.inr hr, hp⟩)
  added other hmem hnew := by
    rcases List.mem_append.mp hmem with hmem | hmem
    · rcases List.mem_append.mp (h.added other hmem hnew) with hf | hb
      · exact List.mem_append_left _ hf
      · exact List.mem_append_right _ (List.mem_cons_of_mem _ hb)
    · rw [List.mem_singleton.mp hmem]
      exact List.mem_append_right _ List.mem_cons_self
  order := by
    rw [List.append_assoc, List.singleton_append, ← h.order]
    simp only [List.map_append, List.map_cons, List.filter_append]
    rw [List.filter_cons_of_neg (by simpa only [decide_eq_true_eq] using hcolumn)]

end Stage

/-- The first operation leaves the columns that are desired, whether it is needed or not. -/
theorem run_drop (desired previous : List Column) (rest : List ColumnChange) :
    run previous ((if (removedNames desired previous).isEmpty then []
        else [.drop (removedNames desired previous)]) ++ rest) =
      run (previous.filter fun column => column.name ∈ desired.map Column.name) rest := by
  have hremoved : ∀ column ∈ previous,
      column.name ∈ removedNames desired previous ↔ column.name ∉ desired.map Column.name := by
    intro column hmem
    rw [removedNames_eq, List.mem_filter]
    have hname : column.name ∈ previous.map Column.name := List.mem_map_of_mem hmem
    simp only [hname, true_and, decide_eq_true_eq]
  refine run_unless (fun hempty => ?_) (fun _ => ?_) rest
  · refine (List.filter_eq_self.mpr fun column hmem => ?_).symm
    by_contra hnot
    have hgone := (hremoved column hmem).mpr fun h => hnot (decide_eq_true h)
    rw [List.isEmpty_iff.mp hempty] at hgone
    cases hgone
  · simp only [apply]
    congr 1
    refine List.filter_congr fun column hmem => ?_
    rw [decide_eq_decide, hremoved column hmem, not_not]

/-- A list without repetitions ends differently once it is prolonged. -/
theorem eq_nil_of_getLast?_append {names more : List String} (hnodup : (names ++ more).Nodup)
    (h : (names ++ more).getLast? = names.getLast?) : more = [] := by
  rcases List.eq_nil_or_concat more with hnil | ⟨init, last, rfl⟩
  · exact hnil
  · rw [List.concat_eq_append, ← List.append_assoc, List.getLast?_concat] at h
    have hmem : last ∈ names := List.mem_of_getLast? h.symm
    exact absurd rfl ((List.nodup_append.mp hnodup).2.2 last hmem last (by simp))

/-- Of a list without repetitions, two beginnings with the same last member are the same. -/
theorem eq_of_getLast?_eq {front back settled rest : List String}
    (hnodup : (front ++ back).Nodup) (happend : front ++ back = settled ++ rest)
    (hlast : front.getLast? = settled.getLast?) : front = settled := by
  rcases List.append_eq_append_iff.mp happend with ⟨more, rfl, rfl⟩ | ⟨more, rfl, rfl⟩
  · rw [← List.append_assoc] at hnodup
    rw [eq_nil_of_getLast?_append (List.nodup_append.mp hnodup).1 hlast.symm, List.append_nil]
  · rw [eq_nil_of_getLast?_append (List.nodup_append.mp hnodup).1 hlast, List.append_nil]

/-- From any stage the additions lead to the last one.  If the names that are there follow the
desired order so far, they follow it in the end. -/
theorem run_additions {previous settled rest current : List Column}
    (hstage : Stage previous settled rest current)
    (hd : ((settled ++ rest).map Column.name).Nodup) :
    ∃ final,
      run current (additions (previous.map Column.name) (settled.map Column.name).getLast? rest) =
        .ok final ∧
      Stage previous (settled ++ rest) [] final ∧
      (current.map Column.name = settled.map Column.name ++
          (rest.map Column.name).filter (· ∈ previous.map Column.name) →
        final.map Column.name = (settled ++ rest).map Column.name) := by
  induction rest generalizing settled current with
  | nil => exact ⟨current, rfl, by simpa using hstage, by simp⟩
  | cons column rest ih =>
      have hassoc : settled ++ column :: rest = settled ++ [column] ++ rest := by simp
      have hlast : ((settled ++ [column]).map Column.name).getLast? = some column.name := by simp
      rw [hassoc] at hd ⊢
      by_cases hkept : column.name ∈ previous.map Column.name
      · obtain ⟨final, hrun, hfinal, horder⟩ := ih (hstage.keep hkept) hd
        rw [hlast] at hrun
        refine ⟨final, by rw [additions_cons_of_mem hkept, hrun], hfinal, fun h => horder ?_⟩
        rw [h, List.map_cons,
          List.filter_cons_of_pos (by simpa only [decide_eq_true_eq] using hkept)]
        simp
      · have hfree : column.name ∉ current.map Column.name := by
          rw [hstage.mem_iff]
          rintro (hsettled | ⟨-, hprevious⟩)
          · simp only [List.map_append, List.map_cons, List.map_nil] at hd
            have hfront := (List.nodup_append.mp hd).1
            exact absurd rfl ((List.nodup_append.mp hfront).2.2 _ hsettled _ (by simp))
          · exact hkept hprevious
        have hanchor : ∀ anchor, (settled.map Column.name).getLast? = some anchor →
            anchor ∈ current.map Column.name := fun anchor h =>
          (hstage.mem_iff anchor).mpr (.inl (List.mem_of_getLast? h))
        obtain ⟨front, back, rfl, hfront, happly⟩ := apply_add hfree hanchor
        obtain ⟨final, hrun, hfinal, horder⟩ := ih (hstage.add hkept hfree) hd
        rw [hlast] at hrun
        refine ⟨final, by rw [additions_cons_of_not_mem hkept, run_cons_of_some happly, hrun],
          hfinal, fun h => horder ?_⟩
        have hnodup := hstage.nodup
        rw [List.map_append] at h hnodup
        have hsame := eq_of_getLast?_eq hnodup h hfront
        rw [List.map_cons, List.filter_cons_of_neg (by simpa only [decide_eq_true_eq] using hkept),
          hsame, List.append_cancel_left_eq] at h
        rw [List.map_append, List.map_cons, hsame, h]
        simp

/-! ## The outcome -/

/-- The names that two lists of columns have in common stand in the same order in both. -/
def SameOrder (desired previous : List Column) : Prop :=
  (desired.map Column.name).filter (· ∈ previous.map Column.name) =
    (previous.map Column.name).filter (· ∈ desired.map Column.name)

/-- The changes by name never fail.  They leave the desired names, each new column as it is
desired, and the desired order if the common names are in the same order on both sides. -/
theorem run_membership {desired previous : List Column} (hd : (desired.map Column.name).Nodup)
    (hp : (previous.map Column.name).Nodup) :
    ∃ final, run previous (membership desired previous) = .ok final ∧
      Stage previous desired [] final ∧
      (final.map Column.name = desired.map Column.name ↔ SameOrder desired previous) := by
  obtain ⟨final, hrun, hfinal, horder⟩ := run_additions (Stage.first desired hp) hd
  rw [List.nil_append] at hfinal horder
  refine ⟨final, ?_, hfinal, fun h => ?_, fun h => horder ?_⟩
  · unfold membership
    rw [run_drop]
    exact hrun
  · have hkept := hfinal.order
    rw [h, List.append_nil] at hkept
    exact hkept
  · rw [map_name_filter]
    exact h.symm

end ColumnChange

namespace Plan

open ColumnChange

/-- **Columns that come and go.** Let the desired and the previous columns differ in number.  The
plan consists of changes to the columns of the object, each of them written in its own form and in
the order of the changes, and carried out on the previous columns

* it never fails;
* it leaves exactly the desired names, each once;
* each new column is there as it is desired;
* at every point of the run each column whose name stays is there as it was before;
* the names are left in the desired order if and only if those that stay are in the same order in
  both descriptions. -/
theorem run_columns_of_length_ne {desired previous : TableSpec} {type : TableType}
    (hd : desired.Valid) (hp : previous.Valid) (htype : desired.type = .supported type)
    (hlength : desired.columns.length ≠ previous.columns.length) :
    ∃ changes texts final,
      Plan.columns desired previous = .ok (changes.map (.alterColumns type.kind desired.name)) ∧
      Plan.texts (changes.map (Statement.alterColumns type.kind desired.name)) = .ok texts ∧
      List.Forall₂ (WrittenAs type.kind.keyword desired.name.quoted) changes texts ∧
      run previous.columns changes = .ok final ∧
      (final.map Column.name).Perm desired.columnNames ∧
      (∀ column ∈ desired.columns, column.name ∉ previous.columnNames → column ∈ final) ∧
      (∀ before after, changes = before ++ after →
        ∃ reached, run previous.columns before = .ok reached ∧
          ∀ column ∈ previous.columns, column.name ∈ desired.columnNames → column ∈ reached) ∧
      (final.map Column.name = desired.columnNames ↔
        SameOrder desired.columns previous.columns) := by
  have hbetween : between desired.columns previous.columns =
      membership desired.columns previous.columns := if_neg hlength
  obtain ⟨final, hrun, hfinal, horder⟩ := run_membership hd.columns_nodup hp.columns_nodup
  obtain ⟨texts, htexts, hwritten⟩ :=
    exists_texts type.kind desired.name (membership desired.columns previous.columns)
  refine ⟨membership desired.columns previous.columns, texts, final, ?_, htexts, hwritten, hrun, ?_,
    hfinal.added, ?_, horder⟩
  · rw [columns_of_supported _ htype, columnsFor, hbetween]
  · refine (List.perm_ext_iff_of_nodup hfinal.nodup hd.columns_nodup).mpr fun name => ?_
    rw [hfinal.mem_iff]
    simp [TableSpec.columnNames]
  · intro before after hchanges
    rw [hchanges] at hrun
    obtain ⟨reached, hreached, -⟩ := exists_run_of_append hrun
    refine ⟨reached, hreached, fun column hmem hname => mem_of_run hreached hmem ?_⟩
    intro change hchange
    have hplanned : change ∈ membership desired.columns previous.columns := by
      rw [hchanges]
      exact List.mem_append_left _ hchange
    exact spares_of_mem_membership hname hplanned

/-- New columns around two that stay in the opposite order: the plan does not fail, and does not
lead to the desired order either. -/
theorem run_columns_of_reversed :
    let desired : TableSpec := .ofColumns
      [⟨"x", "int", "", true⟩, ⟨"b", "int", "", true⟩, ⟨"a", "int", "", true⟩,
        ⟨"y", "date", "new", false⟩]
    let previous : TableSpec := .ofColumns
      [⟨"a", "int", "", true⟩, ⟨"b", "int", "", true⟩, ⟨"c", "int", "", true⟩]
    ∃ changes final,
      Plan.columns desired previous = .ok (changes.map (.alterColumns .table desired.name)) ∧
      Plan.texts (changes.map (Statement.alterColumns .table desired.name)) = .ok
        ["ALTER TABLE `main`.`sales`.`orders` DROP COLUMN IF EXISTS (`c`)",
        "ALTER TABLE `main`.`sales`.`orders` ADD COLUMN `x` int FIRST",
        "ALTER TABLE `main`.`sales`.`orders` ADD COLUMN `y` date NOT NULL COMMENT 'new' AFTER a"] ∧
      run previous.columns changes = .ok final ∧
      final.map Column.name ≠ desired.columnNames := by
  intro desired previous
  have hd : desired.Valid := TableSpec.ofColumns_valid (by decide)
  have hp : previous.Valid := TableSpec.ofColumns_valid (by decide)
  have htype : desired.type = .supported .managed := rfl
  obtain ⟨changes, -, final, hplan, -, -, hrun, -, -, -, horder⟩ :=
    run_columns_of_length_ne hd hp htype (by decide)
  refine ⟨changes, final, hplan, ?_, hrun, fun h => ?_⟩
  · refine (congrArg Plan.texts (columnsFor_eq_of_columns previous htype hplan)).symm.trans ?_
    decide +kernel
  · exact absurd (horder.mp h) (by unfold SameOrder; decide)

end Plan

end TableReconciler
