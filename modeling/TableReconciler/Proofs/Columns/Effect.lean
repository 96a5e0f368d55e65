import Mathlib.Data.List.Basic
import TableReconciler.Proofs.Plan.Supported

/-!
# What column changes do

A column change read as an operation on the ordered columns of an object, and a list of changes
read as operations that are carried out one after the other.

* `apply` says what one change leaves, and when it fails: a column is added under a name that is
  taken, a column is named that is not there, or a column is renamed to a name that is taken.
  Dropping never fails.
* `run` carries out a list of changes.  It ends with the first change that fails, and tells which
  that was and what the columns were then (`Halt`).
* `replaceNamed_append` and `exists_split_of_mem` are the two facts that the operations on a named
  column are reasoned about with: where the column stands, and what stands there afterwards.
-/

namespace TableReconciler

/-! ## Tables with given columns -/

/-- A managed table that has the given columns and nothing else. -/
def TableSpec.ofColumns (columns : List Column) : TableSpec where
  catalog := "main"
  schema := "sales"
  table := "orders"
  type := .supported .managed
  format := "DELTA"
  columns := columns
  location := ""
  credential := ""
  viewDefinition := ""
  comment := ""

/-- Such a table is valid when its column names are unique. -/
theorem TableSpec.ofColumns_valid {columns : List Column}
    (h : (columns.map Column.name).Nodup) : (ofColumns columns).Valid where
  layout := .inl rfl
  location _ := rfl
  definition _ := rfl
  columns_nodup := h

namespace ColumnChange

/-! ## One change -/

/-- Put the columns `f column` in the place of the first column with the given name; there has to
be one. -/
def replaceNamed (name : String) (f : Column → List Column) : List Column → Option (List Column)
  | [] => none
  | column :: rest =>
      if column.name = name then some (f column ++ rest)
      else (replaceNamed name f rest).map (column :: ·)

/-- The columns after a change, unless the change fails. -/
def apply (columns : List Column) : ColumnChange → Option (List Column)
  | .drop names => some (columns.filter fun column => column.name ∉ names)
  | .add column after =>
      if column.name ∈ columns.map Column.name then none
      else
        match after with
        | none => some (column :: columns)
        | some anchor => replaceNamed anchor (fun first => [first, column]) columns
  | .rename old new =>
      if new ∈ columns.map Column.name then none
      else replaceNamed old (fun column => [{ column with name := new }]) columns
  | .setComment name comment => replaceNamed name (fun column => [{ column with comment }]) columns
  | .setNullable name nullable =>
      replaceNamed name (fun column => [{ column with nullable }]) columns

/-- The first column of a name is replaced where it stands. -/
theorem replaceNamed_append {name : String} {front : List Column} {column : Column}
    (f : Column → List Column) (back : List Column) (hfront : name ∉ front.map Column.name)
    (hname : column.name = name) :
    replaceNamed name f (front ++ column :: back) = some (front ++ (f column ++ back)) := by
  induction front with
  | nil => simp [replaceNamed, hname]
  | cons first front ih =>
      simp only [List.map_cons, List.mem_cons, not_or] at hfront
      have hfirst : first.name ≠ name := fun h => hfront.1 h.symm
      simp [replaceNamed, hfirst, ih hfront.2]

/-- A name that occurs has a first occurrence. -/
theorem exists_split_of_mem {name : String} {columns : List Column}
    (h : name ∈ columns.map Column.name) :
    ∃ front column back, columns = front ++ column :: back ∧ column.name = name ∧
      name ∉ front.map Column.name := by
  obtain ⟨front, back, hsplit, hfront⟩ := List.eq_append_cons_of_mem h
  obtain ⟨front, rest, rfl, rfl, hrest⟩ := List.map_eq_append_iff.mp hsplit
  obtain ⟨column, back, rfl, hname, -⟩ := List.map_eq_cons_iff.mp hrest
  exact ⟨front, column, back, rfl, hname, hfront⟩

/-- A change to a named column fails exactly when no column has the name. -/
theorem replaceNamed_eq_none_iff {name : String} {f : Column → List Column}
    {columns : List Column} :
    replaceNamed name f columns = none ↔ name ∉ columns.map Column.name := by
  constructor
  · intro h hmem
    obtain ⟨front, column, back, rfl, hname, hfront⟩ := exists_split_of_mem hmem
    rw [replaceNamed_append f back hfront hname] at h
    cases h
  · intro h
    induction columns with
    | nil => rfl
    | cons column rest ih =>
        simp only [List.map_cons, List.mem_cons, not_or] at h
        have hcolumn : column.name ≠ name := fun e => h.1 e.symm
        simp [replaceNamed, hcolumn, ih h.2]

/-- Adding a column under a free name, behind a column that is there or in front of all, puts it
between those up to its anchor and the others. -/
theorem apply_add {columns : List Column} {column : Column} {after : Option String}
    (hfree : column.name ∉ columns.map Column.name)
    (hafter : ∀ anchor, after = some anchor → anchor ∈ columns.map Column.name) :
    ∃ front back, columns = front ++ back ∧ (front.map Column.name).getLast? = after ∧
      apply columns (.add column after) = some (front ++ column :: back) := by
  cases after with
  | none => exact ⟨[], columns, rfl, rfl, by simp only [apply, if_neg hfree]; rfl⟩
  | some anchor =>
      obtain ⟨front, first, back, rfl, hname, hfront⟩ := exists_split_of_mem (hafter anchor rfl)
      refine ⟨front ++ [first], back, by simp, by simp [hname], ?_⟩
      simp only [apply, if_neg hfree]
      rw [replaceNamed_append _ back hfront hname]
      simp

/-! ## Several changes -/

/-- How a run comes to a halt. -/
structure Halt where
  /-- The change that fails. -/
  change : ColumnChange
  /-- The columns as the changes before it left them. -/
  columns : List Column
  deriving DecidableEq, Repr

/-- Carry out changes one after the other, up to the first that fails. -/
def run (columns : List Column) : List ColumnChange → Except Halt (List Column)
  | [] => .ok columns
  | change :: rest =>
      match apply columns change with
      | some next => run next rest
      | none => .error ⟨change, columns⟩

theorem run_cons_of_some {columns next : List Column} {change : ColumnChange}
    (h : apply columns change = some next) (rest : List ColumnChange) :
    run columns (change :: rest) = run next rest := by
  simp only [run, h]

theorem run_cons_of_none {columns : List Column} {change : ColumnChange}
    (h : apply columns change = none) (rest : List ColumnChange) :
    run columns (change :: rest) = .error ⟨change, columns⟩ := by
  simp only [run, h]

/-- A change that is left out when there is nothing to do has its effect either way. -/
theorem run_unless {columns next : List Column} {change : ColumnChange} {done : Prop}
    [Decidable done] (hskip : done → columns = next)
    (happly : ¬done → apply columns change = some next) (rest : List ColumnChange) :
    run columns ((if done then [] else [change]) ++ rest) = run next rest := by
  by_cases h : done
  · rw [if_pos h, hskip h, List.nil_append]
  · rw [if_neg h, List.singleton_append, run_cons_of_some (happly h)]

/-- A run can be cut anywhere. -/
theorem run_append (columns : List Column) (before after : List ColumnChange) :
    run columns (before ++ after) = run columns before >>= fun reached => run reached after := by
  induction before generalizing columns with
  | nil => rfl
  | cons change before ih =>
      rcases h : apply columns change with _ | next
      · rw [List.cons_append, run_cons_of_none h, run_cons_of_none h]
        rfl
      · rw [List.cons_append, run_cons_of_some h, run_cons_of_some h, ih]

/-- Each part of a run that completes is completed. -/
theorem exists_run_of_append {columns final : List Column} {before after : List ColumnChange}
    (h : run columns (before ++ after) = .ok final) :
    ∃ reached, run columns before = .ok reached ∧ run reached after = .ok final := by
  rw [run_append] at h
  rcases hbefore : run columns before with halt | reached
  · rw [hbefore] at h
    cases h
  · rw [hbefore] at h
    exact ⟨reached, rfl, h⟩

end ColumnChange

end TableReconciler
