import TableReconciler.Catalog.Record
import TableReconciler.Proofs.Columns.Rules
import TableReconciler.Proofs.Config.Nulls
import TableReconciler.Proofs.Text.Case

/-!
# Spellings of column types

The normal form of a type is reached in one step, from the type as it was stated as well as from its
lower case form: `canonicalType_eq_self_iff` says which types are normal forms, and
`isNormal_canonicalType` that every type comes to one.  So the column rules do not depend on who was
the first to put a type in lower case.

* `check_spelled` and `checkAll_spelled`: the rules judge columns alike, however far the types were
  normalised before on either side.  A refusal names the types in the spelling it saw.
* `mapM_column_eq` and `ColumnRecord.column_eq_spelled`: the columns of a configuration and of the
  catalog are the stated ones with the types in lower case.
* `check_of_spellings` says both of the rules as they are used.
-/

namespace TableReconciler

/-! ## Normal forms -/

/-- A type is in normal form when it is in lower case and no synonym of another. -/
def IsNormalType (type : String) : Prop :=
  Text.lower type = type ∧ typeSynonyms.lookup type = none

/-- The types that synonyms stand for are in normal form; no synonym stands for another. -/
theorem isNormal_of_mem_typeSynonyms {synonym type : String}
    (h : (synonym, type) ∈ typeSynonyms) : IsNormalType type := by
  have hletters : ∀ entry ∈ typeSynonyms,
      (entry.2.toList.all fun c => !Text.Case.changedBits.testBit c.toNat) = true := by
    decide +kernel
  have hnone : ∀ entry ∈ typeSynonyms, typeSynonyms.lookup entry.2 = none := by decide +kernel
  refine ⟨Text.lower_eq_self_iff.mpr ?_, hnone _ h⟩
  intro c hc
  apply Text.isLowered_of_testBit
  simpa using List.all_eq_true.mp (hletters _ h) c hc

/-- A type comes to what its lower case form is a synonym of, or else to that form. -/
theorem canonicalType_eq (type : String) :
    canonicalType type = (typeSynonyms.lookup (Text.lower type)).getD (Text.lower type) := rfl

/-- What a type comes to is in normal form. -/
theorem isNormal_canonicalType (type : String) : IsNormalType (canonicalType type) := by
  rw [canonicalType_eq]
  cases hlookup : typeSynonyms.lookup (Text.lower type) with
  | none =>
      rw [Option.getD_none]
      exact ⟨Text.lower_lower type, hlookup⟩
  | some named =>
      rw [Option.getD_some]
      obtain ⟨before, after, hsplit, -⟩ := List.lookup_eq_some_iff.mp hlookup
      have hmem : (Text.lower type, named) ∈ typeSynonyms := by
        rw [hsplit]
        exact List.mem_append_right before List.mem_cons_self
      exact isNormal_of_mem_typeSynonyms hmem

/-- The types in normal form are those that stay as they are. -/
theorem canonicalType_eq_self_iff {type : String} :
    canonicalType type = type ↔ IsNormalType type := by
  constructor
  · intro h
    rw [← h]
    exact isNormal_canonicalType type
  · rintro ⟨hlower, hlookup⟩
    rw [canonicalType_eq, hlower, hlookup]
    rfl

theorem canonicalType_canonicalType (type : String) :
    canonicalType (canonicalType type) = canonicalType type :=
  canonicalType_eq_self_iff.mpr (isNormal_canonicalType type)

theorem canonicalType_lower (type : String) :
    canonicalType (Text.lower type) = canonicalType type := by
  rw [canonicalType_eq, Text.lower_lower, canonicalType_eq]

/-! ## Spellings -/

/-- How far a type was normalised before the rules see it. -/
inductive TypeSpelling where
  /-- As it was stated. -/
  | stated
  /-- In lower case. -/
  | lowered
  /-- In normal form. -/
  | normal
  deriving DecidableEq, Repr

/-- A type in a spelling. -/
def TypeSpelling.spell : TypeSpelling → String → String
  | .stated, type => type
  | .lowered, type => Text.lower type
  | .normal, type => canonicalType type

/-- Every spelling of a type has the normal form of the type. -/
@[simp] theorem TypeSpelling.canonicalType_spell (spelling : TypeSpelling) (type : String) :
    canonicalType (spelling.spell type) = canonicalType type := by
  cases spelling with
  | stated => rfl
  | lowered => exact canonicalType_lower type
  | normal => exact canonicalType_canonicalType type

/-- A column with its type in a spelling. -/
def Column.spelled {τ : Type} (spelling : TypeSpelling) (column : Column τ) : Column τ :=
  { column with type := spelling.spell column.type }

/-- A refusal with the old and the new type in spellings. -/
def ColumnFault.spelled (new old : TypeSpelling) : ColumnFault → ColumnFault
  | .typeChange column oldType newType =>
      .typeChange column (old.spell oldType) (new.spell newType)
  | .mixedChange column => .mixedChange column

/-! ## The rules -/

namespace ColumnRule

variable {τ : Type} {new old : TypeSpelling}

theorem sameType_spelled (column : Column τ) (previous : Column) :
    sameType (column.spelled new) (previous.spelled old) = sameType column previous := by
  simp [sameType, Column.spelled]

theorem firstTypeChange?_spelled (desired : List (Column τ)) (previous : List Column) :
    firstTypeChange? (desired.map (·.spelled new)) (previous.map (·.spelled old)) =
      (firstTypeChange? desired previous).map (·.spelled new old) := by
  induction desired generalizing previous with
  | nil => rfl
  | cons column desired ih =>
      cases previous with
      | nil => rfl
      | cons former previous =>
          rw [List.map_cons, List.map_cons, firstTypeChange?, firstTypeChange?, sameType_spelled]
          split
          · exact ih previous
          · rfl

variable [Entry τ]

theorem sameFields_spelled (column : Column τ) (previous : Column) :
    sameFields (column.spelled new) (previous.spelled old) = sameFields column previous := by
  unfold sameFields
  rw [sameType_spelled]
  rfl

theorem columnNamed?_spelled (desired : List (Column τ)) (name : String) :
    columnNamed? (desired.map (·.spelled new)) name =
      (columnNamed? desired name).map (·.spelled new) := by
  unfold columnNamed?
  rw [← List.map_reverse, List.find?_map]
  rfl

theorem changes_spelled (desired : List (Column τ)) (former : Column) :
    changes (desired.map (·.spelled new)) (former.spelled old) = changes desired former := by
  have hname : (former.spelled old).name = former.name := rfl
  unfold changes
  rw [hname, columnNamed?_spelled, Option.any_map]
  simp only [sameFields_spelled]

/-- A rule finds the same fault in columns, whatever the spellings of their types. -/
theorem violation?_spelled (rule : ColumnRule) (desired : List (Column τ))
    (previous : List Column) :
    rule.violation? (desired.map (·.spelled new)) (previous.map (·.spelled old)) =
      (rule.violation? desired previous).map (·.spelled new old) := by
  cases rule with
  | noTypeChange =>
      simp only [violation?, List.length_map]
      split
      · exact firstTypeChange?_spelled desired previous
      · rfl
  | noMixedChange =>
      simp only [violation?, List.length_map]
      split
      · rfl
      · rw [List.find?_map]
        simp only [Function.comp_def, changes_spelled, Option.map_map]
        rfl

theorem check_spelled (rule : ColumnRule) (desired : List (Column τ)) (previous : List Column) :
    rule.check (desired.map (·.spelled new)) (previous.map (·.spelled old)) =
      (rule.check desired previous).mapError (·.spelled new old) := by
  unfold check
  rw [violation?_spelled]
  cases rule.violation? desired previous <;> rfl

theorem checkAll_spelled (rules : List ColumnRule) (desired : List (Column τ))
    (previous : List Column) :
    checkAll rules (desired.map (·.spelled new)) (previous.map (·.spelled old)) =
      (checkAll rules desired previous).mapError (·.spelled new old) := by
  induction rules with
  | nil => rfl
  | cons rule rules ih =>
      rw [checkAll_cons, checkAll_cons, violation?_spelled, ih]
      cases rule.violation? desired previous <;> rfl

end ColumnRule

/-! ## Where types are put in lower case -/

namespace Config

/-- The type that an entry of the column list states; empty for none. -/
def statedType : Value → String
  | .mapping fields => ((present? fields "type").map Value.display).getD ""
  | _ => ""

/-- The column that an entry declares, with the type as it is stated. -/
def statedColumn (entry : Value) : Except Fault (Column Value) :=
  (column entry).map fun declared => { declared with type := statedType entry }

theorem column_eq_spelled (entry : Value) :
    column entry = (statedColumn entry).map (·.spelled .lowered) := by
  cases entry with
  | mapping fields =>
      rw [statedColumn, column_eq]
      cases required fields "name" <;> rfl
  | list _ => rfl
  | scalar _ => rfl

/-- The columns of a configuration are the stated ones with the types in lower case. -/
theorem mapM_column_eq (entries : List Value) :
    entries.mapM column = (entries.mapM statedColumn).map (List.map (·.spelled .lowered)) := by
  induction entries with
  | nil => rfl
  | cons entry entries ih =>
      rw [List.mapM_cons, List.mapM_cons, column_eq_spelled, ih]
      cases statedColumn entry <;> cases entries.mapM statedColumn <;> rfl

end Config

namespace Catalog

/-- The column that a record describes, with the type as the catalog states it. -/
def ColumnRecord.statedColumn (info : ColumnRecord) : Column :=
  { info.column with type := info.type.getD "" }

/-- The columns of the catalog are the stated ones with the types in lower case. -/
theorem ColumnRecord.column_eq_spelled (info : ColumnRecord) :
    info.column = info.statedColumn.spelled .lowered := rfl

end Catalog

/-! ## The rules as they are used -/

namespace ColumnRule

open Catalog (ColumnRecord)

/-- **The rules do not depend on who normalised a type first.**

* The normal form of a type is settled: normalising it again, or putting the type in lower case
  first, comes to the same.  The types that are their own normal form are those in lower case that
  are no synonym.
* Each rule, and all of them together, judge columns the same with their types as they were stated,
  in lower case or in normal form, and it need not be the same spelling on both sides.  A refusal is
  about the same column for the same reason, and tells the types as they are spelled.
* So the verdict on columns from a configuration and columns from the catalog, which are in lower
  case by then, is the verdict on the columns as configuration and catalog state them. -/
theorem check_of_spellings :
    (∀ type, canonicalType (canonicalType type) = canonicalType type ∧
      canonicalType (Text.lower type) = canonicalType type ∧
      (canonicalType type = type ↔
        Text.lower type = type ∧ typeSynonyms.lookup type = none)) ∧
    (∀ (τ : Type) [Entry τ] (new old : TypeSpelling) (desired : List (Column τ))
      (previous : List Column),
      (∀ rule : ColumnRule,
        rule.check (desired.map (·.spelled new)) (previous.map (·.spelled old)) =
          (rule.check desired previous).mapError (·.spelled new old)) ∧
      ∀ rules : List ColumnRule,
        checkAll rules (desired.map (·.spelled new)) (previous.map (·.spelled old)) =
          (checkAll rules desired previous).mapError (·.spelled new old)) ∧
    ∀ (entries : List Value) (records : List ColumnRecord) (rule : ColumnRule),
      ((entries.mapM Config.column).map fun desired =>
        rule.check desired (records.map ColumnRecord.column)) =
      (entries.mapM Config.statedColumn).map fun desired =>
        (rule.check desired (records.map ColumnRecord.statedColumn)).mapError
          (·.spelled .lowered .lowered) := by
  refine ⟨fun type => ?_, fun τ _ new old desired previous => ?_, fun entries records rule => ?_⟩
  · exact ⟨canonicalType_canonicalType type, canonicalType_lower type, canonicalType_eq_self_iff⟩
  · exact ⟨fun rule => check_spelled rule desired previous,
      fun rules => checkAll_spelled rules desired previous⟩
  · have hrecords : records.map ColumnRecord.column =
        (records.map ColumnRecord.statedColumn).map (·.spelled .lowered) := by
      rw [List.map_map]
      exact List.map_congr_left fun info _ => info.column_eq_spelled
    rw [Config.mapM_column_eq, hrecords]
    cases entries.mapM Config.statedColumn with
    | error fault => rfl
    | ok desired => exact congrArg Except.ok (check_spelled rule desired _)

end ColumnRule

end TableReconciler
