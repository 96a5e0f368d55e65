import Mathlib.Data.List.Forall2
import TableReconciler.Config
import TableReconciler.Plan
import TableReconciler.Proofs.Columns.Effect
import TableReconciler.Reconcile

/-!
# Fields that are null

A configuration may leave an optional field out or state it as null.  `WithNulls` relates two
configurations of which the second states some fields as null that the first leaves out, at the top
or in the entries of its column list.

* `column_withNulls` says what that does to a column: nothing, unless its nullability is null, for
  then it may no longer hold no value.
* `table_eq_ok_iff` says which description a configuration declares, field by field.
* `table_withNulls` is the main statement.  Both configurations declare the same description exactly
  when no nullability is null in the second and left out in the first.
-/

namespace TableReconciler.Config

/-! ## Configurations that differ in null fields -/

/-- The fields of a configuration that may be left out. -/
def optionalFields : List String :=
  ["data_source_format", "column", "partitions", "cluster_keys", "storage_location",
    "storage_credential_name", "view_definition", "comment", "properties", "options", "owner"]

/-- The fields of an entry of the column list that may be left out. -/
def optionalColumnFields : List String :=
  ["type", "comment", "nullable"]

/-- What two configurations say in a field: nothing in either, values that are `alike`, or, where
null `mayBeAdded`, nothing in the first and null in the second. -/
inductive Restated (mayBeAdded : Prop) (alike : Value → Value → Prop) :
    Option Value → Option Value → Prop
  /-- The field is left out in both. -/
  | omitted : Restated mayBeAdded alike none none
  /-- The field is left out in the first and null in the second. -/
  | added (h : mayBeAdded) : Restated mayBeAdded alike none (some .null)
  /-- The field is stated in both. -/
  | kept {value value' : Value} (h : alike value value') :
      Restated mayBeAdded alike (some value) (some value')

/-- An entry of a column list, and the same with some of the fields `names` added as null. -/
inductive ColumnWithNulls (names : List String) : Value → Value → Prop
  /-- From the fields of both. -/
  | intro {fields extended : Fields}
      (h : ∀ field, Restated (field ∈ names) Eq (Value.lookup? fields field)
        (Value.lookup? extended field)) :
      ColumnWithNulls names (.mapping fields) (.mapping extended)

/-- A column list, and the same with some of the fields `names` added as null to its entries. -/
inductive ColumnsWithNulls (names : List String) : Value → Value → Prop
  /-- Nothing is added. -/
  | same (value : Value) : ColumnsWithNulls names value value
  /-- Entry by entry. -/
  | list {entries extended : List Value}
      (h : List.Forall₂ (ColumnWithNulls names) entries extended) :
      ColumnsWithNulls names (.list entries) (.list extended)

/-- A configuration, and the same with some optional fields added as null, and some of the fields
`names` in the entries of its column list. -/
inductive WithNulls (names : List String) : Value → Value → Prop
  /-- From the fields of both. -/
  | intro {fields extended : Fields}
      (columns : Restated ("column" ∈ optionalFields) (ColumnsWithNulls names)
        (Value.lookup? fields "column") (Value.lookup? extended "column"))
      (others : ∀ field, field ≠ "column" → Restated (field ∈ optionalFields) Eq
        (Value.lookup? fields field) (Value.lookup? extended field)) :
      WithNulls names (.mapping fields) (.mapping extended)

/-! ## Fields -/

namespace Restated

variable {mayBeAdded wider : Prop} {said restated : Option Value}

/-- More may be added. -/
theorem mono {alike : Value → Value → Prop} (h : Restated mayBeAdded alike said restated)
    (hwider : mayBeAdded → wider) : Restated wider alike said restated := by
  cases h with
  | omitted => exact .omitted
  | added h => exact .added (hwider h)
  | kept h => exact .kept h

/-- What is alike in one way may be alike in another. -/
theorem imp {alike alike' : Value → Value → Prop} (h : Restated mayBeAdded alike said restated)
    (halike : ∀ value value', alike value value' → alike' value value') :
    Restated mayBeAdded alike' said restated := by
  cases h with
  | omitted => exact .omitted
  | added h => exact .added h
  | kept h => exact .kept (halike _ _ h)

/-- The same may be said again. -/
theorem refl (said : Option Value) : Restated mayBeAdded Eq said said := by
  cases said with
  | none => exact .omitted
  | some value => exact .kept rfl

/-- What is said again is the same, unless null is added. -/
theorem eq_or_added (h : Restated mayBeAdded Eq said restated) :
    restated = said ∨ mayBeAdded ∧ said = none ∧ restated = some .null := by
  cases h with
  | omitted => exact .inl rfl
  | added h => exact .inr ⟨h, rfl, rfl⟩
  | kept h => exact .inl (congrArg some h.symm)

end Restated

section Fields

variable {fields extended : Fields} {field : String} {mayBeAdded : Prop}

/-- A null field counts as missing. -/
theorem present?_restated
    (h : Restated mayBeAdded Eq (Value.lookup? fields field) (Value.lookup? extended field)) :
    present? extended field = present? fields field := by
  unfold present?
  rcases h.eq_or_added with hsame | ⟨-, hsaid, hrestated⟩
  · rw [hsame]
  · rw [hsaid, hrestated]
    rfl

theorem optional_restated
    (h : Restated mayBeAdded Eq (Value.lookup? fields field) (Value.lookup? extended field)) :
    optional extended field = optional fields field := by
  rw [optional, present?_restated h, optional]

theorem optionalItems_restated
    (h : Restated mayBeAdded Eq (Value.lookup? fields field) (Value.lookup? extended field)) :
    optionalItems extended field = optionalItems fields field := by
  rw [optionalItems, present?_restated h, optionalItems]

theorem optionalPairs_restated
    (h : Restated mayBeAdded Eq (Value.lookup? fields field) (Value.lookup? extended field)) :
    optionalPairs extended field = optionalPairs fields field := by
  rw [optionalPairs, present?_restated h, optionalPairs]

/-- A field that may not be left out is not null either, unless it was. -/
theorem required_restated (hrequired : ¬mayBeAdded)
    (h : Restated mayBeAdded Eq (Value.lookup? fields field) (Value.lookup? extended field)) :
    required extended field = required fields field := by
  unfold required
  rw [h.eq_or_added.resolve_right fun hadded => hrequired hadded.1]

end Fields

/-! ## Columns -/

/-- A column is as another one, or as that one except that it may no longer hold no value. -/
def Tightens (new old : Column Value) : Prop :=
  new = old ∨ old.nullable = true ∧ new = { old with nullable := false }

/-- The nullability that the fields of a column state. -/
def nullability (fields : Fields) : Bool :=
  ((Value.lookup? fields "nullable").map fun value => !value.isEmpty).getD true

/-- A column has a name, and all else that it declares follows from its fields. -/
theorem column_eq (fields : Fields) :
    column (.mapping fields) = (required fields "name").map fun name =>
      { name
        type := Text.lower (((present? fields "type").map Value.display).getD "")
        comment := optional fields "comment"
        nullable := nullability fields } := by
  simp only [column]
  cases required fields "name" <;> rfl

/-- Null fields in an entry leave the column as it is, except for the nullability. -/
theorem column_withNulls {entry extended : Value} {declared : Column Value}
    (hdeclared : column entry = .ok declared)
    (h : ColumnWithNulls optionalColumnFields entry extended) :
    ∃ column', column extended = .ok column' ∧ Tightens column' declared ∧
      (column' = declared ↔ ColumnWithNulls ["type", "comment"] entry extended) := by
  obtain @⟨fields, extended, h⟩ := h
  rw [column_eq] at hdeclared ⊢
  rw [required_restated (by decide) (h "name"), present?_restated (h "type"),
    optional_restated (h "comment")]
  cases hname : required fields "name" with
  | error _ =>
      rw [hname] at hdeclared
      cases hdeclared
  | ok name =>
      rw [hname] at hdeclared
      cases hdeclared
      refine ⟨_, rfl, ?_⟩
      rcases (h "nullable").eq_or_added with hsame | ⟨-, hsaid, hrestated⟩
      · have hnullability : nullability extended = nullability fields := by
          unfold nullability
          rw [hsame]
        rw [hnullability]
        refine ⟨.inl rfl, iff_of_true rfl (.intro fun field => ?_)⟩
        by_cases hfield : field = "nullable"
        · rw [hfield, hsame]
          exact .refl _
        · exact (h field).mono fun hmem => by simpa [optionalColumnFields, hfield] using hmem
      · have hold : nullability fields = true := by rw [nullability, hsaid]; rfl
        have hnew : nullability extended = false := by rw [nullability, hrestated]; rfl
        rw [hold, hnew]
        refine ⟨.inr ⟨rfl, rfl⟩, iff_of_false (by simp) ?_⟩
        rintro ⟨hfree⟩
        have hnullable := hfree "nullable"
        rw [hsaid, hrestated] at hnullable
        rcases hnullable with _ | hmem | _
        exact absurd hmem (by decide)

/-- Columns are declared one after the other. -/
theorem mapM_column_cons_eq_ok_iff {entry : Value} {entries : List Value}
    {columns : List (Column Value)} :
    (entry :: entries).mapM column = .ok columns ↔
      ∃ first later, column entry = .ok first ∧ entries.mapM column = .ok later ∧
        first :: later = columns := by
  rw [List.mapM_cons]
  cases column entry <;> cases entries.mapM column <;>
    simp [bind, Except.bind, pure, Except.pure]

/-- Null fields in the entries leave all columns as they are, except for the nullability. -/
theorem mapM_column_withNulls {entries extended : List Value} {declared : List (Column Value)}
    (hdeclared : entries.mapM column = .ok declared)
    (h : List.Forall₂ (ColumnWithNulls optionalColumnFields) entries extended) :
    ∃ columns, extended.mapM column = .ok columns ∧ List.Forall₂ Tightens columns declared ∧
      (columns = declared ↔
        List.Forall₂ (ColumnWithNulls ["type", "comment"]) entries extended) := by
  induction h generalizing declared with
  | nil =>
      cases hdeclared
      exact ⟨[], rfl, .nil, iff_of_true rfl .nil⟩
  | cons hentry _ ih =>
      obtain ⟨first, later, hfirst, hlater, rfl⟩ := mapM_column_cons_eq_ok_iff.mp hdeclared
      obtain ⟨column', hcolumn, htightens, hsame⟩ := column_withNulls hfirst hentry
      obtain ⟨columns, hcolumns, htighten, hsame'⟩ := ih hlater
      refine ⟨column' :: columns, mapM_column_cons_eq_ok_iff.mpr ⟨_, _, hcolumn, hcolumns, rfl⟩,
        .cons htightens htighten, ?_⟩
      rw [List.cons.injEq, List.forall₂_cons, hsame, hsame']

/-! ## The column list -/

/-- The columns that the fields of a configuration declare. -/
def columnList (fields : Fields) : Except Fault (List (Column Value)) := do
  (← optionalItems fields "column").mapM column

/-- A list of columns is declared entry by entry. -/
theorem columnList_of_list {fields : Fields} {entries : List Value}
    (h : Value.lookup? fields "column" = some (.list entries)) :
    columnList fields = entries.mapM column := by
  have hitems : optionalItems fields "column" = .ok entries := by
    unfold optionalItems present?
    rw [h]
    cases entries <;> rfl
  rw [columnList, hitems]
  rfl

/-- A column list is added, or is the same, or null fields are added to its entries. -/
theorem Restated.columns_cases {mayBeAdded : Prop} {names : List String}
    {said restated : Option Value}
    (h : Restated mayBeAdded (ColumnsWithNulls names) said restated) :
    Restated mayBeAdded Eq said restated ∨ ∃ entries extended, said = some (.list entries) ∧
      restated = some (.list extended) ∧
      List.Forall₂ (ColumnWithNulls names) entries extended := by
  cases h with
  | omitted => exact .inl .omitted
  | added h => exact .inl (.added h)
  | kept h =>
      cases h with
      | same value => exact .inl (.kept rfl)
      | list h => exact .inr ⟨_, _, rfl, rfl, h⟩

/-- Null fields leave the columns as they are, except for the nullability. -/
theorem columnList_withNulls {fields extended : Fields} {declared : List (Column Value)}
    (hdeclared : columnList fields = .ok declared)
    (h : Restated ("column" ∈ optionalFields) (ColumnsWithNulls optionalColumnFields)
      (Value.lookup? fields "column") (Value.lookup? extended "column")) :
    ∃ columns, columnList extended = .ok columns ∧ List.Forall₂ Tightens columns declared ∧
      (columns = declared ↔
        Restated ("column" ∈ optionalFields) (ColumnsWithNulls ["type", "comment"])
          (Value.lookup? fields "column") (Value.lookup? extended "column")) := by
  rcases h.columns_cases with hsame | ⟨entries, extendedEntries, hsaid, hrestated, hentries⟩
  · refine ⟨declared, ?_, List.forall₂_same.mpr fun _ _ => .inl rfl, iff_of_true rfl ?_⟩
    · rw [← hdeclared, columnList, optionalItems_restated hsame, columnList]
    · refine hsame.imp fun value value' heq => ?_
      rw [heq]
      exact .same value'
  · rw [columnList_of_list hsaid] at hdeclared
    rw [columnList_of_list hrestated, hsaid, hrestated]
    obtain ⟨columns, hcolumns, htighten, hsame⟩ := mapM_column_withNulls hdeclared hentries
    refine ⟨columns, hcolumns, htighten, hsame.trans ⟨fun hfree => .kept (.list hfree), ?_⟩⟩
    rintro (_ | _ | hkept)
    cases hkept with
    | same _ =>
        rw [← hsame]
        exact Except.ok.inj (hcolumns.symm.trans hdeclared)
    | list hfree => exact hfree

/-! ## Descriptions -/

/-- What the fields of a configuration say about a description, field by field. -/
structure Declares (fields : Fields) (d : TableSpec Value) : Prop where
  columns : columnList fields = .ok d.columns
  catalog : required fields "catalog_name" = .ok d.catalog
  schema : required fields "schema_name" = .ok d.schema
  table : required fields "name" = .ok d.table
  type : (required fields "table_type" >>= tableType) = .ok d.type
  partitions : optionalItems fields "partitions" = .ok d.partitions
  clusterKeys : optionalItems fields "cluster_keys" = .ok d.clusterKeys
  properties : optionalPairs fields "properties" = .ok d.properties
  options : optionalPairs fields "options" = .ok d.options
  format : optional fields "data_source_format" = d.format
  location : optional fields "storage_location" = d.location
  credential : optional fields "storage_credential_name" = d.credential
  viewDefinition : optional fields "view_definition" = d.viewDefinition
  comment : optional fields "comment" = d.comment
  owner : (Value.lookup? fields "owner").getD .null = d.owner

/-- Results that follow each other are results when each of them is. -/
theorem bind_eq_ok_iff {ε α β : Type} {x : Except ε α} {f : α → Except ε β} {b : β} :
    x >>= f = .ok b ↔ ∃ a, x = .ok a ∧ f a = .ok b := by
  cases x <;> simp [bind, Except.bind]

/-- A description is declared by its fields. -/
theorem fromFields_eq_ok_iff {fields : Fields} {d : TableSpec Value} :
    fromFields fields = .ok d ↔ Declares fields d := by
  unfold fromFields
  simp only [bind_eq_ok_iff, pure, Except.pure, Except.ok.injEq]
  constructor
  · rintro ⟨entries, hentries, columns, hcolumns, catalog, hcatalog, schema, hschema, table, htable,
      named, hnamed, type, htype, partitions, hpartitions, clusterKeys, hclusterKeys,
      properties, hproperties, options, hoptions, rfl⟩
    exact {
      columns := bind_eq_ok_iff.mpr ⟨entries, hentries, hcolumns⟩
      catalog := hcatalog
      schema := hschema
      table := htable
      type := bind_eq_ok_iff.mpr ⟨named, hnamed, htype⟩
      partitions := hpartitions
      clusterKeys := hclusterKeys
      properties := hproperties
      options := hoptions
      format := rfl
      location := rfl
      credential := rfl
      viewDefinition := rfl
      comment := rfl
      owner := rfl }
  · intro h
    obtain ⟨entries, hentries, hcolumns⟩ := bind_eq_ok_iff.mp h.columns
    obtain ⟨named, hnamed, htype⟩ := bind_eq_ok_iff.mp h.type
    refine ⟨entries, hentries, _, hcolumns, _, h.catalog, _, h.schema, _, h.table, named, hnamed, _,
      htype, _, h.partitions, _, h.clusterKeys, _, h.properties, _, h.options, ?_⟩
    rw [h.format, h.location, h.credential, h.viewDefinition, h.comment, h.owner]

/-- A configuration declares a valid description. -/
theorem table_eq_ok_iff {fields : Fields} {d : TableSpec Value} :
    table (.mapping fields) = .ok d ↔ Declares fields d ∧ d.violation? = none := by
  simp only [table, bind_eq_ok_iff, ← fromFields_eq_ok_iff]
  constructor
  · rintro ⟨declared, hfields, hvalidated⟩
    unfold TableSpec.validated at hvalidated
    split at hvalidated
    next => cases hvalidated
    next hvalid =>
      cases hvalidated
      exact ⟨hfields, hvalid⟩
  · rintro ⟨hfields, hvalid⟩
    refine ⟨d, hfields, ?_⟩
    rw [TableSpec.validated, hvalid]
    rfl

/-- Columns of the same names break the same constraint. -/
theorem violation?_of_columns {d : TableSpec Value} {columns : List (Column Value)}
    (h : columns.map Column.name = d.columnNames) :
    ({ d with columns } : TableSpec Value).violation? = d.violation? := by
  have hnames : ({ d with columns } : TableSpec Value).columnNames = d.columnNames := h
  unfold TableSpec.violation? TableSpec.columnFault?
  rw [hnames]
  rfl

/-- Tightening keeps the names of columns. -/
theorem map_name_of_tightens {columns declared : List (Column Value)}
    (h : List.Forall₂ Tightens columns declared) :
    columns.map Column.name = declared.map Column.name := by
  induction h with
  | nil => rfl
  | cons h _ ih =>
      rw [List.map_cons, List.map_cons, ih]
      rcases h with rfl | ⟨-, rfl⟩ <;> rfl

/-- Null fields, other than those of columns, leave a description as it is. -/
theorem Declares.withNulls {fields extended : Fields} {d : TableSpec Value}
    {columns : List (Column Value)} (h : Declares fields d)
    (hothers : ∀ field, field ≠ "column" → Restated (field ∈ optionalFields) Eq
      (Value.lookup? fields field) (Value.lookup? extended field))
    (hcolumns : columnList extended = .ok columns) : Declares extended { d with columns } where
  columns := hcolumns
  catalog := (required_restated (by decide) (hothers _ (by decide))).trans h.catalog
  schema := (required_restated (by decide) (hothers _ (by decide))).trans h.schema
  table := (required_restated (by decide) (hothers _ (by decide))).trans h.table
  type := by rw [required_restated (by decide) (hothers _ (by decide)), h.type]
  partitions := (optionalItems_restated (hothers _ (by decide))).trans h.partitions
  clusterKeys := (optionalItems_restated (hothers _ (by decide))).trans h.clusterKeys
  properties := (optionalPairs_restated (hothers _ (by decide))).trans h.properties
  options := (optionalPairs_restated (hothers _ (by decide))).trans h.options
  format := (optional_restated (hothers _ (by decide))).trans h.format
  location := (optional_restated (hothers _ (by decide))).trans h.location
  credential := (optional_restated (hothers _ (by decide))).trans h.credential
  viewDefinition := (optional_restated (hothers _ (by decide))).trans h.viewDefinition
  comment := (optional_restated (hothers _ (by decide))).trans h.comment
  owner := by
    -- an owner that is left out is null already
    rw [← h.owner]
    rcases (hothers "owner" (by decide)).eq_or_added with hsame | ⟨-, hsaid, hrestated⟩
    · rw [hsame]
    · rw [hsaid, hrestated]
      rfl

/-- **Null means left out, except for a nullability.** Let a configuration declare a description,
and let another one state as null some optional fields that the first leaves out, at the top or in
any entries of the column list.

* It declares the same description, except that some of the columns that may hold no value may do so
  no longer.
* It declares the very same description if and only if no nullability is among the fields that are
  added. -/
theorem table_withNulls {config extended : Value} {d : TableSpec Value}
    (hdeclared : table config = .ok d) (h : WithNulls optionalColumnFields config extended) :
    (∃ columns, table extended = .ok { d with columns } ∧
      List.Forall₂ Tightens columns d.columns) ∧
    (table extended = .ok d ↔ WithNulls ["type", "comment"] config extended) := by
  obtain @⟨fields, extended, hcolumns, hothers⟩ := h
  obtain ⟨hfields, hvalid⟩ := table_eq_ok_iff.mp hdeclared
  obtain ⟨columns, hextended, htighten, hsame⟩ := columnList_withNulls hfields.columns hcolumns
  have htable : table (.mapping extended) = .ok { d with columns } := by
    refine table_eq_ok_iff.mpr ⟨hfields.withNulls hothers hextended, ?_⟩
    rw [violation?_of_columns (map_name_of_tightens htighten), hvalid]
  refine ⟨⟨columns, htable, htighten⟩, ?_⟩
  rw [htable, Except.ok.injEq]
  have hcolumnsSame : { d with columns } = d ↔ columns = d.columns :=
    ⟨fun h => congrArg TableSpec.columns h, fun h => by rw [h]⟩
  rw [hcolumnsSame, hsame]
  refine ⟨fun hfree => .intro hfree hothers, ?_⟩
  rintro ⟨hfree, -⟩
  exact hfree

/-! ## A table with one column -/

/-- Null fields with some names. -/
def nulls (names : List String) : Fields :=
  names.map fun name => (.text name, .null)

/-- A field is found in its entry. -/
theorem lookup?_cons (name : String) (value : Value) (later : Fields) (field : String) :
    Value.lookup? ((.text name, value) :: later) field =
      if field = name then some value else Value.lookup? later field := by
  unfold Value.lookup?
  rw [List.find?_cons, Scalar.sameKey_text]
  by_cases hname : field = name
  · simp [hname]
  · rw [beq_false_of_ne hname, if_neg hname]

/-- What null fields say. -/
theorem lookup?_nulls (names : List String) (field : String) :
    Value.lookup? (nulls names) field = if field ∈ names then some .null else none := by
  induction names with
  | nil => rfl
  | cons name names ih =>
      have hcons : nulls (name :: names) = (.text name, .null) :: nulls names := rfl
      rw [hcons, lookup?_cons, ih]
      by_cases hname : field = name <;> simp [hname]

/-- Fields that come first are found first. -/
theorem lookup?_append (fields more : Fields) (field : String) :
    Value.lookup? (fields ++ more) field =
      (Value.lookup? fields field).or (Value.lookup? more field) := by
  unfold Value.lookup?
  rw [List.find?_append, Option.map_or]

/-- Null fields may be added at the end. -/
theorem restated_append_nulls {names optional : List String} (h : ∀ name ∈ names, name ∈ optional)
    (fields : Fields) (field : String) :
    Restated (field ∈ optional) Eq (Value.lookup? fields field)
      (Value.lookup? (fields ++ nulls names) field) := by
  rw [lookup?_append, lookup?_nulls]
  cases Value.lookup? fields field with
  | some value => exact .kept rfl
  | none =>
      by_cases hmem : field ∈ names
      · rw [if_pos hmem]
        exact .added (h field hmem)
      · rw [if_neg hmem]
        exact .omitted

/-- The configuration of a table with one column, and with some fields more. -/
def orders (column more : Fields) : Value :=
  .mapping ([(.text "column", .list [.mapping column]), (.text "catalog_name", .text "main"),
    (.text "schema_name", .text "sales"), (.text "name", .text "orders"),
    (.text "table_type", .text "MANAGED")] ++ more)

/-- Null fields may be added to the table and to its column. -/
theorem withNulls_orders {names : List String} (column : Fields) {columnNames : List String}
    (hcolumn : ∀ name ∈ columnNames, name ∈ names) {tableNames : List String}
    (htable : ∀ name ∈ tableNames, name ∈ optionalFields) :
    WithNulls names (orders column [])
      (orders (column ++ nulls columnNames) (nulls tableNames)) := by
  refine .intro ?_ fun field hfield => ?_
  · exact .kept (.list (.cons (.intro (restated_append_nulls hcolumn column)) .nil))
  · rw [List.append_nil, List.cons_append, lookup?_cons, if_neg hfield, lookup?_cons _ _ (_ ++ _),
      if_neg hfield]
    exact restated_append_nulls htable _ field

/-- The column that is nothing but a name. -/
def named : Fields :=
  [(.text "name", .text "id")]

/-- The description of the table whose column is nothing but a name. -/
def described (nullable : Bool) : TableSpec Value where
  catalog := .text "main"
  schema := .text "sales"
  table := .text "orders"
  type := .supported .managed
  format := .text ""
  columns := [⟨.text "id", "", .text "", nullable⟩]
  location := .text ""
  credential := .text ""
  viewDefinition := .text ""
  comment := .text ""

/-- All that was left out is null, apart from the nullability: nothing changes. -/
theorem table_withNulls_of_unstated :
    table (orders named []) = .ok (described true) ∧
      table (orders (named ++ nulls ["type", "comment"]) (nulls optionalFields)) =
        .ok (described true) := by
  have hdeclared : table (orders named []) = .ok (described true) := rfl
  refine ⟨hdeclared, (table_withNulls hdeclared ?_).2.mpr ?_⟩
  · exact withNulls_orders named (by decide) (fun _ h => h)
  · exact withNulls_orders named (fun _ h => h) (fun _ h => h)

/-- The nullability alone is null.  The table is described otherwise than without it, and where the
column is there already, without a comment and with room for the absence of a value, an update has a
statement for it. -/
theorem table_withNulls_of_nullable :
    let stated := orders (named ++ nulls ["nullable"]) []
    let previous : TableSpec := .ofColumns [⟨"id", "", "", true⟩]
    WithNulls optionalColumnFields (orders named []) stated ∧
      table (orders named []) = .ok (described true) ∧ table stated = .ok (described false) ∧
      Plan.script .default ((described true).reconcile .default previous) previous = .ok [] ∧
      Plan.script .default ((described false).reconcile .default previous) previous =
        .ok ["ALTER TABLE `main`.`sales`.`orders` ALTER COLUMN `id` SET NOT NULL"] :=
  ⟨withNulls_orders named (by decide) (List.forall_mem_nil _), rfl, rfl, by decide +kernel,
    by decide +kernel⟩

end TableReconciler.Config
