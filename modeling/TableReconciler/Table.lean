import TableReconciler.Entry
import TableReconciler.PropertyMap
import TableReconciler.QualifiedName

/-!
# Tables and views

Declarative descriptions of catalog objects, and the constraints a description has to meet.

A description holds texts, unless another type of entries is stated: one from a configuration holds
whatever the configuration says.  A description may carry a table type that the catalog does not
support.  Such an object is no view, and no statement that names its kind can be written for it.
-/

namespace TableReconciler

/-! ## Kinds and types -/

/-- What a statement calls an object. -/
inductive ObjectKind where
  /-- A table. -/
  | table
  /-- A view. -/
  | view
  deriving DecidableEq, Repr

/-- The word for a kind of object in statements. -/
def ObjectKind.keyword : ObjectKind → String
  | .table => "TABLE"
  | .view => "VIEW"

/-- The table types of the catalog. -/
inductive TableType where
  /-- A table whose files the catalog manages. -/
  | managed
  /-- A table over files kept elsewhere. -/
  | external
  /-- A view. -/
  | view
  deriving DecidableEq, Repr

namespace TableType

/-- The name of a table type. -/
def name : TableType → String
  | .managed => "MANAGED"
  | .external => "EXTERNAL"
  | .view => "VIEW"

/-- The table type with a given name. -/
def ofName? (text : String) : Option TableType :=
  [managed, external, view].find? (·.name == text)

/-- What statements call an object of this type. -/
def kind : TableType → ObjectKind
  | .view => .view
  | _ => .table

end TableType

/-- The type a description states. -/
inductive DeclaredType where
  /-- One of the types of the catalog. -/
  | supported (type : TableType)
  /-- Any other text. -/
  | unsupported (text : String)
  deriving DecidableEq, Repr

namespace DeclaredType

/-- The type that a text states. -/
def ofText (text : String) : DeclaredType :=
  match TableType.ofName? text with
  | some type => .supported type
  | none => .unsupported text

/-- The text of a stated type. -/
def text : DeclaredType → String
  | .supported type => type.name
  | .unsupported text => text

end DeclaredType

/-- A text that names no table type. -/
structure UnknownTableType where
  /-- The code points of the text. -/
  text : List Text.CodePoint
  deriving DecidableEq, Repr

/-- The wording of the fault. -/
def UnknownTableType.message (fault : UnknownTableType) : String :=
  Text.quotedPoints fault.text ++ " is not a valid TableType"

/-! ## Columns -/

/-- A column; the order in the table is the physical order. -/
structure Column (τ : Type := String) where
  /-- The name. -/
  name : τ
  /-- The type, as it is written in statements. -/
  type : String
  /-- The comment; empty for none. -/
  comment : τ
  /-- Whether the column may hold no value. -/
  nullable : Bool := true
  deriving DecidableEq, Repr

namespace Column

variable {τ : Type} [Entry τ]

/-- A column of texts among columns of other entries. -/
def ofTexts (column : Column) : Column τ where
  name := Entry.ofText column.name
  type := column.type
  comment := Entry.ofText column.comment
  nullable := column.nullable

/-- The column as statements define it: its comment is escaped there. -/
def plain (column : Column τ) : Except EntryFault Column := do
  let comment ← Entry.escapable column.comment
  return { name := Entry.display column.name, type := column.type, comment
           nullable := column.nullable }

@[simp] theorem ofTexts_string (column : Column) : (ofTexts column : Column) = column := rfl

@[simp] theorem plain_string (column : Column) : column.plain = .ok column := by
  simp [plain, pure, Except.pure, bind, Except.bind]

end Column

/-! ## Descriptions -/

/-- A description of one table or view. -/
structure TableSpec (τ : Type := String) where
  /-- The catalog of the object. -/
  catalog : τ
  /-- The schema within the catalog. -/
  schema : τ
  /-- The table or view within the schema. -/
  table : τ
  /-- The type the description states. -/
  type : DeclaredType
  /-- The data format of a table; empty for views. -/
  format : τ
  /-- The columns in physical order. -/
  columns : List (Column τ) := []
  /-- The columns a table is partitioned by. -/
  partitions : List τ := []
  /-- The columns a table is clustered by. -/
  clusterKeys : List τ := []
  /-- Where the files of a table are; empty for none. -/
  location : τ
  /-- The credential for the location; empty for none. -/
  credential : τ
  /-- The query of a view; empty for tables. -/
  viewDefinition : τ
  /-- The comment; empty for none. -/
  comment : τ
  /-- The table properties, which updates compare. -/
  properties : PropertyMap := .empty
  /-- The options, which are written once at creation and never compared. -/
  options : PropertyMap := .empty
  /-- The owner: not managed when null, the current user when otherwise empty. -/
  owner : Value := .null
  deriving DecidableEq

/-- How a description breaks the constraints. -/
inductive InvalidTable where
  /-- It states partitions and cluster keys. -/
  | partitionsAndClusterKeys (name : QualifiedName)
  /-- It is a view with a storage location. -/
  | viewWithLocation (name : QualifiedName)
  /-- It is no view but has a view definition. -/
  | definitionWithoutView (name : QualifiedName)
  /-- Two columns have the same name. -/
  | duplicateColumns (name : QualifiedName) (columns : List Value)
  /-- The name of a column is a list or a mapping. -/
  | compositeColumnName
  deriving DecidableEq, Repr

/-- The wording of a broken constraint; a name of the wrong shape has none. -/
def InvalidTable.message? : InvalidTable → Option String
  | .partitionsAndClusterKeys name =>
      some (name.format ++ ": partitions and cluster_keys are mutually exclusive.")
  | .viewWithLocation name => some (name.format ++ ": a view cannot have a storage location.")
  | .definitionWithoutView name =>
      some (name.format ++ ": only a view can have a view definition.")
  | .duplicateColumns name columns =>
      some (name.format ++ ": duplicate column names in " ++ (Value.list columns).shown ++ ".")
  | .compositeColumnName => none

namespace TableSpec

variable {τ : Type} [Entry τ]

/-- The name of the object. -/
def name (d : TableSpec τ) : QualifiedName :=
  ⟨Entry.display d.catalog, Entry.display d.schema, Entry.display d.table⟩

/-- The code points of the full name, which is the name's three parts with dots between them. -/
def fullName (d : TableSpec τ) : List Text.CodePoint :=
  List.intercalate [.char '.']
    [Entry.wording d.catalog, Entry.wording d.schema, Entry.wording d.table]

/-- The full name is written as the parts of the name with dots between them. -/
@[simp] theorem written_fullName (d : TableSpec τ) : Text.written d.fullName = d.name.format := by
  have hpoints : d.fullName = Entry.wording d.catalog ++ ([.char '.'] ++
      (Entry.wording d.schema ++ ([.char '.'] ++ Entry.wording d.table))) := by
    simp [fullName, List.intercalate]
  have hformat : d.name.format = Entry.display d.catalog ++ "." ++ Entry.display d.schema ++ "." ++
      Entry.display d.table := rfl
  have hdot : Text.written [.char '.'] = "." := rfl
  simp only [hpoints, hformat, Text.written_append, hdot, Entry.written_wording,
    String.append_assoc]

/-- Whether the object is a view. -/
def isView (d : TableSpec τ) : Bool :=
  d.type == .supported .view

/-- What statements call the object. -/
def kind (d : TableSpec τ) : Except UnknownTableType ObjectKind :=
  match d.type with
  | .supported type => .ok type.kind
  | .unsupported text => .error ⟨Text.codePoints text⟩

/-- The names of the columns in order. -/
def columnNames (d : TableSpec τ) : List τ :=
  d.columns.map Column.name

/-! ### Constraints -/

/-- The constraints on a description. -/
structure Valid (d : TableSpec) : Prop where
  /-- Partitions and cluster keys exclude each other. -/
  layout : d.partitions = [] ∨ d.clusterKeys = []
  /-- A view has no storage location. -/
  location : d.isView = true → d.location = ""
  /-- Only a view has a view definition. -/
  definition : d.isView = false → d.viewDefinition = ""
  /-- Column names are unique. -/
  columns_nodup : d.columnNames.Nodup

/-- The fault of column names, if they are not unique. -/
def columnFault? (d : TableSpec τ) : Option InvalidTable :=
  match d.columnNames.mapM Entry.key? with
  | none => some .compositeColumnName
  | some keys =>
      if Scalar.repeated keys then
        some (.duplicateColumns d.name (d.columnNames.map Entry.value))
      else none

/-- The first constraint that a description breaks. -/
def violation? (d : TableSpec τ) : Option InvalidTable :=
  if !d.partitions.isEmpty && !d.clusterKeys.isEmpty then some (.partitionsAndClusterKeys d.name)
  else if d.isView && !Entry.isEmpty d.location then some (.viewWithLocation d.name)
  else if !d.isView && !Entry.isEmpty d.viewDefinition then some (.definitionWithoutView d.name)
  else d.columnFault?

/-- Accept a description that meets the constraints. -/
def validated (d : TableSpec τ) : Except InvalidTable (TableSpec τ) :=
  match d.violation? with
  | some fault => .error fault
  | none => .ok d

/-- Columns with texts for names have no fault exactly when the names are unique. -/
theorem columnFault?_eq_none_iff {d : TableSpec} :
    d.columnFault? = none ↔ d.columnNames.Nodup := by
  have h : ∀ names : List String, names.mapM Entry.key? = some (names.map Scalar.text) := by
    intro names
    induction names with
    | nil => rfl
    | cons name rest ih => simp [List.mapM_cons, ih]
  simp only [columnFault?, h, ← Scalar.repeated_map_text]
  split <;> simp_all

/-- A description breaks no constraint exactly when it is valid. -/
theorem violation?_eq_none_iff {d : TableSpec} : d.violation? = none ↔ d.Valid := by
  constructor
  · intro h
    unfold violation? at h
    split at h
    · cases h
    split at h
    · cases h
    split at h
    · cases h
    next h₁ h₂ h₃ =>
      refine ⟨?_, ?_, ?_, columnFault?_eq_none_iff.mp h⟩ <;> simp_all
      · exact Decidable.or_iff_not_imp_left.mpr h₁
  · intro h
    have hl := h.layout
    have hv := h.location
    have hd := h.definition
    have hc := columnFault?_eq_none_iff.mpr h.columns_nodup
    unfold violation?
    rcases hl with hl | hl <;> cases hview : d.isView <;> simp_all

/-- A description that meets the constraints is accepted. -/
theorem validated_of_valid {d : TableSpec} (h : d.Valid) : d.validated = .ok d := by
  rw [validated, violation?_eq_none_iff.mpr h]

/-! ### Texts -/

/-- The description as statements write it: texts that are escaped or joined have to be texts, and
all else is written as it reads. -/
def plain (d : TableSpec τ) : Except EntryFault TableSpec := do
  let columns ← d.columns.mapM Column.plain
  let partitions ← Entry.joinable d.partitions
  let clusterKeys ← Entry.joinable d.clusterKeys
  let comment ← Entry.escapable d.comment
  return { d with
    catalog := Entry.display d.catalog
    schema := Entry.display d.schema
    table := Entry.display d.table
    format := Entry.display d.format
    columns, partitions, clusterKeys
    location := Entry.display d.location
    credential := Entry.display d.credential
    viewDefinition := Entry.display d.viewDefinition
    comment }

@[simp] theorem plain_string (d : TableSpec) : d.plain = .ok d := by
  have h : ∀ columns : List Column, columns.mapM Column.plain = .ok columns := by
    intro columns
    induction columns with
    | nil => rfl
    | cons column rest ih => simp [List.mapM_cons, ih, pure, Except.pure, bind, Except.bind]
  simp [plain, h, pure, Except.pure, bind, Except.bind]

end TableSpec

end TableReconciler
