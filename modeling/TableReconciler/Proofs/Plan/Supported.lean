import TableReconciler.Ddl.Create
import TableReconciler.Plan

/-!
# Statements for supported types

The plan of a description fails for an unsupported table type only, because a statement has no word
for the object then; so does the statement that creates it.  For a supported type the plan is a list
of statements that is known beforehand: `statements_of_supported` says which, aspect by aspect, and
`script_eq_nil_iff` when it is empty.

The descriptions hold texts here, and two texts differ exactly when they are not equal.
-/

namespace TableReconciler

/-- Statements have a word for an object of a supported type. -/
theorem TableSpec.kind_of_supported {τ : Type} {d : TableSpec τ} {type : TableType}
    (h : d.type = .supported type) : d.kind = .ok type.kind := by
  simp only [TableSpec.kind, h]

/-- An object of a supported type can be created. -/
theorem TableSpec.createStatement_of_supported (managed : ManagedKeys) {d : TableSpec}
    {type : TableType} (h : d.type = .supported type) :
    d.createStatement managed = .ok (d.createText managed type.kind) := by
  unfold TableSpec.createStatement
  rw [TableSpec.kind_of_supported h, TableSpec.plain_string]
  rfl

namespace Plan

variable (managed : ManagedKeys) (kind : ObjectKind) (desired previous : TableSpec)

/-! ## Aspects -/

/-- The statements on the comment of an object of a given kind. -/
def commentFor : List Statement :=
  if desired.comment = previous.comment then []
  else [.commentOn kind desired.name desired.comment]

/-- The statements on the properties of an object of a given kind. -/
def propertiesFor : List Statement :=
  if desired.properties.equivalent previous.properties then []
  else propertyChanges managed kind desired.name desired.properties previous.properties

/-- The statements on the columns of an object of a given kind. -/
def columnsFor : List Statement :=
  (ColumnChange.between desired.columns previous.columns).map (.alterColumns kind desired.name)

variable {desired} {type : TableType}

/-- The comment of an object of a supported type can be changed. -/
theorem comment_of_supported (h : desired.type = .supported type) :
    Plan.comment desired previous = .ok (commentFor type.kind desired previous) := by
  unfold Plan.comment commentFor
  simp only [Entry.text?_string, Option.some.injEq]
  split
  · rfl
  · rw [TableSpec.kind_of_supported h]
    rfl

/-- The properties of an object of a supported type can be changed. -/
theorem properties_of_supported (h : desired.type = .supported type) :
    Plan.properties managed desired previous =
      .ok (propertiesFor managed type.kind desired previous) := by
  unfold Plan.properties propertiesFor
  split
  · rfl
  · rw [TableSpec.kind_of_supported h]
    rfl

/-- The columns of an object of a supported type can be changed. -/
theorem columns_of_supported (h : desired.type = .supported type) :
    Plan.columns desired previous = .ok (columnsFor type.kind desired previous) := by
  unfold Plan.columns columnsFor
  split
  next hempty =>
    simp only [Bool.and_eq_true, List.isEmpty_iff] at hempty
    rw [hempty.1, hempty.2]
    rfl
  next =>
    rw [TableSpec.kind_of_supported h]
    rfl

/-- The changes of columns that are planned are those for the kind of the object. -/
theorem columnsFor_eq_of_columns (h : desired.type = .supported type) {statements : List Statement}
    (hplan : Plan.columns desired previous = .ok statements) :
    columnsFor type.kind desired previous = statements :=
  Except.ok.inj ((columns_of_supported previous h).symm.trans hplan)

/-! ## The whole plan -/

/-- For a supported type all statements can be written. -/
theorem statements_of_supported (h : desired.type = .supported type) :
    Plan.statements managed desired previous =
      .ok (kindSpecific desired previous ++ commentFor type.kind desired previous ++
        propertiesFor managed type.kind desired previous ++
        columnsFor type.kind desired previous) := by
  unfold Plan.statements
  rw [comment_of_supported _ h, properties_of_supported _ _ h, columns_of_supported _ h]
  rfl

/-- The texts of statements that can be written. -/
theorem script_of_statements {managed : ManagedKeys} {previous : TableSpec}
    {statements : List Statement} (h : Plan.statements managed desired previous = .ok statements) :
    Plan.script managed desired previous = .ok (statements.map Statement.render) := by
  unfold Plan.script
  rw [h]
  exact congrArg (Except.mapError StatementFault.entry) (texts_string statements)

/-- For a supported type the plan is empty exactly when no aspect needs a statement. -/
theorem script_eq_nil_iff (h : desired.type = .supported type) :
    Plan.script managed desired previous = .ok [] ↔
      kindSpecific desired previous = [] ∧ commentFor type.kind desired previous = [] ∧
        propertiesFor managed type.kind desired previous = [] ∧
        columnsFor type.kind desired previous = [] := by
  rw [script_of_statements (statements_of_supported _ _ h)]
  simp only [Except.ok.injEq, List.map_eq_nil_iff, List.append_eq_nil_iff, and_assoc]

end Plan

end TableReconciler
