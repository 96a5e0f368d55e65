import TableReconciler.ManagedKeys
import TableReconciler.Plan.Columns

/-!
# Plans

The statements that lead from a previous description of an object to the desired one, in the order
in which they are executed: the view query, or the location and the cluster keys; then the comment
and the properties; then the columns.  Options are written at creation only and not compared.

A statement that names the kind of the object cannot be written for an unsupported table type; the
plan fails then, but only if such a statement is needed.  The previous description is one from the
catalog and holds texts; an entry that is no text differs from every text.
-/

namespace TableReconciler.Plan

variable {τ : Type} [Entry τ]

/-! ## Aspects -/

/-- The statements that change the query of a view. -/
def viewDefinition (desired : TableSpec τ) (previous : TableSpec) : List (Statement τ) :=
  if Entry.text? desired.viewDefinition = some previous.viewDefinition then []
  else [.alterViewQuery desired.name desired.viewDefinition]

/-- The statements that change the location of a table. -/
def location (desired : TableSpec τ) (previous : TableSpec) : List (Statement τ) :=
  if Entry.text? desired.location = some previous.location then []
  else [.setLocation desired.name desired.location desired.credential]

/-- The statements that change the cluster keys of a table, whose order matters. -/
def clusterKeys (desired : TableSpec τ) (previous : TableSpec) : List (Statement τ) :=
  if desired.clusterKeys.map Entry.text? = previous.clusterKeys.map some then []
  else [.clusterBy desired.name desired.clusterKeys]

/-- The statements that concern only views, or only tables. -/
def kindSpecific (desired : TableSpec τ) (previous : TableSpec) : List (Statement τ) :=
  if desired.isView then viewDefinition desired previous
  else location desired previous ++ clusterKeys desired previous

/-- The statements that change the comment. -/
def comment (desired : TableSpec τ) (previous : TableSpec) :
    Except UnknownTableType (List (Statement τ)) :=
  if Entry.text? desired.comment = some previous.comment then .ok []
  else do return [.commentOn (← desired.kind) desired.name desired.comment]

/-- The property keys to remove: those that only the previous description has and that the catalog
does not manage. -/
def removedKeys (managed : ManagedKeys) (desired previous : PropertyMap) : List String :=
  previous.keys.filter fun key => !desired.contains key && !managed.manages key

/-- The statements that change the properties of two maps that differ: one that removes keys, one
that writes every property the user controls; each is left out when it has nothing to say. -/
def propertyChanges (managed : ManagedKeys) (kind : ObjectKind) (name : QualifiedName)
    (desired previous : PropertyMap) : List (Statement τ) :=
  let removed := removedKeys managed desired previous
  let written := managed.unmanaged desired
  (if removed.isEmpty then [] else [.unsetProperties kind name removed]) ++
    if written.isEmpty then [] else [.setProperties kind name written]

/-- The statements that change the properties.  The order of the pairs does not matter. -/
def properties (managed : ManagedKeys) (desired : TableSpec τ) (previous : TableSpec) :
    Except UnknownTableType (List (Statement τ)) :=
  if desired.properties.equivalent previous.properties then .ok []
  else do
    return propertyChanges managed (← desired.kind) desired.name
      desired.properties previous.properties

/-- The statements that change the columns.  Objects without columns need no kind. -/
def columns (desired : TableSpec τ) (previous : TableSpec) :
    Except UnknownTableType (List (Statement τ)) :=
  if desired.columns.isEmpty && previous.columns.isEmpty then .ok []
  else do
    let kind ← desired.kind
    return (ColumnChange.between desired.columns previous.columns).map
      (.alterColumns kind desired.name)

/-! ## The whole plan -/

/-- All statements, in order. -/
def statements (managed : ManagedKeys) (desired : TableSpec τ) (previous : TableSpec) :
    Except UnknownTableType (List (Statement τ)) := do
  let comment ← comment desired previous
  let properties ← properties managed desired previous
  let columns ← columns desired previous
  return kindSpecific desired previous ++ comment ++ properties ++ columns

/-- The texts of statements. -/
def texts (statements : List (Statement τ)) : Except EntryFault (List String) := do
  return (← statements.mapM Statement.plain).map Statement.render

/-- Statements that hold texts can be written. -/
@[simp] theorem texts_string (statements : List Statement) :
    texts statements = .ok (statements.map Statement.render) := by
  have h : statements.mapM Statement.plain = .ok statements := by
    induction statements with
    | nil => rfl
    | cons statement rest ih =>
        simp [List.mapM_cons, ih, pure, Except.pure, bind, Except.bind]
  simp [texts, h, pure, Except.pure, bind, Except.bind]

/-- The texts of all statements, in order. -/
def script (managed : ManagedKeys) (desired : TableSpec τ) (previous : TableSpec) :
    Except StatementFault (List String) := do
  let statements ← (statements managed desired previous).mapError .unknownType
  (texts statements).mapError .entry

end TableReconciler.Plan
