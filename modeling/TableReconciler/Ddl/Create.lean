import TableReconciler.ManagedKeys
import TableReconciler.Ddl.Statement

/-!
# Creating and dropping

The one statement that creates an object from its description, clause by clause, and the one that
drops it.  Managed properties and options are left out of the statement.
-/

namespace TableReconciler.TableSpec

/-- A clause that is written when its content is not empty. -/
def clauseUnless (empty : Bool) (clause : String) : List String :=
  if empty then [] else [clause]

/-- The first clause: the kind of object, its name and its columns. -/
def createHead (d : TableSpec) (kind : ObjectKind) : String :=
  "CREATE " ++ (if d.type = .supported .external then "EXTERNAL " else "") ++ kind.keyword ++ " " ++
    d.name.quoted ++
    if d.columns.isEmpty then "" else " (" ++ Ddl.columnDefinitions d.columns ++ ")"

/-- The clauses that follow the first, in their fixed order. -/
def createTail (managed : ManagedKeys) (d : TableSpec) : List String :=
  let properties := managed.unmanaged d.properties
  let options := managed.unmanaged d.options
  clauseUnless (d.isView || d.format.isEmpty) ("USING " ++ d.format) ++
    clauseUnless d.partitions.isEmpty
      ("PARTITIONED BY (" ++ Ddl.commaSeparated d.partitions ++ ")") ++
    clauseUnless d.clusterKeys.isEmpty
      ("CLUSTER BY (" ++ Ddl.commaSeparated d.clusterKeys ++ ")") ++
    clauseUnless d.comment.isEmpty ("COMMENT " ++ Comment.literal d.comment) ++
    clauseUnless properties.isEmpty ("TBLPROPERTIES (" ++ Ddl.assignments properties ++ ")") ++
    clauseUnless options.isEmpty ("OPTIONS (" ++ Ddl.assignments options ++ ")") ++
    if d.isView then ["AS " ++ d.viewDefinition]
    else clauseUnless d.location.isEmpty (Ddl.location d.location d.credential)

/-- The text of the statement that creates an object. -/
def createText (managed : ManagedKeys) (d : TableSpec) (kind : ObjectKind) : String :=
  "\n".intercalate (d.createHead kind :: d.createTail managed) ++ ";"

variable {τ : Type} [Entry τ]

/-- The statement that creates the object. -/
def createStatement (managed : ManagedKeys) (d : TableSpec τ) : Except StatementFault String := do
  let kind ← d.kind.mapError .unknownType
  let plain ← d.plain.mapError .entry
  return plain.createText managed kind

/-- The statement that drops the object. -/
def dropStatement (d : TableSpec τ) : Except UnknownTableType String := do
  return Ddl.drop (← d.kind).keyword d.name.quoted

end TableReconciler.TableSpec
