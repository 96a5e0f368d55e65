import TableReconciler.Table
import TableReconciler.Text.Case
import TableReconciler.Value

/-!
# Configurations

The description that a configuration value declares.  A field that is missing or empty takes its
default.  A field that has to be a text is kept whatever it is.  Types are written in lower case,
and the table type may be given in any case.
-/

namespace TableReconciler.Config

/-- How a configuration fails to declare a description. -/
inductive Fault where
  /-- A value that has to be a mapping is none. -/
  | notMapping
  /-- A value has the wrong shape for its place. -/
  | wrongShape
  /-- A required field is missing. -/
  | missing (field : String)
  /-- The table type is unknown. -/
  | unknownType (fault : UnknownTableType)
  /-- The description breaks a constraint. -/
  | invalid (fault : InvalidTable)
  deriving DecidableEq, Repr

/-- The wording of a fault; a wrong shape has none. -/
def Fault.message? : Fault → Option String
  | .notMapping => none
  | .wrongShape => none
  | .missing field => some (Text.quoted field)
  | .unknownType fault => some fault.message
  | .invalid fault => fault.message?

/-- The entries of a configuration. -/
abbrev Fields := List (Scalar × Value)

/-! ## Reading fields -/

/-- A required field. -/
def required (fields : Fields) (field : String) : Except Fault Value :=
  match Value.lookup? fields field with
  | some value => .ok value
  | none => .error (.missing field)

/-- The value of a field, if the field is there and not empty. -/
def present? (fields : Fields) (field : String) : Option Value :=
  (Value.lookup? fields field).filter fun value => !value.isEmpty

/-- The value of a field; the empty text when it is missing or empty. -/
def optional (fields : Fields) (field : String) : Value :=
  (present? fields field).getD (.text "")

/-- The items of a value: those of a list, the characters of a text, the keys of a mapping. -/
def items : Value → Except Fault (List Value)
  | .list items => .ok items
  | .mapping entries => .ok (entries.map fun entry => .scalar entry.1)
  | .scalar value =>
      match value.points? with
      | some points => .ok (points.map fun point => .ofPoints [point])
      | none => .error .wrongShape

/-- The items of a field; none when it is missing or empty. -/
def optionalItems (fields : Fields) (field : String) : Except Fault (List Value) :=
  match present? fields field with
  | some value => items value
  | none => .ok []

/-- A mapping with its keys and values turned into texts; empty when the field is missing or
empty. -/
def optionalPairs (fields : Fields) (field : String) : Except Fault PropertyMap :=
  match present? fields field with
  | none => .ok .empty
  | some (.mapping entries) =>
      .ok (.ofList (entries.map fun entry => (entry.1.display, entry.2.display)))
  | some _ => .error .notMapping

/-! ## Columns and tables -/

/-- The column that an entry of the column list declares.  Without a nullability a column may hold
no value. -/
def column : Value → Except Fault (Column Value)
  | .mapping fields => do
      let name ← required fields "name"
      let type := ((present? fields "type").map Value.display).getD ""
      let nullable := ((Value.lookup? fields "nullable").map fun value => !value.isEmpty).getD true
      return { name, type := Text.lower type, comment := optional fields "comment", nullable }
  | _ => .error .wrongShape

/-- The table type with a given name in any case. -/
def tableType (value : Value) : Except Fault DeclaredType :=
  let text := value.wording.flatMap Text.upperPoint
  match (Text.ofCodePoints? text).bind TableType.ofName? with
  | some type => .ok (.supported type)
  | none => .error (.unknownType ⟨text⟩)

/-- The description that the fields of a configuration declare, before its constraints are
checked. -/
def fromFields (fields : Fields) : Except Fault (TableSpec Value) := do
  let columns ← (← optionalItems fields "column").mapM column
  let catalog ← required fields "catalog_name"
  let schema ← required fields "schema_name"
  let table ← required fields "name"
  let type ← tableType (← required fields "table_type")
  let partitions ← optionalItems fields "partitions"
  let clusterKeys ← optionalItems fields "cluster_keys"
  let properties ← optionalPairs fields "properties"
  let options ← optionalPairs fields "options"
  return {
    catalog, schema, table, type, columns, partitions, clusterKeys, properties, options
    format := optional fields "data_source_format"
    location := optional fields "storage_location"
    credential := optional fields "storage_credential_name"
    viewDefinition := optional fields "view_definition"
    comment := optional fields "comment"
    owner := (Value.lookup? fields "owner").getD .null }

/-- The description that a configuration declares. -/
def table : Value → Except Fault (TableSpec Value)
  | .mapping fields => do
      let description ← fromFields fields
      description.validated.mapError .invalid
  | _ => .error .notMapping

end TableReconciler.Config
