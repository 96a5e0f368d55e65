import TableReconciler.Json.Reader
import TableReconciler.Table
import TableReconciler.Text.Case

/-!
# Catalog records

What the catalog reports about an object, and the description it amounts to.  Partition columns
come from the positions the columns carry, cluster keys from a property that holds a list of paths
as JSON.
-/

namespace TableReconciler.Catalog

/-- What the catalog reports about a column. -/
structure ColumnRecord where
  /-- The name. -/
  name : String
  /-- The type. -/
  type : Option String := none
  /-- Whether the column may hold no value. -/
  nullable : Option Bool := none
  /-- The comment. -/
  comment : Option String := none
  /-- The position among the partition columns. -/
  partitionIndex : Option Int := none
  deriving DecidableEq, Repr

/-- What the catalog reports about a table or view. -/
structure TableRecord where
  /-- The name. -/
  name : QualifiedName
  /-- The table type. -/
  type : Option String := none
  /-- The data format. -/
  format : Option String := none
  /-- The columns. -/
  columns : List ColumnRecord := []
  /-- The storage location. -/
  location : Option String := none
  /-- The credential for the location. -/
  credential : Option String := none
  /-- The query of a view. -/
  viewDefinition : Option String := none
  /-- The comment. -/
  comment : Option String := none
  /-- The table properties. -/
  properties : PropertyMap := .empty
  /-- The owner, null for none.  It is whatever was last set. -/
  owner : Value := .null
  deriving DecidableEq

/-- How a record fails to amount to a description. -/
inductive Fault where
  /-- The table type is not supported. -/
  | unsupportedType (text : String)
  /-- The property with the cluster keys holds JSON of the wrong shape. -/
  | clusterKeys
  /-- The property with the cluster keys holds what may be JSON but is not read. -/
  | json (fault : Json.Fault)
  /-- The description breaks a constraint. -/
  | invalid (fault : InvalidTable)
  deriving DecidableEq, Repr

/-- The wording of a fault; a wrong shape has none. -/
def Fault.message? : Fault → Option String
  | .unsupportedType text => some ("Unsupported table type: " ++ Text.quoted text)
  | .clusterKeys => none
  | .json fault => fault.message?
  | .invalid fault => fault.message?

/-- The column that a record describes.  A type is written in lower case. -/
def ColumnRecord.column (info : ColumnRecord) : Column where
  name := info.name
  type := Text.lower (info.type.getD "")
  comment := info.comment.getD ""
  nullable := info.nullable.getD true

/-- The names of the partition columns in the order of their positions; columns with the same
position keep their order. -/
def partitions (columns : List ColumnRecord) : List String :=
  let indexed := columns.filterMap fun info => info.partitionIndex.map (·, info.name)
  (indexed.mergeSort fun a b => decide (a.1 ≤ b.1)).map (·.2)

/-! ## Cluster keys -/

/-- The property that holds the cluster keys. -/
def clusteringProperty : String := "clusteringColumns"

/-- How many lists and objects may stand inside one another in that property. -/
def clusteringDepth : Nat := 988

/-- The key that an item of the list stands for: a path of texts with dots between them, or the
text of anything that is no list. -/
def clusterKey? : Value → Option String
  | .list path => (path.mapM Value.text?).map (".".intercalate ·)
  | value => some value.display

/-- The keys that a JSON value stands for.  A text counts as its characters and an object as its
keys; other values that are no list stand for none and are a fault. -/
def clusterKeysOf? : Value → Option (List String)
  | .list items => items.mapM clusterKey?
  | .mapping entries => some (entries.map fun entry => entry.1.display)
  | .scalar value => value.points?.map fun points => points.map fun point => Text.written [point]

/-- The cluster keys that the properties hold; none if the property is missing, empty or not
JSON. -/
def clusterKeys (properties : PropertyMap) : Except Fault (List String) :=
  match properties.find? clusteringProperty with
  | none => .ok []
  | some text =>
      if text.isEmpty then .ok []
      else
        match Json.read clusteringDepth text with
        | .error .malformed => .ok []
        | .error fault => .error (.json fault)
        | .ok value =>
            match clusterKeysOf? value with
            | some keys => .ok keys
            | none => .error .clusterKeys

/-! ## Descriptions -/

/-- The table type that a record states. -/
def TableRecord.tableType (info : TableRecord) : Except Fault TableType :=
  let text := info.type.getD ""
  match TableType.ofName? text with
  | some type => .ok type
  | none => .error (.unsupportedType text)

/-- The description that a record amounts to.  A view has no storage location, and only a view has
a view definition, whatever the record says. -/
def TableRecord.description (info : TableRecord) : Except Fault TableSpec := do
  let type ← info.tableType
  let clusterKeys ← clusterKeys info.properties
  let description : TableSpec := {
    catalog := info.name.catalog
    schema := info.name.schema
    table := info.name.table
    type := .supported type
    format := info.format.getD ""
    columns := info.columns.map ColumnRecord.column
    partitions := partitions info.columns
    clusterKeys
    location := if type = .view then "" else info.location.getD ""
    credential := info.credential.getD ""
    viewDefinition := if type = .view then info.viewDefinition.getD "" else ""
    comment := info.comment.getD ""
    properties := info.properties
    owner := info.owner }
  description.validated.mapError .invalid

end TableReconciler.Catalog
