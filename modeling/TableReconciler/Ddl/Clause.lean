import TableReconciler.Comment
import TableReconciler.Table

/-!
# Clauses

The texts that statements are made of.  They take the keyword of the object and its quoted name as
they are written, and decide nothing about when a statement is needed.
-/

namespace TableReconciler.Ddl

/-- Texts with commas between them. -/
def commaSeparated (texts : List String) : String :=
  ", ".intercalate texts

/-! ## Parts of statements -/

/-- The definition of a column: name, type, and where they apply the constraint and the comment. -/
def columnDefinition (column : Column) : String :=
  backQuoted column.name ++ " " ++ column.type ++
    (if column.nullable then "" else " NOT NULL") ++
    (if column.comment.isEmpty then "" else " COMMENT " ++ Comment.literal column.comment)

/-- The definitions of several columns. -/
def columnDefinitions (columns : List Column) : String :=
  commaSeparated (columns.map columnDefinition)

/-- One assignment of a property or option. -/
def assignment (key value : String) : String :=
  "'" ++ key ++ "'='" ++ value ++ "'"

/-- The assignments of a map in the order of its keys. -/
def assignments (m : PropertyMap) : String :=
  commaSeparated (m.sorted.map fun pair => assignment pair.1 pair.2)

/-- A storage location, with the credential for it if there is one. -/
def location (uri credential : String) : String :=
  "LOCATION '" ++ uri ++ "'" ++
    if credential.isEmpty then "" else " WITH (CREDENTIAL " ++ backQuoted credential ++ ")"

/-! ## Statements on tables and views -/

/-- Drop an object. -/
def drop (keyword name : String) : String :=
  "DROP " ++ keyword ++ " " ++ name

/-- Change the query of a view. -/
def alterViewQuery (name query : String) : String :=
  "ALTER VIEW " ++ name ++ " AS " ++ query

/-- Change the storage location of a table. -/
def setLocation (name uri credential : String) : String :=
  "ALTER TABLE " ++ name ++ " SET " ++ location uri credential

/-- Change the cluster keys of a table; without keys clustering ends. -/
def clusterBy (name : String) (keys : List String) : String :=
  "ALTER TABLE " ++ name ++ " CLUSTER BY " ++
    if keys.isEmpty then "NONE" else "(" ++ commaSeparated keys ++ ")"

/-- Change the comment of an object. -/
def commentOn (keyword name comment : String) : String :=
  "COMMENT ON " ++ keyword ++ " " ++ name ++ " IS " ++ Comment.literal comment

/-- The start of a statement that changes an object. -/
def alter (keyword name : String) : String :=
  "ALTER " ++ keyword ++ " " ++ name ++ " "

/-- Remove properties. -/
def unsetProperties (keyword name : String) (keys : List String) : String :=
  alter keyword name ++ "UNSET TBLPROPERTIES IF EXISTS (" ++ commaSeparated keys ++ ")"

/-- Write properties. -/
def setProperties (keyword name : String) (properties : PropertyMap) : String :=
  alter keyword name ++ "SET TBLPROPERTIES (" ++ assignments properties ++ ")"

/-! ## Statements on columns -/

/-- Drop columns. -/
def dropColumns (keyword name : String) (columns : List String) : String :=
  alter keyword name ++ "DROP COLUMN IF EXISTS (" ++
    commaSeparated (columns.map backQuoted) ++ ")"

/-- Add a column, first or after another one. -/
def addColumn (keyword name : String) (column : Column) (after : Option String) : String :=
  alter keyword name ++ "ADD COLUMN " ++ columnDefinition column ++
    match after with
    | none => " FIRST"
    | some anchor => " AFTER " ++ anchor

/-- Rename a column. -/
def renameColumn (keyword name old new : String) : String :=
  alter keyword name ++ "RENAME COLUMN " ++ backQuoted old ++ " TO " ++ backQuoted new

/-- Change the comment of a column. -/
def setColumnComment (keyword name column comment : String) : String :=
  alter keyword name ++ "ALTER COLUMN " ++ backQuoted column ++ " COMMENT " ++
    Comment.literal comment

/-- Allow or forbid that a column holds no value. -/
def setColumnNullability (keyword name column : String) (nullable : Bool) : String :=
  alter keyword name ++ "ALTER COLUMN " ++ backQuoted column ++
    if nullable then " DROP NOT NULL" else " SET NOT NULL"

end TableReconciler.Ddl
