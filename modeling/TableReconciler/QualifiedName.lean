import TableReconciler.Text.Blank
import TableReconciler.Text.Segments

/-!
# Names

Identifiers in back quotes, and the three-part names of catalog objects: catalog, schema, table.

An identifier is quoted verbatim.  A back quote inside it is not escaped, so that a name which
holds one does not yield valid SQL.
-/

namespace TableReconciler

/-- An identifier in back quotes. -/
def backQuoted (identifier : String) : String :=
  "`" ++ identifier ++ "`"

/-- The name of a catalog object. -/
structure QualifiedName where
  /-- The catalog. -/
  catalog : String
  /-- The schema within the catalog. -/
  schema : String
  /-- The table or view within the schema. -/
  table : String
  deriving DecidableEq, Repr

namespace QualifiedName

/-- The three parts of a name. -/
def parts (name : QualifiedName) : List String :=
  [name.catalog, name.schema, name.table]

/-- The parts with dots between them. -/
def format (name : QualifiedName) : String :=
  ".".intercalate name.parts

/-- The parts in back quotes, with dots between them. -/
def quoted (name : QualifiedName) : String :=
  ".".intercalate (name.parts.map backQuoted)

/-- The back quote. -/
def backQuote : Char := '\x60'

/-- The segments of a name: back quotes are dropped wherever they stand, the rest is cut at the
dots, and white space around each segment is dropped. -/
def segments (cs : List Char) : List (List Char) :=
  (Text.segments '.' (Text.trim (cs.filter (· ≠ backQuote)))).map Text.trim

/-- Read a three-part name, with or without back quotes.  No part may be empty. -/
def parse? (text : String) : Option QualifiedName :=
  match segments text.toList with
  | [catalog, schema, table] =>
      if catalog.isEmpty || schema.isEmpty || table.isEmpty then none
      else some ⟨String.ofList catalog, String.ofList schema, String.ofList table⟩
  | _ => none

end QualifiedName

end TableReconciler
