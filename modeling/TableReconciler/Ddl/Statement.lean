import TableReconciler.Ddl.Clause

/-!
# Statements

The changes to an existing object as data, and the text of each.  A change may hold other entries
than texts; it has a text when its entries are texts wherever they are escaped or joined.
-/

namespace TableReconciler

/-- Why a statement cannot be written. -/
inductive StatementFault where
  /-- It names the kind of an object whose type is unknown. -/
  | unknownType (fault : UnknownTableType)
  /-- It needs a text where there is none. -/
  | entry (fault : EntryFault)
  deriving DecidableEq, Repr

/-- The wording of a fault; an entry that is no text has none. -/
def StatementFault.message? : StatementFault → Option String
  | .unknownType fault => some fault.message
  | .entry _ => none

/-! ## Columns -/

/-- A change to the columns of an object. -/
inductive ColumnChange (τ : Type := String) where
  /-- Drop the named columns. -/
  | drop (names : List String)
  /-- Add a column after the named one, or as the first. -/
  | add (column : Column τ) (after : Option τ)
  /-- Rename a column. -/
  | rename (old : String) (new : τ)
  /-- Change the comment of a column. -/
  | setComment (name comment : τ)
  /-- Allow or forbid that a column holds no value. -/
  | setNullable (name : τ) (nullable : Bool)
  deriving DecidableEq, Repr

namespace ColumnChange

/-- The text of a column change. -/
def render (keyword name : String) : ColumnChange → String
  | .drop names => Ddl.dropColumns keyword name names
  | .add column after => Ddl.addColumn keyword name column after
  | .rename old new => Ddl.renameColumn keyword name old new
  | .setComment column comment => Ddl.setColumnComment keyword name column comment
  | .setNullable column nullable => Ddl.setColumnNullability keyword name column nullable

/-- The change as it is written. -/
def plain {τ : Type} [Entry τ] : ColumnChange τ → Except EntryFault ColumnChange
  | .drop names => return .drop names
  | .add column after => return .add (← column.plain) (after.map Entry.display)
  | .rename old new => return .rename old (Entry.display new)
  | .setComment name comment => return .setComment (Entry.display name) (← Entry.escapable comment)
  | .setNullable name nullable => return .setNullable (Entry.display name) nullable

@[simp] theorem plain_string (change : ColumnChange) : change.plain = .ok change := by
  cases change with
  | add column after => cases after <;> simp [plain, pure, Except.pure, bind, Except.bind]
  | _ => simp [plain, pure, Except.pure, bind, Except.bind]

end ColumnChange

/-! ## Objects -/

/-- A statement that changes an existing object. -/
inductive Statement (τ : Type := String) where
  /-- Change the query of a view. -/
  | alterViewQuery (name : QualifiedName) (query : τ)
  /-- Change the storage location of a table. -/
  | setLocation (name : QualifiedName) (uri credential : τ)
  /-- Change the cluster keys of a table. -/
  | clusterBy (name : QualifiedName) (keys : List τ)
  /-- Change the comment. -/
  | commentOn (kind : ObjectKind) (name : QualifiedName) (comment : τ)
  /-- Remove properties. -/
  | unsetProperties (kind : ObjectKind) (name : QualifiedName) (keys : List String)
  /-- Write properties. -/
  | setProperties (kind : ObjectKind) (name : QualifiedName) (properties : PropertyMap)
  /-- Change the columns. -/
  | alterColumns (kind : ObjectKind) (name : QualifiedName) (change : ColumnChange τ)
  deriving DecidableEq

namespace Statement

/-- The text of a statement. -/
def render : Statement → String
  | .alterViewQuery name query => Ddl.alterViewQuery name.quoted query
  | .setLocation name uri credential => Ddl.setLocation name.quoted uri credential
  | .clusterBy name keys => Ddl.clusterBy name.quoted keys
  | .commentOn kind name comment => Ddl.commentOn kind.keyword name.quoted comment
  | .unsetProperties kind name keys => Ddl.unsetProperties kind.keyword name.quoted keys
  | .setProperties kind name properties => Ddl.setProperties kind.keyword name.quoted properties
  | .alterColumns kind name change => change.render kind.keyword name.quoted

/-- The statement as it is written. -/
def plain {τ : Type} [Entry τ] : Statement τ → Except EntryFault Statement
  | .alterViewQuery name query => return .alterViewQuery name (Entry.display query)
  | .setLocation name uri credential =>
      return .setLocation name (Entry.display uri) (Entry.display credential)
  | .clusterBy name keys => return .clusterBy name (← Entry.joinable keys)
  | .commentOn kind name comment => return .commentOn kind name (← Entry.escapable comment)
  | .unsetProperties kind name keys => return .unsetProperties kind name keys
  | .setProperties kind name properties => return .setProperties kind name properties
  | .alterColumns kind name change => return .alterColumns kind name (← change.plain)

@[simp] theorem plain_string (statement : Statement) : statement.plain = .ok statement := by
  cases statement <;> simp [plain, pure, Except.pure, bind, Except.bind]

end Statement

end TableReconciler
