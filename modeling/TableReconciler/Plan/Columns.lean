import TableReconciler.Ddl.Statement

/-!
# Column changes

From the previous to the desired columns of an object.  Which of two ways is taken depends on the
number of columns alone: when it differs, columns are dropped and added by name; when it is the
same, each position is renamed, commented and constrained as needed.  Types are never changed.
-/

namespace TableReconciler.ColumnChange

variable {τ : Type} [Entry τ]

/-! ## Different numbers of columns -/

/-- The names of the previous columns that are not desired. -/
def removedNames (desired : List (Column τ)) (previous : List Column) : List String :=
  (previous.map Column.name).filter fun name =>
    !desired.any fun column => Entry.text? column.name == some name

/-- The desired columns that `kept` does not name, each added after its predecessor in the desired
list, which is `after` for the first of them.  A predecessor whose name is null is none. -/
def additions (kept : List String) (after : Option τ) : List (Column τ) → List (ColumnChange τ)
  | [] => []
  | column :: rest =>
      (if (Entry.text? column.name).any kept.contains then [] else [.add column after])
        ++ additions kept (Entry.nonNull? column.name) rest

/-- One drop of the names that are gone, then one addition for each new name. -/
def membership (desired : List (Column τ)) (previous : List Column) : List (ColumnChange τ) :=
  let removed := removedNames desired previous
  (if removed.isEmpty then [] else [.drop removed])
    ++ additions (previous.map Column.name) none desired

/-! ## Equal numbers of columns -/

/-- The changes that turn one column into another, apart from its type.  Once renamed the column
goes by its new name. -/
def attributes (new : Column τ) (old : Column) : List (ColumnChange τ) :=
  (if Entry.text? new.name = some old.name then [] else [.rename old.name new.name]) ++
    (if Entry.text? new.comment = some old.comment then [] else [.setComment new.name new.comment])
      ++ if new.nullable = old.nullable then [] else [.setNullable new.name new.nullable]

/-- The changes position by position. -/
def positional (desired : List (Column τ)) (previous : List Column) : List (ColumnChange τ) :=
  (desired.zip previous).flatMap fun pair => attributes pair.1 pair.2

/-! ## Either way -/

/-- The changes that lead from the previous to the desired columns. -/
def between (desired : List (Column τ)) (previous : List Column) : List (ColumnChange τ) :=
  if desired.length = previous.length then positional desired previous
  else membership desired previous

end TableReconciler.ColumnChange
