import Mathlib.Data.List.Forall2
import TableReconciler.Plan

/-!
# The wording of statements

Plans are reasoned about as lists of changes; what is executed are texts.  `ColumnChange.WrittenAs`
and `Statement.WrittenAs` say which text stands for which change, with every form written out: the
words, the names where they belong, and the literals.

* `ColumnChange.writtenAs_iff`, `Statement.writtenAs_iff`: a change is written as its text, and as
  no other.
* `Statement.forall₂_writtenAs`, `ColumnChange.exists_texts`: the texts of a list of changes are
  those of the changes one by one, in their order.
-/

namespace TableReconciler

/-! ## Columns -/

/-- The definition of a column: its name in back quotes and its type, the constraint if it always
holds a value, and the comment if there is one. -/
inductive Column.DefinedAs (column : Column) : String → Prop
  /-- From its parts. -/
  | intro {constraint comment : String}
      (constraint_eq : constraint = if column.nullable = true then "" else " NOT NULL")
      (comment_eq : comment = if column.comment = "" then ""
        else " COMMENT '" ++ Comment.escape column.comment ++ "'") :
      DefinedAs column ("`" ++ column.name ++ "` " ++ column.type ++ constraint ++ comment)

/-- A column has a definition. -/
theorem Column.exists_definedAs (column : Column) : ∃ text, column.DefinedAs text :=
  ⟨_, .intro rfl rfl⟩

/-- A column has no other definition than the one that is written. -/
theorem Column.DefinedAs.eq {column : Column} {text : String} (h : column.DefinedAs text) :
    text = Ddl.columnDefinition column := by
  obtain ⟨rfl, rfl⟩ := h
  apply String.toList_inj.mp
  unfold Ddl.columnDefinition
  simp only [String.isEmpty_iff]
  split <;> split <;> simp [backQuoted, Comment.literal]

namespace ColumnChange

/-- The text of a change to the columns of the object `name`, form by form. -/
inductive WrittenAs (keyword name : String) : ColumnChange → String → Prop
  /-- Columns are dropped by their names. -/
  | drop (names : List String) :
      WrittenAs keyword name (.drop names)
        ("ALTER " ++ keyword ++ " " ++ name ++ " DROP COLUMN IF EXISTS (" ++
          ", ".intercalate (names.map fun column => "`" ++ column ++ "`") ++ ")")
  /-- A column is added in front of the others. -/
  | addFirst {column : Column} {definition : String} (h : column.DefinedAs definition) :
      WrittenAs keyword name (.add column none)
        ("ALTER " ++ keyword ++ " " ++ name ++ " ADD COLUMN " ++ definition ++ " FIRST")
  /-- A column is added behind another one. -/
  | addAfter {column : Column} {definition : String} (anchor : String)
      (h : column.DefinedAs definition) :
      WrittenAs keyword name (.add column (some anchor))
        ("ALTER " ++ keyword ++ " " ++ name ++ " ADD COLUMN " ++ definition ++ " AFTER " ++ anchor)
  /-- A column is renamed from its old name to its new one. -/
  | rename (old new : String) :
      WrittenAs keyword name (.rename old new)
        ("ALTER " ++ keyword ++ " " ++ name ++ " RENAME COLUMN `" ++ old ++ "` TO `" ++ new ++ "`")
  /-- A column gets a comment. -/
  | setComment (column comment : String) :
      WrittenAs keyword name (.setComment column comment)
        ("ALTER " ++ keyword ++ " " ++ name ++ " ALTER COLUMN `" ++ column ++ "` COMMENT '" ++
          Comment.escape comment ++ "'")
  /-- A column may hold no value. -/
  | dropNotNull (column : String) :
      WrittenAs keyword name (.setNullable column true)
        ("ALTER " ++ keyword ++ " " ++ name ++ " ALTER COLUMN `" ++ column ++ "` DROP NOT NULL")
  /-- A column always holds a value. -/
  | setNotNull (column : String) :
      WrittenAs keyword name (.setNullable column false)
        ("ALTER " ++ keyword ++ " " ++ name ++ " ALTER COLUMN `" ++ column ++ "` SET NOT NULL")

variable {keyword name : String} {change : ColumnChange} {text : String}

/-- Every change has a form. -/
theorem exists_writtenAs (keyword name : String) (change : ColumnChange) :
    ∃ text, change.WrittenAs keyword name text := by
  cases change with
  | drop names => exact ⟨_, .drop names⟩
  | add column after =>
      obtain ⟨definition, hdefinition⟩ := column.exists_definedAs
      cases after with
      | none => exact ⟨_, .addFirst hdefinition⟩
      | some anchor => exact ⟨_, .addAfter anchor hdefinition⟩
  | rename old new => exact ⟨_, .rename old new⟩
  | setComment column comment => exact ⟨_, .setComment column comment⟩
  | setNullable column nullable =>
      cases nullable with
      | true => exact ⟨_, .dropNotNull column⟩
      | false => exact ⟨_, .setNotNull column⟩

/-- The form of a change is the text that is written for it. -/
theorem WrittenAs.eq (h : change.WrittenAs keyword name text) :
    text = change.render keyword name := by
  apply String.toList_inj.mp
  cases h with
  | drop names =>
      have hquoted : names.map backQuoted = names.map fun column => "`" ++ column ++ "`" := rfl
      simp [render, Ddl.dropColumns, Ddl.alter, Ddl.commaSeparated, hquoted]
  | addFirst hdefinition =>
      simp [render, Ddl.addColumn, Ddl.alter, hdefinition.eq]
  | addAfter anchor hdefinition =>
      simp [render, Ddl.addColumn, Ddl.alter, hdefinition.eq]
  | rename old new => simp [render, Ddl.renameColumn, Ddl.alter, backQuoted]
  | setComment column comment =>
      simp [render, Ddl.setColumnComment, Ddl.alter, backQuoted, Comment.literal]
  | dropNotNull column => simp [render, Ddl.setColumnNullability, Ddl.alter, backQuoted]
  | setNotNull column => simp [render, Ddl.setColumnNullability, Ddl.alter, backQuoted]

/-- A change is written as its text, and as no other. -/
theorem writtenAs_iff : change.WrittenAs keyword name text ↔ text = change.render keyword name := by
  refine ⟨WrittenAs.eq, ?_⟩
  rintro rfl
  obtain ⟨text, h⟩ := exists_writtenAs keyword name change
  rw [← h.eq]
  exact h

end ColumnChange

/-! ## Objects -/

namespace Statement

/-- The text of a statement, form by form. -/
inductive WrittenAs : Statement → String → Prop
  /-- A view gets a query. -/
  | alterViewQuery (name : QualifiedName) (query : String) :
      WrittenAs (.alterViewQuery name query) ("ALTER VIEW " ++ name.quoted ++ " AS " ++ query)
  /-- A table gets a location that no credential is needed for. -/
  | setLocation (name : QualifiedName) (uri : String) :
      WrittenAs (.setLocation name uri "")
        ("ALTER TABLE " ++ name.quoted ++ " SET LOCATION '" ++ uri ++ "'")
  /-- A table gets a location with a credential. -/
  | setLocationWith (name : QualifiedName) (uri : String) {credential : String}
      (h : credential ≠ "") :
      WrittenAs (.setLocation name uri credential)
        ("ALTER TABLE " ++ name.quoted ++ " SET LOCATION '" ++ uri ++ "' WITH (CREDENTIAL `" ++
          credential ++ "`)")
  /-- The clustering of a table ends. -/
  | clusterByNone (name : QualifiedName) :
      WrittenAs (.clusterBy name []) ("ALTER TABLE " ++ name.quoted ++ " CLUSTER BY NONE")
  /-- A table is clustered by keys. -/
  | clusterBy (name : QualifiedName) {keys : List String} (h : keys ≠ []) :
      WrittenAs (.clusterBy name keys)
        ("ALTER TABLE " ++ name.quoted ++ " CLUSTER BY (" ++ ", ".intercalate keys ++ ")")
  /-- An object gets a comment. -/
  | commentOn (kind : ObjectKind) (name : QualifiedName) (comment : String) :
      WrittenAs (.commentOn kind name comment)
        ("COMMENT ON " ++ kind.keyword ++ " " ++ name.quoted ++ " IS '" ++
          Comment.escape comment ++ "'")
  /-- Properties are removed by their keys. -/
  | unsetProperties (kind : ObjectKind) (name : QualifiedName) (keys : List String) :
      WrittenAs (.unsetProperties kind name keys)
        ("ALTER " ++ kind.keyword ++ " " ++ name.quoted ++ " UNSET TBLPROPERTIES IF EXISTS (" ++
          ", ".intercalate keys ++ ")")
  /-- Properties are written in the order of their keys. -/
  | setProperties (kind : ObjectKind) (name : QualifiedName) (properties : PropertyMap) :
      WrittenAs (.setProperties kind name properties)
        ("ALTER " ++ kind.keyword ++ " " ++ name.quoted ++ " SET TBLPROPERTIES (" ++
          ", ".intercalate (properties.sorted.map fun (key, value) =>
            "'" ++ key ++ "'='" ++ value ++ "'") ++ ")")
  /-- The columns are changed. -/
  | alterColumns (kind : ObjectKind) (name : QualifiedName) {change : ColumnChange} {text : String}
      (h : change.WrittenAs kind.keyword name.quoted text) :
      WrittenAs (.alterColumns kind name change) text

variable {statement : Statement} {text : String}

/-- Every statement has a form. -/
theorem exists_writtenAs (statement : Statement) : ∃ text, statement.WrittenAs text := by
  cases statement with
  | alterViewQuery name query => exact ⟨_, .alterViewQuery name query⟩
  | setLocation name uri credential =>
      by_cases h : credential = ""
      · subst h
        exact ⟨_, .setLocation name uri⟩
      · exact ⟨_, .setLocationWith name uri h⟩
  | clusterBy name keys =>
      by_cases h : keys = []
      · subst h
        exact ⟨_, .clusterByNone name⟩
      · exact ⟨_, .clusterBy name h⟩
  | commentOn kind name comment => exact ⟨_, .commentOn kind name comment⟩
  | unsetProperties kind name keys => exact ⟨_, .unsetProperties kind name keys⟩
  | setProperties kind name properties => exact ⟨_, .setProperties kind name properties⟩
  | alterColumns kind name change =>
      obtain ⟨text, h⟩ := change.exists_writtenAs kind.keyword name.quoted
      exact ⟨text, .alterColumns kind name h⟩

/-- The form of a statement is the text that is written for it. -/
theorem WrittenAs.eq (h : statement.WrittenAs text) : text = statement.render := by
  apply String.toList_inj.mp
  cases h with
  | alterViewQuery name query => rfl
  | setLocation name uri => simp [render, Ddl.setLocation, Ddl.location]
  | setLocationWith name uri h =>
      simp [render, Ddl.setLocation, Ddl.location, backQuoted, String.isEmpty_iff, h]
  | clusterByNone name => simp [render, Ddl.clusterBy]
  | clusterBy name h => simp [render, Ddl.clusterBy, Ddl.commaSeparated, h]
  | commentOn kind name comment => simp [render, Ddl.commentOn, Comment.literal]
  | unsetProperties kind name keys =>
      simp [render, Ddl.unsetProperties, Ddl.alter, Ddl.commaSeparated]
  | setProperties kind name properties =>
      simp [render, Ddl.setProperties, Ddl.assignments, Ddl.assignment, Ddl.alter,
        Ddl.commaSeparated]
  | alterColumns kind name h => rw [h.eq]; rfl

/-- A statement is written as its text, and as no other. -/
theorem writtenAs_iff : statement.WrittenAs text ↔ text = statement.render := by
  refine ⟨WrittenAs.eq, ?_⟩
  rintro rfl
  obtain ⟨text, h⟩ := exists_writtenAs statement
  rw [← h.eq]
  exact h

/-- Statements are written one by one, in their order. -/
theorem forall₂_writtenAs (statements : List Statement) :
    List.Forall₂ WrittenAs statements (statements.map render) :=
  List.forall₂_map_right_iff.mpr (List.forall₂_same.mpr fun _ _ => writtenAs_iff.mpr rfl)

end Statement

/-- Changes to the columns of an object are written one by one, in their order. -/
theorem ColumnChange.exists_texts (kind : ObjectKind) (name : QualifiedName)
    (changes : List ColumnChange) :
    ∃ texts, Plan.texts (changes.map (Statement.alterColumns kind name)) = .ok texts ∧
      List.Forall₂ (WrittenAs kind.keyword name.quoted) changes texts := by
  refine ⟨_, Plan.texts_string _, ?_⟩
  rw [List.map_map]
  exact List.forall₂_map_right_iff.mpr (List.forall₂_same.mpr fun _ _ => writtenAs_iff.mpr rfl)

end TableReconciler
