import TableReconciler.Proofs.Plan.Drift

/-!
# Plans that change comments only

The plan for two descriptions that agree on everything but comments: a statement on the comment of
the object if that differs, and then one for each column whose comment differs, in the order of the
columns (`script_of_agreesButComments`).

Comments are compared as the texts they are.  Two texts that are written by the same literal,
because one of them has its quotes escaped already, are different comments for the plan
(`script_of_rendered_alike`).
-/

namespace TableReconciler

/-! ## Agreement on everything but comments -/

/-- Two columns agree on everything but their comments. -/
def Column.AgreesButComment (new old : Column) : Prop :=
  new = { old with comment := new.comment }

/-- Two descriptions agree on everything but their comments and those of their columns.  Properties
and options are maps, and agree when they have the same value for every key. -/
structure TableSpec.AgreesButComments (desired previous : TableSpec) : Prop where
  /-- They agree on all else than comment, columns and maps. -/
  fields : desired = { previous with
    comment := desired.comment
    columns := desired.columns
    properties := desired.properties
    options := desired.options }
  /-- They have the same properties. -/
  properties : ∀ key, desired.properties.find? key = previous.properties.find? key
  /-- They have the same options. -/
  options : ∀ key, desired.options.find? key = previous.options.find? key
  /-- The columns agree position by position on everything but their comments. -/
  columns : List.Forall₂ Column.AgreesButComment desired.columns previous.columns

namespace ColumnChange

variable {desired previous : List Column}

/-- The changes of comments, for each position at which the comments differ. -/
def commentChanges (desired previous : List Column) : List ColumnChange :=
  ((desired.zip previous).filter fun pair => pair.1.comment ≠ pair.2.comment).map fun pair =>
    .setComment pair.1.name pair.1.comment

/-- Columns that agree on everything but their comments need no other changes. -/
theorem between_eq_commentChanges
    (h : List.Forall₂ Column.AgreesButComment desired previous) :
    between desired previous = commentChanges desired previous := by
  unfold between
  rw [if_pos h.length_eq]
  induction h with
  | nil => rfl
  | @cons new old desired previous hagrees _ ih =>
      have hname : new.name = old.name := by rw [hagrees]
      have hnullable : new.nullable = old.nullable := by rw [hagrees]
      rw [positional_cons, ih, attributes_eq, if_pos hname, if_pos hnullable]
      by_cases hcomment : new.comment = old.comment
      · simp [commentChanges, hcomment]
      · simp [commentChanges, hcomment]

/-- No comment is changed exactly when the comments are the same at each position. -/
theorem commentChanges_eq_nil_iff (hlength : desired.length = previous.length) :
    commentChanges desired previous = [] ↔
      List.Forall₂ (fun new old => new.comment = old.comment) desired previous := by
  unfold commentChanges
  rw [List.map_eq_nil_iff, List.filter_eq_nil_iff, List.forall₂_iff_zip, and_iff_right hlength]
  constructor
  · intro h new old hmem
    simpa using h (new, old) hmem
  · rintro h ⟨new, old⟩ hmem
    simpa using h hmem

end ColumnChange

namespace Plan

variable {desired previous : TableSpec} {type : TableType}

/-- The statements that change comments, on an object of a given kind. -/
def commentStatements (kind : ObjectKind) (desired previous : TableSpec) : List Statement :=
  commentFor kind desired previous ++
    (ColumnChange.commentChanges desired.columns previous.columns).map
      (.alterColumns kind desired.name)

/-- Descriptions that agree on everything but comments need no other statements. -/
theorem statements_of_agreesButComments (managed : ManagedKeys)
    (htype : desired.type = .supported type) (h : desired.AgreesButComments previous) :
    Plan.statements managed desired previous =
      .ok (commentStatements type.kind desired previous) := by
  have hkind : kindSpecific desired previous = [] := by
    have hview : desired.viewDefinition = previous.viewDefinition := by rw [h.fields]
    have hlocation : desired.location = previous.location := by rw [h.fields]
    have hkeys : desired.clusterKeys = previous.clusterKeys := by rw [h.fields]
    exact kindSpecific_eq_nil_iff.mpr ⟨fun _ => hview, fun _ => ⟨hlocation, hkeys⟩⟩
  have hproperties : propertiesFor managed type.kind desired previous = [] :=
    propertiesFor_eq_nil_iff.mpr (.inl h.properties)
  have hcolumns : columnsFor type.kind desired previous =
      (ColumnChange.commentChanges desired.columns previous.columns).map
        (.alterColumns type.kind desired.name) := by
    rw [columnsFor, ColumnChange.between_eq_commentChanges h.columns]
  rw [statements_of_supported managed previous htype, hkind, hproperties, hcolumns,
    List.nil_append, List.append_nil, commentStatements]

/-- **Plans that change comments only.** For a desired description of a supported type and a
previous one that agree on everything but comments, the plan is one statement on the comment of the
object if the two comments are different texts, and then one statement for each column whose two
comments are different texts, in the order of the columns.  So it is empty if and only if the
comments are the same texts everywhere. -/
theorem script_of_agreesButComments (managed : ManagedKeys)
    (htype : desired.type = .supported type) (h : desired.AgreesButComments previous) :
    Plan.script managed desired previous =
      .ok ((commentStatements type.kind desired previous).map Statement.render) ∧
    (Plan.script managed desired previous = .ok [] ↔
      desired.comment = previous.comment ∧
      List.Forall₂ (fun new old => new.comment = old.comment)
        desired.columns previous.columns) := by
  have hscript := script_of_statements (statements_of_agreesButComments managed htype h)
  have hcomment : commentFor type.kind desired previous = [] ↔
      desired.comment = previous.comment := commentFor_eq_nil_iff
  refine ⟨hscript, ?_⟩
  rw [hscript, ← hcomment, ← ColumnChange.commentChanges_eq_nil_iff h.columns.length_eq]
  simp only [Except.ok.injEq, commentStatements, List.map_eq_nil_iff, List.append_eq_nil_iff]

/-- One column of three gets another comment, and so does the table; the properties are the same in
another order. -/
theorem script_of_commented :
    let desired : TableSpec :=
      { TableSpec.ofColumns [⟨"id", "int", "", false⟩, ⟨"note", "string", "it's free", true⟩,
          ⟨"at", "date", "day", true⟩] with
        comment := "Orders"
        properties := .ofList [("team", "data"), ("tier", "gold")] }
    let previous : TableSpec :=
      { TableSpec.ofColumns [⟨"id", "int", "", false⟩, ⟨"note", "string", "", true⟩,
          ⟨"at", "date", "day", true⟩] with
        comment := "orders"
        properties := .ofList [("tier", "gold"), ("team", "data")] }
    desired.type = .supported .managed ∧ desired.AgreesButComments previous ∧
      Plan.script .default desired previous =
        .ok ["COMMENT ON TABLE `main`.`sales`.`orders` IS 'Orders'",
          "ALTER TABLE `main`.`sales`.`orders` ALTER COLUMN `note` COMMENT 'it\\'s free'"] := by
  intro desired previous
  have hproperties : ∀ key, desired.properties.find? key = previous.properties.find? key :=
    PropertyMap.equivalent_iff.mp (by decide)
  have hagrees : desired.AgreesButComments previous :=
    ⟨rfl, hproperties, fun _ => rfl, .cons rfl (.cons rfl (.cons rfl .nil))⟩
  refine ⟨rfl, hagrees, ?_⟩
  rw [(script_of_agreesButComments .default rfl hagrees).1]
  decide +kernel

/-- The previous comments have their quotes escaped already, and the desired ones have not.  They
are written by the same literals, and yet each of them is written once more. -/
theorem script_of_rendered_alike :
    let desired : TableSpec :=
      { TableSpec.ofColumns [⟨"id", "int", "the key's", true⟩] with comment := "it's" }
    let previous : TableSpec :=
      { TableSpec.ofColumns [⟨"id", "int", "the key\\'s", true⟩] with comment := "it\\'s" }
    desired.AgreesButComments previous ∧
      Comment.escape desired.comment = Comment.escape previous.comment ∧
      List.Forall₂ (fun new old => Comment.escape new.comment = Comment.escape old.comment)
        desired.columns previous.columns ∧
      Plan.script .default desired previous =
        .ok ["COMMENT ON TABLE `main`.`sales`.`orders` IS 'it\\'s'",
          "ALTER TABLE `main`.`sales`.`orders` ALTER COLUMN `id` COMMENT 'the key\\'s'"] := by
  intro desired previous
  refine ⟨⟨rfl, fun _ => rfl, fun _ => rfl, .cons rfl .nil⟩, ?_, .cons ?_ .nil, ?_⟩
  all_goals decide +kernel

end Plan

end TableReconciler
