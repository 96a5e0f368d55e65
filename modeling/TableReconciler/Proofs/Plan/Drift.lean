import TableReconciler.Proofs.Columns.Agreement
import TableReconciler.Proofs.Properties.Effect
import TableReconciler.Proofs.Reconciled

/-!
# When an update plans nothing

`InStep` says, field by field and without the plan, when the previous description of an object
needs no statement to become the desired one.  The main statement is `script_reconcile_eq_nil_iff`:
after reconciliation the plan is empty exactly then.

Each aspect of the plan is compared with its part of `InStep` on its own.  For the properties two
things can keep the plan silent: either the reconciled map holds the pairs of the previous one, or
the maps differ but only in keys that the catalog manages, and no statement names those.
-/

namespace TableReconciler

/-- The previous description of an object needs no statement to become the desired one. -/
structure InStep (managed : ManagedKeys) (desired previous : TableSpec) : Prop where
  /-- A view has the desired query. -/
  viewDefinition : desired.isView = true → desired.viewDefinition = previous.viewDefinition
  /-- A table has the desired cluster keys, in their order. -/
  clusterKeys : desired.isView = false → desired.clusterKeys = previous.clusterKeys
  /-- A table is where it is declared to be, up to trailing slashes, if it is declared at all. -/
  location : desired.isView = false → desired.location = "" ∨ previous.location ≠ "" ∧
    Text.withoutTrailingSlashes desired.location = Text.withoutTrailingSlashes previous.location
  /-- The object has the desired comment. -/
  comment : desired.comment = previous.comment
  /-- The object has the declared properties, and no others than those that are managed, are
  options, or have the prefix for options; or else all properties on both sides are managed. -/
  properties :
    ((∀ key value, desired.properties.find? key = some value →
        previous.properties.find? key = some value) ∧
      ∀ key ∈ previous.properties.keys, key ∉ desired.properties.keys →
        managed.manages key = true ∨ key ∈ desired.options.keys ∨
          "option.".toList <+: key.toList) ∨
    (∀ key ∈ desired.properties.keys, managed.manages key = true) ∧
      ∀ key ∈ previous.properties.keys, managed.manages key = true
  /-- The object has the declared columns, apart from their types, if any are declared. -/
  columns : desired.columns = [] ∨ List.Forall₂ Column.Agrees desired.columns previous.columns

namespace Plan

variable {managed : ManagedKeys} {kind : ObjectKind} {desired previous : TableSpec}

/-! ## Aspects of a plan -/

/-- No statement concerns only views, or only tables, exactly when the query is the same, or the
location and the cluster keys are. -/
theorem kindSpecific_eq_nil_iff :
    kindSpecific desired previous = [] ↔
      (desired.isView = true → desired.viewDefinition = previous.viewDefinition) ∧
      (desired.isView = false → desired.location = previous.location ∧
        desired.clusterKeys = previous.clusterKeys) := by
  have hkeys : (desired.clusterKeys.map Entry.text? = previous.clusterKeys.map some) ↔
      desired.clusterKeys = previous.clusterKeys :=
    List.map_inj_right fun _ _ h => Option.some.inj h
  unfold kindSpecific viewDefinition location clusterKeys
  simp only [Entry.text?_string, Option.some.injEq, hkeys]
  cases desired.isView with
  | true => simp
  | false => simp

/-- No statement is on the comment exactly when the comment is the same. -/
theorem commentFor_eq_nil_iff :
    commentFor kind desired previous = [] ↔ desired.comment = previous.comment := by
  simp [commentFor]

/-- No statement is on columns exactly when they agree position by position. -/
theorem columnsFor_eq_nil_iff (hd : desired.columnNames.Nodup) (hp : previous.columnNames.Nodup) :
    columnsFor kind desired previous = [] ↔
      List.Forall₂ Column.Agrees desired.columns previous.columns := by
  unfold columnsFor
  rw [List.map_eq_nil_iff, ColumnChange.between_eq_nil_iff hd hp]

/-! ## After reconciliation -/

/-- Reconciled properties are the previous ones exactly when the declared ones are among these and
all others of these are kept. -/
theorem find?_carriedProperties_eq_iff :
    (∀ key, (desired.carriedProperties managed previous).find? key =
        previous.properties.find? key) ↔
      (∀ key value, desired.properties.find? key = some value →
        previous.properties.find? key = some value) ∧
      ∀ key ∈ previous.properties.keys, key ∉ desired.properties.keys →
        desired.keepsProperty managed key = true := by
  constructor
  · intro h
    refine ⟨fun key value hdeclared => ?_, fun key hprevious hundeclared => ?_⟩
    · rw [← h key, TableSpec.find?_carriedProperties, hdeclared, Option.some_or]
    · rw [← PropertyMap.find?_eq_none_iff] at hundeclared
      obtain ⟨value, hvalue⟩ := PropertyMap.mem_keys_iff.mp hprevious
      have hcarried := h key
      rw [TableSpec.find?_carriedProperties, hundeclared, Option.none_or, hvalue] at hcarried
      by_contra hgone
      rw [if_neg hgone] at hcarried
      cases hcarried
  · rintro ⟨hdeclared, hkept⟩ key
    rw [TableSpec.find?_carriedProperties]
    rcases hkey : desired.properties.find? key with _ | value
    · rw [Option.none_or]
      split
      next => rfl
      next hgone =>
        symm
        rw [PropertyMap.find?_eq_none_iff]
        exact fun hprevious =>
          hgone (hkept key hprevious (PropertyMap.find?_eq_none_iff.mp hkey))
    · rw [Option.some_or, hdeclared key value hkey]

/-- Reconciled properties leave nothing to say, although they differ from the previous ones, exactly
when all declared and all previous keys are managed. -/
theorem removedKeys_carriedProperties_eq_nil_iff :
    (removedKeys managed (desired.carriedProperties managed previous) previous.properties = [] ∧
        ∀ key ∈ (desired.carriedProperties managed previous).keys, managed.manages key = true) ↔
      (∀ key ∈ desired.properties.keys, managed.manages key = true) ∧
        ∀ key ∈ previous.properties.keys, managed.manages key = true := by
  constructor
  · rintro ⟨hremoved, hcarried⟩
    refine ⟨fun key hkey => ?_, fun key hkey => ?_⟩
    · exact hcarried key (TableSpec.mem_keys_carriedProperties_iff.mpr (.inl hkey))
    · by_contra hunmanaged
      have hmem : key ∈ removedKeys managed (desired.carriedProperties managed previous)
          previous.properties :=
        mem_removedKeys_iff.mpr
          ⟨hkey, fun h => hunmanaged (hcarried key h), Bool.eq_false_iff.mpr hunmanaged⟩
      rw [hremoved] at hmem
      cases hmem
  · rintro ⟨hdeclared, hprevious⟩
    refine ⟨List.eq_nil_iff_forall_not_mem.mpr fun key hkey => ?_, fun key hkey => ?_⟩
    · obtain ⟨hmem, -, hunmanaged⟩ := mem_removedKeys_iff.mp hkey
      rw [hprevious key hmem] at hunmanaged
      cases hunmanaged
    · rcases TableSpec.mem_keys_carriedProperties_iff.mp hkey with hmem | ⟨hmem, -⟩
      · exact hdeclared key hmem
      · exact hprevious key hmem

/-- Reconciled columns agree with the previous ones exactly when the declared ones do, if any are
declared. -/
theorem carriedColumns_agree_iff :
    List.Forall₂ Column.Agrees (desired.carriedColumns previous) previous.columns ↔
      desired.columns = [] ∨ List.Forall₂ Column.Agrees desired.columns previous.columns := by
  unfold TableSpec.carriedColumns
  split
  next hnone =>
    refine iff_of_true ?_ (.inl (List.isEmpty_iff.mp hnone))
    exact List.forall₂_same.mpr fun column _ => Column.Agrees.refl column
  next hsome => rw [or_iff_right fun h => hsome (List.isEmpty_iff.mpr h)]

/-- Reconciled columns have unique names when the declared and the previous ones do. -/
theorem carriedColumns_nodup (hd : desired.columnNames.Nodup) (hp : previous.columnNames.Nodup) :
    ((desired.carriedColumns previous).map Column.name).Nodup := by
  unfold TableSpec.carriedColumns
  split
  · exact hp
  · exact hd

/-- **When an update plans nothing.** For a valid desired description of a supported type and a
valid previous one, the plan after reconciliation is empty if and only if the two are in step. -/
theorem script_reconcile_eq_nil_iff (managed : ManagedKeys) {desired previous : TableSpec}
    {type : TableType} (hd : desired.Valid) (hp : previous.Valid)
    (htype : desired.type = .supported type) :
    Plan.script managed (desired.reconcile managed previous) previous = .ok [] ↔
      InStep managed desired previous := by
  have hnames : (desired.reconcile managed previous).columnNames.Nodup := by
    unfold TableSpec.columnNames
    rw [TableSpec.reconcile_columns]
    exact carriedColumns_nodup hd.columns_nodup hp.columns_nodup
  rw [script_eq_nil_iff _ _ (by rw [TableSpec.reconcile_type, htype]), kindSpecific_eq_nil_iff,
    commentFor_eq_nil_iff, propertiesFor_eq_nil_iff, columnsFor_eq_nil_iff hnames hp.columns_nodup]
  simp only [TableSpec.reconcile_isView, TableSpec.reconcile_viewDefinition,
    TableSpec.reconcile_clusterKeys, TableSpec.reconcile_location, TableSpec.reconcile_comment,
    TableSpec.reconcile_properties, TableSpec.reconcile_columns]
  rw [find?_carriedProperties_eq_iff, removedKeys_carriedProperties_eq_nil_iff,
    carriedColumns_agree_iff]
  simp only [TableSpec.keepsProperty_iff]
  constructor
  · rintro ⟨⟨hview, htable⟩, hcomment, hproperties, hcolumns⟩
    exact {
      viewDefinition := hview
      clusterKeys := fun h => (htable h).2
      location := fun h => (TableSpec.carriedLocation_eq_previous_iff h).mp (htable h).1
      comment := hcomment
      properties := hproperties
      columns := hcolumns }
  · intro h
    refine ⟨⟨h.viewDefinition, fun htable => ⟨?_, h.clusterKeys htable⟩⟩, h.comment, h.properties,
      h.columns⟩
    exact (TableSpec.carriedLocation_eq_previous_iff htable).mpr (h.location htable)

/-- The catalog reports columns, a protocol version, the options and a slash that were never
declared: nothing is planned. -/
theorem script_reconcile_of_reported :
    let desired : TableSpec :=
      { TableSpec.ofColumns [] with
        location := "s3://sales/orders"
        properties := .ofList [("team", "data")]
        options := .ofList [("header", "true")] }
    let previous : TableSpec :=
      { TableSpec.ofColumns [⟨"id", "int", "", true⟩] with
        location := "s3://sales/orders/"
        properties := .ofList [("delta.minReaderVersion", "2"), ("header", "true"),
          ("option.header", "true"), ("team", "data")] }
    Plan.script .default (desired.reconcile .default previous) previous = .ok [] := by
  intro desired previous
  have hd : desired.Valid := ⟨.inl rfl, nofun, fun _ => rfl, by decide⟩
  have hp : previous.Valid := ⟨.inl rfl, nofun, fun _ => rfl, by decide⟩
  refine (script_reconcile_eq_nil_iff .default hd hp rfl).mpr {
    viewDefinition := nofun
    clusterKeys := fun _ => rfl
    location := fun _ => .inr ⟨by decide, by decide⟩
    comment := rfl
    properties := .inl ⟨fun key value hdeclared => ?_, by decide⟩
    columns := .inl rfl }
  rw [PropertyMap.find?_eq_some_iff] at hdeclared
  cases List.mem_singleton.mp hdeclared
  rfl

end Plan

end TableReconciler
