import TableReconciler.Proofs.Plan.Drift
import TableReconciler.Proofs.Properties.Convergence

/-!
# The first update after a creation

`ReportedAs` says what the catalog may report of an object that was just created: what was declared,
and beside it columns, a location and properties of its own.  An update to the same description
should find nothing to do then, and `script_reported_eq_nil_iff` says when it does.

What stands in the way is a managed property that is declared.  Creation leaves it out, and no
statement of an update names it, but the comparison of the two property maps as a whole does not
pass over it: where the catalog has another value, the maps differ, and the properties that the user
controls are written once more.
-/

namespace TableReconciler

/-- What may be reported of an object that was just created from a description. -/
structure ReportedAs (managed : ManagedKeys) (desired previous : TableSpec) : Prop where
  /-- It is a view if a view was declared, and a table otherwise. -/
  kind : previous.isView = desired.isView
  /-- The comment is the declared one. -/
  comment : previous.comment = desired.comment
  /-- The query of a view is the declared one. -/
  viewDefinition : previous.viewDefinition = desired.viewDefinition
  /-- The partitions are the declared ones. -/
  partitions : previous.partitions = desired.partitions
  /-- The cluster keys are the declared ones. -/
  clusterKeys : previous.clusterKeys = desired.clusterKeys
  /-- The columns are the declared ones, if any are declared. -/
  columns : desired.columns ≠ [] → previous.columns = desired.columns
  /-- A table is where it was declared to be, up to trailing slashes, if that was declared. -/
  location : desired.isView = false → desired.location ≠ "" →
    Text.withoutTrailingSlashes previous.location = Text.withoutTrailingSlashes desired.location
  /-- The declared properties that are not managed have their values. -/
  declared : ∀ key value, managed.manages key = false →
    desired.properties.find? key = some value → previous.properties.find? key = some value
  /-- All others are managed, have the key of an option, or have the prefix for options. -/
  others : ∀ key ∈ previous.properties.keys,
    (managed.manages key = false ∧ key ∈ desired.properties.keys) ∨
      managed.manages key = true ∨ key ∈ desired.options.keys ∨ "option.".toList <+: key.toList

/-- A reported property that is not declared is kept. -/
theorem ReportedAs.keepsProperty {managed : ManagedKeys} {desired previous : TableSpec}
    (h : ReportedAs managed desired previous) {key : String}
    (hreported : key ∈ previous.properties.keys) (hundeclared : key ∉ desired.properties.keys) :
    desired.keepsProperty managed key = true :=
  TableSpec.keepsProperty_iff.mpr
    ((h.others key hreported).resolve_left fun hdeclared => hundeclared hdeclared.2)

namespace Plan

variable {managed : ManagedKeys} {kind : ObjectKind} {desired previous : TableSpec}

/-! ## Aspects of the plan -/

/-- The query, or the location and the cluster keys, need no statement, unless a location is
declared and none is reported. -/
theorem kindSpecific_reported_eq_nil_iff (h : ReportedAs managed desired previous) :
    kindSpecific (desired.reconcile managed previous) previous = [] ↔
      (desired.isView = false → desired.location = "" ∨ previous.location ≠ "") := by
  rw [kindSpecific_eq_nil_iff]
  simp only [TableSpec.reconcile_isView, TableSpec.reconcile_viewDefinition,
    TableSpec.reconcile_clusterKeys, TableSpec.reconcile_location, h.viewDefinition,
    h.clusterKeys, implies_true, and_true, true_and]
  refine forall_congr' fun htable => ?_
  rw [TableSpec.carriedLocation_eq_previous_iff htable]
  by_cases hdeclared : desired.location = ""
  · exact iff_of_true (.inl hdeclared) (.inl hdeclared)
  · exact or_congr_right (and_iff_left (h.location htable hdeclared).symm)

/-- The columns need no statement. -/
theorem columnsFor_reported (hd : desired.Valid) (hp : previous.Valid)
    (h : ReportedAs managed desired previous) :
    columnsFor kind (desired.reconcile managed previous) previous = [] := by
  have hnames : (desired.reconcile managed previous).columnNames.Nodup := by
    unfold TableSpec.columnNames
    rw [TableSpec.reconcile_columns]
    exact carriedColumns_nodup hd.columns_nodup hp.columns_nodup
  rw [columnsFor_eq_nil_iff hnames hp.columns_nodup, TableSpec.reconcile_columns,
    carriedColumns_agree_iff]
  refine or_iff_not_imp_left.mpr fun hdeclared => ?_
  rw [h.columns hdeclared]
  exact List.forall₂_same.mpr fun column _ => Column.Agrees.refl column

/-- The properties need no statement exactly when every managed one that is declared has its
declared value, or all are managed. -/
theorem propertiesFor_reported_eq_nil_iff (h : ReportedAs managed desired previous) :
    propertiesFor managed kind (desired.reconcile managed previous) previous = [] ↔
      (∀ key ∈ desired.properties.keys, managed.manages key = true →
        desired.properties.find? key = previous.properties.find? key) ∨
      (∀ key ∈ desired.properties.keys, managed.manages key = true) ∧
        ∀ key ∈ previous.properties.keys, managed.manages key = true := by
  rw [propertiesFor_eq_nil_iff, TableSpec.reconcile_properties, find?_carriedProperties_eq_iff,
    removedKeys_carriedProperties_eq_nil_iff]
  refine or_congr_left ⟨fun ⟨hdeclared, _⟩ key hkey _ => ?_, fun hsame => ⟨?_, ?_⟩⟩
  · obtain ⟨value, hvalue⟩ := PropertyMap.mem_keys_iff.mp hkey
    rw [hvalue, hdeclared key value hvalue]
  · intro key value hvalue
    cases hmanaged : managed.manages key with
    | false => exact h.declared key value hmanaged hvalue
    | true => rw [← hsame key (PropertyMap.mem_keys_iff.mpr ⟨value, hvalue⟩) hmanaged, hvalue]
  · intro key hreported hundeclared
    exact h.keepsProperty hreported hundeclared

/-- Every property has settled at its reported value. -/
theorem settledProperty_reported (h : ReportedAs managed desired previous) (key : String) :
    desired.settledProperty managed previous key = previous.properties.find? key := by
  unfold TableSpec.settledProperty
  cases hmanaged : managed.manages key with
  | true => rfl
  | false =>
      rw [if_neg Bool.false_ne_true]
      rcases hdeclared : desired.properties.find? key with _ | value
      · rw [Option.none_or]
        split
        next => rfl
        next hecho =>
          symm
          rw [PropertyMap.find?_eq_none_iff] at hdeclared ⊢
          intro hreported
          have hkept := h.keepsProperty hreported hdeclared
          unfold TableSpec.keepsProperty at hkept
          rw [hmanaged, Bool.false_or] at hkept
          exact hecho hkept
      · rw [Option.some_or, h.declared key value hmanaged hdeclared]

/-- **The first update after a creation.** Let the desired description be valid and of a supported
type, and let a valid description be reported that fits it.  Then

* the plan of the update is empty if and only if every managed property that is declared has its
  declared value, or all properties on both sides are managed; and, for a table with a declared
  location, some location is reported;
* in particular it is empty when no managed property is declared and a declared location is
  reported;
* carried out, the plan changes no property, so that a plan that is not empty says nothing new. -/
theorem script_reported_eq_nil_iff (managed : ManagedKeys) {desired previous : TableSpec}
    {type : TableType} (hd : desired.Valid) (hp : previous.Valid)
    (htype : desired.type = .supported type) (h : ReportedAs managed desired previous) :
    (Plan.script managed (desired.reconcile managed previous) previous = .ok [] ↔
      ((∀ key ∈ desired.properties.keys, managed.manages key = true →
          desired.properties.find? key = previous.properties.find? key) ∨
        (∀ key ∈ desired.properties.keys, managed.manages key = true) ∧
          ∀ key ∈ previous.properties.keys, managed.manages key = true) ∧
      (desired.isView = false → desired.location = "" ∨ previous.location ≠ "")) ∧
    ((∀ key ∈ desired.properties.keys, managed.manages key = false) →
      (desired.isView = false → desired.location = "" ∨ previous.location ≠ "") →
      Plan.script managed (desired.reconcile managed previous) previous = .ok []) ∧
    ∃ statements,
      Plan.statements managed (desired.reconcile managed previous) previous = .ok statements ∧
      ∀ key, (propertiesAfter previous.properties statements).find? key =
        previous.properties.find? key := by
  have hreconciled : (desired.reconcile managed previous).type = .supported type := by
    rw [TableSpec.reconcile_type, htype]
  have hplan := statements_of_supported managed previous hreconciled
  have hempty : Plan.script managed (desired.reconcile managed previous) previous = .ok [] ↔
      ((∀ key ∈ desired.properties.keys, managed.manages key = true →
          desired.properties.find? key = previous.properties.find? key) ∨
        (∀ key ∈ desired.properties.keys, managed.manages key = true) ∧
          ∀ key ∈ previous.properties.keys, managed.manages key = true) ∧
      (desired.isView = false → desired.location = "" ∨ previous.location ≠ "") := by
    have hcomment : commentFor type.kind (desired.reconcile managed previous) previous = [] := by
      rw [commentFor_eq_nil_iff, TableSpec.reconcile_comment, h.comment]
    rw [script_eq_nil_iff _ _ hreconciled, kindSpecific_reported_eq_nil_iff h,
      propertiesFor_reported_eq_nil_iff h]
    exact ⟨fun ⟨hlocation, _, hproperties, _⟩ => ⟨hproperties, hlocation⟩,
      fun ⟨hproperties, hlocation⟩ =>
        ⟨hlocation, hcomment, hproperties, columnsFor_reported hd hp h⟩⟩
  refine ⟨hempty, fun hnone hlocation => hempty.mpr ⟨.inl fun key hkey hmanaged => ?_, hlocation⟩,
    _, hplan, fun key => ?_⟩
  · rw [hnone key hkey] at hmanaged
    cases hmanaged
  · rw [find?_propertiesAfter_reconcile htype hplan, settledProperty_reported h]

/-- A managed property has its declared value, and the catalog reports columns, another managed
property, the options and a slash that were never declared: nothing is planned. -/
theorem script_reported_of_noise :
    let desired : TableSpec :=
      { TableSpec.ofColumns [] with
        location := "s3://sales/orders"
        properties := .ofList [("delta.checkpointPolicy", "classic"), ("team", "data")]
        options := .ofList [("header", "true")] }
    let previous : TableSpec :=
      { TableSpec.ofColumns [⟨"id", "int", "", true⟩] with
        location := "s3://sales/orders/"
        properties := .ofList [("delta.checkpointPolicy", "classic"),
          ("delta.minReaderVersion", "2"), ("header", "true"), ("option.header", "true"),
          ("team", "data")] }
    desired.Valid ∧ previous.Valid ∧ ReportedAs .default desired previous ∧
      Plan.script .default (desired.reconcile .default previous) previous = .ok [] := by
  intro desired previous
  have hd : desired.Valid := ⟨.inl rfl, nofun, fun _ => rfl, by decide⟩
  have hp : previous.Valid := ⟨.inl rfl, nofun, fun _ => rfl, by decide⟩
  have h : ReportedAs .default desired previous := {
    kind := rfl
    comment := rfl
    viewDefinition := rfl
    partitions := rfl
    clusterKeys := rfl
    columns := fun hdeclared => absurd rfl hdeclared
    location := fun _ _ => by decide
    declared := fun key value _ hdeclared => ?_
    others := by decide }
  · refine ⟨hd, hp, h, (script_reported_eq_nil_iff .default hd hp rfl h).1.mpr ⟨.inl ?_, ?_⟩⟩
    · decide
    · exact fun _ => .inr (by decide)
  · have hall : ∀ entry ∈ desired.properties.entries,
        previous.properties.find? entry.1 = some entry.2 := by decide
    exact hall (key, value) (PropertyMap.find?_eq_some_iff.mp hdeclared)

/-- A managed property is declared with another value than the catalog's, beside one of the user.
What is reported fits the description, and yet the property of the user is written once more. -/
theorem script_reported_of_contested :
    let desired : TableSpec :=
      { TableSpec.ofColumns [] with
        properties := .ofList [("delta.checkpointPolicy", "v2"), ("team", "data")] }
    let previous : TableSpec :=
      { TableSpec.ofColumns [] with
        properties := .ofList [("delta.checkpointPolicy", "classic"), ("team", "data")] }
    desired.Valid ∧ previous.Valid ∧ ReportedAs .default desired previous ∧
      Plan.script .default (desired.reconcile .default previous) previous =
        .ok ["ALTER TABLE `main`.`sales`.`orders` SET TBLPROPERTIES ('team'='data')"] := by
  intro desired previous
  have hd : desired.Valid := ⟨.inl rfl, nofun, fun _ => rfl, by decide⟩
  have hp : previous.Valid := ⟨.inl rfl, nofun, fun _ => rfl, by decide⟩
  refine ⟨hd, hp, {
    kind := rfl
    comment := rfl
    viewDefinition := rfl
    partitions := rfl
    clusterKeys := rfl
    columns := fun hdeclared => absurd rfl hdeclared
    location := fun _ hdeclared => absurd rfl hdeclared
    declared := fun key value hunmanaged hdeclared => ?_
    others := by decide }, by decide +kernel⟩
  have hall : ∀ entry ∈ desired.properties.entries,
      ManagedKeys.default.manages entry.1 = false →
        previous.properties.find? entry.1 = some entry.2 := by decide
  exact hall (key, value) (PropertyMap.find?_eq_some_iff.mp hdeclared) hunmanaged

end Plan

end TableReconciler
