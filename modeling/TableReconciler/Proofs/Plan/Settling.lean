import TableReconciler.Proofs.Plan.Drift

/-!
# Planning again

An update brings an object to its reconciled description, as far as its plan says so
(`TableSpec.updated`).  Main statement: `script_updated_eq_nil_iff` says exactly when the next
update with the same desired description plans nothing.

The second reconciliation carries over what the first one did, because the first plan left it there:
the location (`carriedLocation_updated`), the columns (`carriedColumns_updated`) and the value of
every property (`find?_carriedProperties_updated`).  What remains to differ are managed properties
that the desired description declares with another value.  No plan ever writes those, so that they
differ again, and the properties that the user controls are written once more, if there are any.
-/

namespace TableReconciler

namespace TableSpec

/-- The description of an object once the plan that leads to `reconciled` is carried out on it.
The properties are what the statements of the plan make of them. -/
def updated (previous reconciled : TableSpec) (plan : List Statement) : TableSpec :=
  { previous with
    viewDefinition :=
      if previous.isView then reconciled.viewDefinition else previous.viewDefinition
    location := if previous.isView then previous.location else reconciled.location
    clusterKeys := if previous.isView then previous.clusterKeys else reconciled.clusterKeys
    comment := reconciled.comment
    columns := reconciled.columns
    properties := Plan.propertiesAfter previous.properties plan }

variable {previous reconciled : TableSpec} {plan : List Statement}

theorem updated_viewDefinition (hview : previous.isView = true) :
    (previous.updated reconciled plan).viewDefinition = reconciled.viewDefinition :=
  if_pos hview

theorem updated_location (htable : previous.isView = false) :
    (previous.updated reconciled plan).location = reconciled.location :=
  if_neg (Bool.eq_false_iff.mp htable)

theorem updated_clusterKeys (htable : previous.isView = false) :
    (previous.updated reconciled plan).clusterKeys = reconciled.clusterKeys :=
  if_neg (Bool.eq_false_iff.mp htable)

theorem updated_comment : (previous.updated reconciled plan).comment = reconciled.comment := rfl

theorem updated_columns : (previous.updated reconciled plan).columns = reconciled.columns := rfl

end TableSpec

namespace Plan

variable {managed : ManagedKeys} {desired previous updated : TableSpec}

/-! ## What the second reconciliation finds -/

/-- A table whose location is the reconciled one has it again after reconciliation. -/
theorem carriedLocation_updated (htable : desired.isView = false)
    (h : updated.location = desired.carriedLocation previous) :
    desired.carriedLocation updated = updated.location := by
  rw [TableSpec.carriedLocation_eq_previous_iff htable]
  by_cases hdeclared : desired.location = ""
  · exact .inl hdeclared
  by_cases hcarried : desired.carriedLocation previous = previous.location
  · rw [h, hcarried]
    exact (TableSpec.carriedLocation_eq_previous_iff htable).mp hcarried
  · -- the declared location was not replaced
    have hkept : desired.carriedLocation previous = desired.location := by
      unfold TableSpec.carriedLocation at hcarried ⊢
      split at hcarried
      next hfirst => rw [if_pos hfirst]
      next hfirst =>
        rw [if_neg hfirst]
        split at hcarried
        next => exact absurd rfl hcarried
        next hsecond => rw [if_neg hsecond]
    rw [h, hkept]
    exact .inr ⟨hdeclared, rfl⟩

/-- An object whose columns are the reconciled ones has them again after reconciliation. -/
theorem carriedColumns_updated (h : updated.columns = desired.carriedColumns previous) :
    desired.carriedColumns updated = updated.columns := by
  rw [h]
  unfold TableSpec.carriedColumns at h ⊢
  split
  next hnone => rw [h, if_pos hnone]
  next => rfl

/-- Properties that are unchanged where they are managed, and the reconciled ones elsewhere, are
reconciled to the same values again. -/
theorem find?_carriedProperties_updated
    (h : ∀ key, updated.properties.find? key =
      if managed.manages key then previous.properties.find? key
      else (desired.carriedProperties managed previous).find? key) (key : String) :
    (desired.carriedProperties managed updated).find? key =
      (desired.carriedProperties managed previous).find? key := by
  rw [TableSpec.find?_carriedProperties, TableSpec.find?_carriedProperties, h key,
    TableSpec.find?_carriedProperties]
  rcases desired.properties.find? key with _ | value
  · rw [Option.none_or, Option.none_or]
    split
    next => rw [ite_self]
    next => rfl
  · rw [Option.some_or, Option.some_or]

/-- The second plan has no statement on properties exactly when the declared managed properties have
their declared values already, or the user controls none of the reconciled properties. -/
theorem propertiesFor_updated_eq_nil_iff {kind : ObjectKind}
    (h : ∀ key, updated.properties.find? key =
      if managed.manages key then previous.properties.find? key
      else (desired.carriedProperties managed previous).find? key) :
    propertiesFor managed kind (desired.reconcile managed updated) updated = [] ↔
      (∀ key ∈ desired.properties.keys, managed.manages key = true →
        desired.properties.find? key = previous.properties.find? key) ∨
      ∀ key ∈ (desired.reconcile managed updated).properties.keys, managed.manages key = true := by
  have hagain := find?_carriedProperties_updated h
  rw [propertiesFor_eq_nil_iff, TableSpec.reconcile_properties]
  refine or_congr ⟨fun hsame key hdeclared hmanaged => ?_, fun hdeclared key => ?_⟩
    (and_iff_right ?_)
  · obtain ⟨value, hvalue⟩ := PropertyMap.mem_keys_iff.mp hdeclared
    have hkey := hsame key
    rw [h key, if_pos hmanaged, TableSpec.find?_carriedProperties, hvalue, Option.some_or] at hkey
    rw [hvalue, hkey]
  · rw [hagain key, h key]
    split
    next hmanaged =>
      have hkept : desired.keepsProperty managed key = true :=
        TableSpec.keepsProperty_iff.mpr (.inl hmanaged)
      rw [TableSpec.find?_carriedProperties, if_pos hkept]
      rcases hvalue : desired.properties.find? key with _ | value
      · rw [Option.none_or]
      · have hmem := PropertyMap.mem_keys_iff.mpr ⟨value, hvalue⟩
        rw [Option.some_or, ← hvalue, hdeclared key hmem hmanaged]
    next => rfl
  · -- a key that is not managed is on both sides or on neither
    refine List.eq_nil_iff_forall_not_mem.mpr fun key hkey => ?_
    obtain ⟨hthere, hgone, hunmanaged⟩ := mem_removedKeys_iff.mp hkey
    rw [← PropertyMap.find?_eq_none_iff, hagain key] at hgone
    obtain ⟨value, hvalue⟩ := PropertyMap.mem_keys_iff.mp hthere
    rw [h key, if_neg (Bool.eq_false_iff.mp hunmanaged), hgone] at hvalue
    cases hvalue

/-! ## The second plan -/

variable {plan : List Statement}

/-- The second plan has no statement that concerns only views, or only tables. -/
theorem kindSpecific_updated (hkind : desired.isView = previous.isView)
    (h : updated = previous.updated (desired.reconcile managed previous) plan) :
    kindSpecific (desired.reconcile managed updated) updated = [] := by
  rw [kindSpecific_eq_nil_iff, TableSpec.reconcile_isView, TableSpec.reconcile_viewDefinition,
    TableSpec.reconcile_location, TableSpec.reconcile_clusterKeys, hkind]
  refine ⟨fun hview => ?_, fun htable => ⟨?_, ?_⟩⟩
  · rw [h, TableSpec.updated_viewDefinition hview, TableSpec.reconcile_viewDefinition]
  · have hlocation : updated.location = desired.carriedLocation previous := by
      rw [h, TableSpec.updated_location htable, TableSpec.reconcile_location]
    exact carriedLocation_updated (hkind.trans htable) hlocation
  · rw [h, TableSpec.updated_clusterKeys htable, TableSpec.reconcile_clusterKeys]

/-- The second plan has no statement on the comment. -/
theorem commentFor_updated {kind : ObjectKind}
    (h : updated = previous.updated (desired.reconcile managed previous) plan) :
    commentFor kind (desired.reconcile managed updated) updated = [] := by
  rw [commentFor_eq_nil_iff, TableSpec.reconcile_comment, h, TableSpec.updated_comment,
    TableSpec.reconcile_comment]

/-- The second plan has no statement on columns. -/
theorem columnsFor_updated {kind : ObjectKind}
    (h : updated = previous.updated (desired.reconcile managed previous) plan) :
    columnsFor kind (desired.reconcile managed updated) updated = [] := by
  have hcolumns : updated.columns = desired.carriedColumns previous := by
    rw [h, TableSpec.updated_columns, TableSpec.reconcile_columns]
  unfold columnsFor
  rw [TableSpec.reconcile_columns, carriedColumns_updated hcolumns, ColumnChange.between_self]
  rfl

/-- **Planning again.** Let both descriptions be views or both be no views, and let the desired one
have a supported type.  The first plan can be written, and once it is carried out

* the second plan is empty if and only if every managed property that is declared has had its
  declared value from the start, or the user controls none of the properties that the second
  reconciliation yields;
* in particular the second plan is empty when no managed property is declared. -/
theorem script_updated_eq_nil_iff (managed : ManagedKeys) {desired previous : TableSpec}
    {type : TableType} (htype : desired.type = .supported type)
    (hkind : desired.isView = previous.isView) :
    ∃ plan,
      Plan.statements managed (desired.reconcile managed previous) previous = .ok plan ∧
      let updated := previous.updated (desired.reconcile managed previous) plan
      (Plan.script managed (desired.reconcile managed updated) updated = .ok [] ↔
        (∀ key ∈ desired.properties.keys, managed.manages key = true →
          desired.properties.find? key = previous.properties.find? key) ∨
        ∀ key ∈ (desired.reconcile managed updated).properties.keys,
          managed.manages key = true) ∧
      ((∀ key ∈ desired.properties.keys, managed.manages key = false) →
        Plan.script managed (desired.reconcile managed updated) updated = .ok []) := by
  have hreconciled : ∀ other, (desired.reconcile managed other).type = .supported type :=
    fun other => (TableSpec.reconcile_type managed desired other).trans htype
  have hplan := statements_of_supported managed previous (hreconciled previous)
  refine ⟨_, hplan, ?_⟩
  intro updated
  have hproperties : ∀ key, updated.properties.find? key =
      if managed.manages key then previous.properties.find? key
      else (desired.carriedProperties managed previous).find? key := by
    intro key
    rw [← TableSpec.reconcile_properties]
    exact find?_propertiesAfter (hreconciled previous) hplan key
  have hempty : Plan.script managed (desired.reconcile managed updated) updated = .ok [] ↔
      (∀ key ∈ desired.properties.keys, managed.manages key = true →
        desired.properties.find? key = previous.properties.find? key) ∨
      ∀ key ∈ (desired.reconcile managed updated).properties.keys, managed.manages key = true := by
    rw [script_eq_nil_iff _ _ (hreconciled updated),
      ← propertiesFor_updated_eq_nil_iff hproperties]
    exact ⟨fun h => h.2.2.1, fun h =>
      ⟨kindSpecific_updated hkind rfl, commentFor_updated rfl, h, columnsFor_updated rfl⟩⟩
  refine ⟨hempty, fun hnone => hempty.mpr (.inl fun key hkey hmanaged => ?_)⟩
  rw [hnone key hkey] at hmanaged
  cases hmanaged

/-- A managed property is declared with another value than the catalog's, beside one of the user:
the second plan is not empty. -/
theorem script_updated_of_contested :
    let desired : TableSpec :=
      { TableSpec.ofColumns [] with
        properties := .ofList [("delta.checkpointPolicy", "v2"), ("team", "data")] }
    let previous : TableSpec :=
      { TableSpec.ofColumns [] with
        properties := .ofList [("delta.checkpointPolicy", "classic")] }
    ∃ plan,
      Plan.statements .default (desired.reconcile .default previous) previous = .ok plan ∧
      let updated := previous.updated (desired.reconcile .default previous) plan
      Plan.script .default (desired.reconcile .default updated) updated ≠ .ok [] := by
  intro desired previous
  have hkind : desired.isView = previous.isView := rfl
  obtain ⟨plan, hplan, hempty, -⟩ := script_updated_eq_nil_iff .default rfl hkind
  refine ⟨plan, hplan, fun hscript => ?_⟩
  rcases hempty.mp hscript with hsame | hmanaged
  · -- the catalog has another value
    have hvalue := hsame "delta.checkpointPolicy" (by decide) (by decide)
    exact absurd hvalue (by decide)
  · have hdeclared : "team" ∈ desired.properties.keys := by decide
    rw [TableSpec.reconcile_properties] at hmanaged
    have hteam := hmanaged "team" (TableSpec.mem_keys_carriedProperties_iff.mpr (.inl hdeclared))
    exact absurd hteam (by decide)

end Plan

end TableReconciler
