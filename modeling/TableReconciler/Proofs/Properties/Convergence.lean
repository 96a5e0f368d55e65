import TableReconciler.Proofs.Columns.Effect
import TableReconciler.Proofs.Plan.Wording
import TableReconciler.Proofs.Properties.Effect
import TableReconciler.Proofs.Properties.Order
import TableReconciler.Proofs.Reconciled

/-!
# Where an update leaves the properties

Which value every key has once the plan of an update is carried out.  A key can be declared, be
managed, repeat an option and stand in the catalog, in any combination; `settledProperty` names its
value in each, and `propertiesAfter_reconcile` says that the update leads there.

The catalog's own properties are safe from the user's configuration: no statement of a plan names a
managed key (`manages_of_mem_propertyKeys`), whatever the configuration declares.
-/

namespace TableReconciler

/-- The property keys that a statement names. -/
def Statement.propertyKeys : Statement → List String
  | .unsetProperties _ _ keys => keys
  | .setProperties _ _ pairs => pairs.keys
  | _ => []

/-- Only statements on properties name keys. -/
theorem Statement.propertyKeys_of_isOnProperties {statement : Statement}
    (h : statement.isOnProperties = false) : statement.propertyKeys = [] := by
  cases statement with
  | unsetProperties | setProperties => cases h
  | _ => rfl

/-- The value that a key is to have after an update: the catalog's own if the catalog manages the
key; else the declared one, if there is one; else the previous one if the key repeats an option, and
none if it does not. -/
def TableSpec.settledProperty (managed : ManagedKeys) (desired previous : TableSpec)
    (key : String) : Option String :=
  if managed.manages key then previous.properties.find? key
  else (desired.properties.find? key).or
    (if desired.options.contains key || isOptionEcho key then previous.properties.find? key
      else none)

namespace Plan

variable {managed : ManagedKeys} {kind : ObjectKind} {name : QualifiedName} {key : String}

/-! ## Keys that are named -/

/-- The changes of two property maps name no managed key: neither among those to be removed nor
among those to be written. -/
theorem manages_of_mem_propertyChanges {desired previous : PropertyMap} {statement : Statement}
    (h : statement ∈ propertyChanges managed kind name desired previous)
    (hkey : key ∈ statement.propertyKeys) : managed.manages key = false := by
  unfold propertyChanges at h
  rcases List.mem_append.mp h with hunset | hset
  · split at hunset
    · cases hunset
    · rw [List.mem_singleton.mp hunset] at hkey
      exact (mem_removedKeys_iff.mp hkey).2.2
  · split at hset
    · cases hset
    · rw [List.mem_singleton.mp hset] at hkey
      obtain ⟨value, hvalue⟩ := PropertyMap.mem_keys_iff.mp hkey
      rw [ManagedKeys.find?_unmanaged] at hvalue
      by_contra hmanaged
      rw [if_pos (Bool.of_not_eq_false hmanaged)] at hvalue
      cases hvalue

section descriptions

variable {desired previous : TableSpec} {statement : Statement}

/-- No statement of a plan names a managed key. -/
theorem manages_of_mem_propertyKeys {type : TableType} {statements : List Statement}
    (htype : desired.type = .supported type)
    (hplan : Plan.statements managed desired previous = .ok statements)
    (h : statement ∈ statements) (hkey : key ∈ statement.propertyKeys) :
    managed.manages key = false := by
  rw [statements_of_supported _ _ htype] at hplan
  cases hplan
  simp only [List.mem_append] at h
  rcases h with ((h | h) | h) | h
  · rw [Statement.propertyKeys_of_isOnProperties (isOnProperties_of_mem_kindSpecific h)] at hkey
    cases hkey
  · rw [Statement.propertyKeys_of_isOnProperties (isOnProperties_of_mem_commentFor h)] at hkey
    cases hkey
  · unfold propertiesFor at h
    split at h
    · cases h
    · exact manages_of_mem_propertyChanges h hkey
  · rw [Statement.propertyKeys_of_isOnProperties (isOnProperties_of_mem_columnsFor h)] at hkey
    cases hkey

end descriptions

/-! ## Values that are reached -/

/-- A key that is not managed has its settled value in the reconciled description. -/
theorem find?_carriedProperties_of_unmanaged {desired previous : TableSpec}
    (hunmanaged : managed.manages key = false) :
    (desired.carriedProperties managed previous).find? key =
      desired.settledProperty managed previous key := by
  rw [TableSpec.find?_carriedProperties]
  unfold TableSpec.settledProperty TableSpec.keepsProperty
  rw [hunmanaged, Bool.false_or, if_neg Bool.false_ne_true]

/-- The plan of an update leads every key to its settled value. -/
theorem find?_propertiesAfter_reconcile {desired previous : TableSpec} {type : TableType}
    {statements : List Statement} (htype : desired.type = .supported type)
    (hplan : Plan.statements managed (desired.reconcile managed previous) previous =
      .ok statements) (key : String) :
    (propertiesAfter previous.properties statements).find? key =
      desired.settledProperty managed previous key := by
  have hreconciled : (desired.reconcile managed previous).type = .supported type := by
    rw [TableSpec.reconcile_type, htype]
  rw [find?_propertiesAfter hreconciled hplan, TableSpec.reconcile_properties]
  by_cases hmanaged : managed.manages key = true
  · unfold TableSpec.settledProperty
    rw [if_pos hmanaged, if_pos hmanaged]
  · rw [if_neg hmanaged, find?_carriedProperties_of_unmanaged (Bool.eq_false_iff.mpr hmanaged)]

/-- **Where an update leaves the properties.** Let the desired description have a supported type.
The plan of the update can be written, each statement in its own form, and once the statements are
carried out in their order

* a managed key has the value it had, or none if it had none, whatever is declared for it;
* any other key that is declared has its declared value;
* any other key that is the key of an option or has the prefix for options has the value it had, or
  none if it had none;
* all other keys are gone.

No statement of the plan names a managed key. -/
theorem propertiesAfter_reconcile (managed : ManagedKeys) {desired : TableSpec}
    (previous : TableSpec) {type : TableType} (htype : desired.type = .supported type) :
    ∃ statements,
      Plan.statements managed (desired.reconcile managed previous) previous = .ok statements ∧
      Plan.script managed (desired.reconcile managed previous) previous =
        .ok (statements.map Statement.render) ∧
      List.Forall₂ Statement.WrittenAs statements (statements.map Statement.render) ∧
      let after := propertiesAfter previous.properties statements
      (∀ key, managed.manages key = true → after.find? key = previous.properties.find? key) ∧
      (∀ key value, managed.manages key = false → desired.properties.find? key = some value →
        after.find? key = some value) ∧
      (∀ key, managed.manages key = false → key ∉ desired.properties.keys →
        key ∈ desired.options.keys ∨ "option.".toList <+: key.toList →
        after.find? key = previous.properties.find? key) ∧
      (∀ key, managed.manages key = false → key ∉ desired.properties.keys →
        key ∉ desired.options.keys → ¬ "option.".toList <+: key.toList →
        after.find? key = none) ∧
      ∀ statement ∈ statements, ∀ key ∈ statement.propertyKeys, managed.manages key = false := by
  have hreconciled : (desired.reconcile managed previous).type = .supported type := by
    rw [TableSpec.reconcile_type, htype]
  have hplan := statements_of_supported managed previous hreconciled
  refine ⟨_, hplan, script_of_statements hplan, Statement.forall₂_writtenAs _, ?_⟩
  have hvalue := find?_propertiesAfter_reconcile htype hplan
  -- whether a key repeats an option, as it is computed and as it is stated
  have hecho : ∀ key, (desired.options.contains key || TableSpec.isOptionEcho key) = true ↔
      key ∈ desired.options.keys ∨ "option.".toList <+: key.toList := fun key => by
    rw [Bool.or_eq_true, PropertyMap.contains_iff, TableSpec.isOptionEcho,
      List.isPrefixOf_iff_prefix]
  refine ⟨fun key hmanaged => ?_, fun key value hunmanaged hdeclared => ?_,
    fun key hunmanaged hundeclared hoption => ?_,
    fun key hunmanaged hundeclared hnoKey hnoPrefix => ?_,
    fun statement hmem key hkey => manages_of_mem_propertyKeys hreconciled hplan hmem hkey⟩
  · rw [hvalue, TableSpec.settledProperty, if_pos hmanaged]
  · rw [hvalue, TableSpec.settledProperty, hunmanaged, if_neg Bool.false_ne_true, hdeclared,
      Option.some_or]
  · rw [hvalue, TableSpec.settledProperty, hunmanaged, if_neg Bool.false_ne_true,
      PropertyMap.find?_eq_none_iff.mpr hundeclared, Option.none_or,
      if_pos ((hecho key).mpr hoption)]
  · have hnone : ¬(desired.options.contains key || TableSpec.isOptionEcho key) = true :=
      fun h => ((hecho key).mp h).elim hnoKey hnoPrefix
    rw [hvalue, TableSpec.settledProperty, hunmanaged, if_neg Bool.false_ne_true,
      PropertyMap.find?_eq_none_iff.mpr hundeclared, Option.none_or, if_neg hnone]

/-- A managed key is declared against the catalog's value, one property is declared anew, an option
is repeated, and one property is left over: the first and the third keep their values, the second
takes its declared one, the last is gone. -/
theorem propertiesAfter_reconcile_of_overlap :
    let desired : TableSpec :=
      { TableSpec.ofColumns [] with
        properties := .ofList [("delta.checkpointPolicy", "v2"), ("team", "data")]
        options := .ofList [("header", "true")] }
    let previous : TableSpec :=
      { TableSpec.ofColumns [] with
        properties := .ofList [("delta.checkpointPolicy", "classic"), ("header", "true"),
          ("old", "1"), ("team", "ops")] }
    ∃ statements,
      Plan.statements .default (desired.reconcile .default previous) previous = .ok statements ∧
      Plan.script .default (desired.reconcile .default previous) previous = .ok
        ["ALTER TABLE `main`.`sales`.`orders` UNSET TBLPROPERTIES IF EXISTS (old)",
        "ALTER TABLE `main`.`sales`.`orders` SET TBLPROPERTIES ('header'='true', 'team'='data')"] ∧
      let after := propertiesAfter previous.properties statements
      after.find? "delta.checkpointPolicy" = some "classic" ∧ after.find? "team" = some "data" ∧
        after.find? "header" = some "true" ∧ after.find? "old" = none := by
  intro desired previous
  have htype : desired.type = .supported .managed := rfl
  obtain ⟨statements, hplan, hscript, -, hmanaged, hdeclared, hoption, hother, -⟩ :=
    propertiesAfter_reconcile .default previous htype
  let written : PropertyMap := .ofList [("team", "data"), ("header", "true")]
  have hstatements : statements = [.unsetProperties .table desired.name ["old"],
      .setProperties .table desired.name written] :=
    Except.ok.inj (hplan.symm.trans (by decide +kernel))
  let inOrder : PropertyMap := .ofList [("header", "true"), ("team", "data")]
  have hsame : ∀ key, written.find? key = inOrder.find? key :=
    PropertyMap.equivalent_iff.mp (by decide)
  have hsorted : written.sorted = [("header", "true"), ("team", "data")] :=
    (PropertyMap.sorted_eq hsame).trans (List.mergeSort_of_pairwise (by decide))
  refine ⟨statements, hplan, ?_, ?_, hdeclared _ _ (by decide) (by decide), ?_,
    hother _ (by decide) (by decide) (by decide) (by decide)⟩
  · rw [hscript, hstatements]
    simp only [List.map_cons, List.map_nil, Statement.render, Ddl.setProperties, Ddl.assignments,
      hsorted]
    decide +kernel
  · exact (hmanaged _ (by decide)).trans (by decide)
  · exact (hoption _ (by decide) (by decide) (.inl (by decide))).trans (by decide)

end Plan

end TableReconciler
