import TableReconciler.Proofs.Columns.Rules
import TableReconciler.Proofs.Reconciled

/-!
# Reconciled descriptions are descriptions

A description is reconciled in three steps.  Each step builds a new description, and whenever one is
built its constraints are checked again.  `rebuilt` does both.  No check ever fails when the desired
and the previous description are valid, whatever their kinds (`rebuilt_eq`): a step that changes one
field leaves the constraints on the others as they were, columns are taken over as a whole, and a
view takes over no location.

Reconciling the result once more changes nothing (`reconcile_reconcile`).  This holds field by
field, because each field of the result already is what the previous description has to give.
-/

namespace TableReconciler

namespace PropertyMap

/-- A map has all pairs that it was extended by. -/
theorem extend_extend (m extra : PropertyMap) : (m.extend extra).extend extra = m.extend extra := by
  have hnone : extra.entries.filter (fun entry => !(m.extend extra).contains entry.1) = [] := by
    refine List.filter_eq_nil_iff.mpr fun entry hentry => ?_
    have hfound : ∃ value, (m.extend extra).find? entry.1 = some value := by
      rw [find?_extend, find?_eq_some_iff.mpr hentry]
      cases m.find? entry.1 <;> simp
    simpa [contains_iff, mem_keys_iff] using hfound
  have hentries : ((m.extend extra).extend extra).entries = (m.extend extra).entries ++ _ := rfl
  exact eq_of_entries_eq (hentries.trans (by rw [hnone, List.append_nil]))

end PropertyMap

namespace TableSpec

variable {managed : ManagedKeys} {desired previous : TableSpec}

/-! ## Constraints -/

/-- Taking over columns keeps a description valid. -/
theorem Valid.withPreviousColumns (hd : desired.Valid) (hp : previous.Valid) :
    (desired.withPreviousColumns previous).Valid := by
  rw [withPreviousColumns_eq]
  exact ⟨hd.layout, hd.location, hd.definition,
    Plan.carriedColumns_nodup hd.columns_nodup hp.columns_nodup⟩

/-- Adding properties keeps a description valid. -/
theorem Valid.withPreviousProperties (hd : desired.Valid) :
    (desired.withPreviousProperties managed previous).Valid :=
  ⟨hd.layout, hd.location, hd.definition, hd.columns_nodup⟩

/-- Taking over a location keeps a description valid, because a view takes over none. -/
theorem Valid.withPreviousLocation (hd : desired.Valid) :
    (desired.withPreviousLocation previous).Valid := by
  rw [withPreviousLocation_eq]
  refine ⟨hd.layout, fun hview => ?_, hd.definition, hd.columns_nodup⟩
  have hview : desired.isView = true := hview
  simpa [carriedLocation, hview] using hd.location hview

/-- Carry everything over, and check the constraints on the description after each step.  A step
that leaves a description as it is builds none; to check it all the same makes no difference where
it was valid before. -/
def rebuilt (managed : ManagedKeys) (desired previous : TableSpec) :
    Except InvalidTable TableSpec := do
  let declared ← (desired.withPreviousColumns previous).validated
  let known ← (declared.withPreviousProperties managed previous).validated
  (known.withPreviousLocation previous).validated

/-- The result of reconciliation is valid. -/
theorem Valid.reconcile (hd : desired.Valid) (hp : previous.Valid) :
    (desired.reconcile managed previous).Valid :=
  (hd.withPreviousColumns hp).withPreviousProperties.withPreviousLocation

/-- The constraints that are checked on the way are met. -/
theorem rebuilt_eq (hd : desired.Valid) (hp : previous.Valid) :
    desired.rebuilt managed previous = .ok (desired.reconcile managed previous) := by
  have hdeclared := hd.withPreviousColumns hp
  have hknown : ((desired.withPreviousColumns previous).withPreviousProperties managed
      previous).Valid := hdeclared.withPreviousProperties
  simp only [rebuilt, bind, Except.bind, validated_of_valid hdeclared, validated_of_valid hknown]
  exact validated_of_valid hknown.withPreviousLocation

/-! ## Reconciling again -/

/-- The columns stay. -/
theorem carriedColumns_reconcile :
    (desired.reconcile managed previous).carriedColumns previous =
      desired.carriedColumns previous := by
  rw [carriedColumns, reconcile_columns]
  unfold carriedColumns
  cases hdeclared : desired.columns.isEmpty with
  | true => simp
  | false => simp [hdeclared]

/-- The properties stay. -/
theorem carriedProperties_reconcile :
    (desired.reconcile managed previous).carriedProperties managed previous =
      desired.carriedProperties managed previous := by
  have hkeeps : (desired.reconcile managed previous).keepsProperty managed =
      desired.keepsProperty managed := by
    rw [reconcile_eq]
    rfl
  rw [carriedProperties, reconcile_properties, hkeeps]
  exact PropertyMap.extend_extend _ _

/-- The location stays. -/
theorem carriedLocation_reconcile :
    (desired.reconcile managed previous).carriedLocation previous =
      desired.carriedLocation previous := by
  rw [carriedLocation, reconcile_isView, reconcile_location]
  unfold carriedLocation
  split
  next => rfl
  next =>
    split
    next => exact ite_self _
    next => rfl

/-- Reconciling twice with the same previous description is reconciling once. -/
theorem reconcile_reconcile :
    (desired.reconcile managed previous).reconcile managed previous =
      desired.reconcile managed previous := by
  rw [reconcile_eq managed (desired.reconcile managed previous), carriedColumns_reconcile,
    carriedProperties_reconcile, carriedLocation_reconcile, reconcile_eq]

/-! ## Columns that were never declared -/

/-- Columns that were taken over are accepted. -/
theorem checkAll_reconcile_of_undeclared (hp : previous.Valid) (hnone : desired.columns = []) :
    ColumnRule.checkAll ColumnRule.defaults (desired.reconcile managed previous).columns
      previous.columns = .ok () := by
  have hcolumns : (desired.reconcile managed previous).columns = previous.columns := by
    rw [reconcile_columns, carriedColumns, hnone]
    rfl
  rw [hcolumns, ColumnRule.checkAll_defaults_eq_ok_iff hp.columns_nodup]
  exact .inl (List.forall₂_same.mpr fun _ _ => rfl)

/-- No statement changes columns that were taken over. -/
theorem columns_reconcile_of_undeclared (hd : desired.Valid) (hp : previous.Valid)
    (hnone : desired.columns = []) {type : TableType} (htype : desired.type = .supported type) :
    Plan.columns (desired.reconcile managed previous) previous = .ok [] := by
  have hresult : (desired.reconcile managed previous).Valid := hd.reconcile hp
  rw [Plan.columns_of_supported previous (by rw [reconcile_type, htype]), Except.ok.injEq,
    Plan.columnsFor_eq_nil_iff hresult.columns_nodup hp.columns_nodup, reconcile_columns,
    Plan.carriedColumns_agree_iff]
  exact .inl hnone

/-! ## Reconciliation as a whole -/

/-- The properties of the result are the declared ones, followed by previous ones that are kept. -/
theorem exists_carried (managed : ManagedKeys) (desired previous : TableSpec) :
    ∃ carried,
      (desired.reconcile managed previous).properties.entries =
        desired.properties.entries ++ carried ∧
      carried.Sublist previous.properties.entries ∧
      ∀ pair, pair ∈ carried ↔ pair ∈ previous.properties.entries ∧
        pair.1 ∉ desired.properties.keys ∧
        (managed.manages pair.1 = true ∨ pair.1 ∈ desired.options.keys ∨
          "option.".toList <+: pair.1.toList) := by
  rw [reconcile_properties]
  refine ⟨_, rfl, List.filter_sublist.trans List.filter_sublist, fun pair => ?_⟩
  rw [List.mem_filter, PropertyMap.filterKeys, List.mem_filter, keepsProperty_iff,
    Bool.not_eq_true', ← Bool.not_eq_true, PropertyMap.contains_iff, and_assoc,
    and_comm (b := _ ∉ _)]

/-- **Reconciliation is total, and once is enough.**  Let the desired and the previous description
be valid, of whatever kinds.

* There is a result, no check of the constraints on the way fails, and the result is valid.
* Reconciling the result again with the same previous description gives the very same description.
* The result differs from the desired description in columns, properties and location at most.
* Its properties are the declared ones as they are, followed by the previous ones that are not
  declared and are managed, are options or have the prefix for options, in their previous order.
* When no columns are declared the default rules accept the columns of the result, and no statement
  on columns is planned for a supported type. -/
theorem reconciled_of_valid (managed : ManagedKeys) {desired previous : TableSpec}
    (hd : desired.Valid) (hp : previous.Valid) :
    ∃ result carried,
      desired.reconciled managed previous = .ok result ∧
      desired.rebuilt managed previous = .ok result ∧
      result.Valid ∧
      result.reconciled managed previous = .ok result ∧
      result.rebuilt managed previous = .ok result ∧
      result = { desired with
        columns := result.columns
        properties := result.properties
        location := result.location } ∧
      result.properties.entries = desired.properties.entries ++ carried ∧
      carried.Sublist previous.properties.entries ∧
      (∀ pair, pair ∈ carried ↔ pair ∈ previous.properties.entries ∧
        pair.1 ∉ desired.properties.keys ∧
        (managed.manages pair.1 = true ∨ pair.1 ∈ desired.options.keys ∨
          "option.".toList <+: pair.1.toList)) ∧
      (desired.columns = [] →
        ColumnRule.checkAll ColumnRule.defaults result.columns previous.columns = .ok () ∧
        ∀ type, desired.type = .supported type → Plan.columns result previous = .ok []) := by
  have hvalid : (desired.reconcile managed previous).Valid := hd.reconcile hp
  obtain ⟨carried, hentries, hsublist, hcarried⟩ := exists_carried managed desired previous
  refine ⟨desired.reconcile managed previous, carried, reconciled_string _ _ _, rebuilt_eq hd hp,
    hvalid, ?_, ?_, ?_, hentries, hsublist, hcarried, fun hnone =>
      ⟨checkAll_reconcile_of_undeclared hp hnone, fun type htype =>
        columns_reconcile_of_undeclared hd hp hnone htype⟩⟩
  · rw [reconciled_string, reconcile_reconcile]
  · rw [rebuilt_eq hvalid hp, reconcile_reconcile]
  · rw [reconcile_columns, reconcile_properties, reconcile_location]
    exact reconcile_eq managed desired previous

/-- A view without columns, and a table that stands where the view is to be: the columns and the two
properties that were not declared are taken over, the location is not. -/
theorem reconciled_of_view_for_table :
    let desired : TableSpec :=
      { TableSpec.ofColumns [] with
        type := .supported .view
        viewDefinition := "SELECT id FROM orders"
        properties := .ofList [("team", "data"), ("tier", "gold")]
        options := .ofList [("header", "true")] }
    let previous : TableSpec :=
      { TableSpec.ofColumns [⟨"id", "int", "", true⟩] with
        type := .supported .external
        location := "s3://sales/orders/"
        properties := .ofList [("header", "true"), ("old", "1"), ("tier", "silver"),
          ("delta.minReaderVersion", "2")] }
    ∃ result,
      desired.rebuilt .default previous = .ok result ∧ result.Valid ∧
      result.rebuilt .default previous = .ok result ∧
      result = { desired with
        columns := previous.columns
        properties := .ofList [("team", "data"), ("tier", "gold"), ("header", "true"),
          ("delta.minReaderVersion", "2")] } ∧
      Plan.columns result previous = .ok [] := by
  intro desired previous
  have hd : desired.Valid := ⟨.inl rfl, fun _ => rfl, nofun, by decide⟩
  have hp : previous.Valid := ⟨.inl rfl, nofun, fun _ => rfl, by decide⟩
  obtain ⟨result, -, hresult, hrebuilt, hvalid, -, hagain, -, -, -, -, hcolumns⟩ :=
    reconciled_of_valid .default hd hp
  refine ⟨result, hrebuilt, hvalid, hagain, ?_, (hcolumns rfl).2 .view rfl⟩
  rw [reconciled_string] at hresult
  cases hresult
  decide +kernel

end TableSpec

end TableReconciler
