import TableReconciler.Proofs.Plan.Drift

/-!
# Managing more keys

When the catalog is told to manage further keys, an update and the statement that creates an object
leave these keys alone, and nothing else changes (`script_of_extended`).

This holds although the further keys are carried over from the previous description where they were
not before, so that the reconciled map is another one, and it is this map which decides whether the
plan has statements on properties at all.  But the keys that a plan removes do not depend on that
decision (`removals_propertiesFor`), and a map that is equivalent to the previous one stays so when
more is carried over (`equivalent_extend`).
-/

namespace TableReconciler

/-! ## Leaving keys out -/

namespace PropertyMap

/-- The pairs whose keys are not among the given ones. -/
def without (m : PropertyMap) (keys : List String) : PropertyMap :=
  m.filterKeys fun key => !keys.contains key

/-- Nothing is left of a map without pairs. -/
theorem isEmpty_without {m : PropertyMap} {keys : List String} (h : m.isEmpty = true) :
    (m.without keys).isEmpty = true := by
  have hnone : m.entries = [] := List.isEmpty_iff.mp h
  simp [isEmpty, without, filterKeys, hnone]

end PropertyMap

/-- The description without the properties and options that have the given keys. -/
def TableSpec.without (d : TableSpec) (keys : List String) : TableSpec :=
  { d with properties := d.properties.without keys, options := d.options.without keys }

namespace ManagedKeys

variable (managed : ManagedKeys) (keys : List String)

/-- The keys that are managed once further ones are. -/
theorem manages_extend (key : String) :
    (managed.extend keys).manages key = (managed.manages key || keys.contains key) := by
  simp [manages, extend]

/-- The user controls what the further keys leave. -/
theorem unmanaged_extend (m : PropertyMap) :
    (managed.extend keys).unmanaged m = managed.unmanaged (m.without keys) := by
  apply PropertyMap.eq_of_entries_eq
  simp only [unmanaged, PropertyMap.without, PropertyMap.filterKeys, List.filter_filter,
    manages_extend, Bool.not_or]

end ManagedKeys

/-! ## Carrying more over -/

namespace TableSpec

variable {managed : ManagedKeys} {keys : List String} {desired previous : TableSpec} {key : String}

/-- A property is kept once its key is among the further ones. -/
theorem keepsProperty_extend :
    desired.keepsProperty (managed.extend keys) key =
      (desired.keepsProperty managed key || keys.contains key) := by
  simp only [keepsProperty, ManagedKeys.manages_extend, Bool.or_assoc, Bool.or_comm]

/-- Of the reconciled properties the user controls the same, less the further keys. -/
theorem unmanaged_carriedProperties_extend :
    (managed.extend keys).unmanaged (desired.carriedProperties (managed.extend keys) previous) =
      (managed.unmanaged (desired.carriedProperties managed previous)).without keys := by
  apply PropertyMap.eq_of_entries_eq
  simp only [ManagedKeys.unmanaged, PropertyMap.without, PropertyMap.filterKeys,
    carriedProperties, PropertyMap.extend, List.filter_append, List.filter_filter,
    keepsProperty_extend, ManagedKeys.manages_extend]
  congr 1
  · exact List.filter_congr fun entry _ => by rw [Bool.not_or, Bool.and_comm]
  · -- a carried pair that the user controls repeats an option, also before the keys were added
    refine List.filter_congr fun entry _ => ?_
    cases managed.manages entry.1 <;> cases keys.contains entry.1 <;> simp

/-- The keys to remove are the same, less the further ones. -/
theorem removedKeys_carriedProperties_extend :
    Plan.removedKeys (managed.extend keys)
        (desired.carriedProperties (managed.extend keys) previous) previous.properties =
      (Plan.removedKeys managed (desired.carriedProperties managed previous)
        previous.properties).filter fun key => !keys.contains key := by
  unfold Plan.removedKeys
  rw [List.filter_filter]
  refine List.filter_congr fun key hkey => ?_
  rw [Bool.eq_iff_iff]
  simp only [Bool.and_eq_true, Bool.not_eq_true', ← Bool.not_eq_true, PropertyMap.contains_iff,
    mem_keys_carriedProperties_iff, keepsProperty_extend, ManagedKeys.manages_extend,
    Bool.or_eq_true, hkey, true_and]
  tauto

/-- Reconciled properties that are the previous ones stay so when more is carried over. -/
theorem equivalent_extend
    (h : (desired.carriedProperties managed previous).equivalent previous.properties = true) :
    (desired.carriedProperties (managed.extend keys) previous).equivalent previous.properties =
      true := by
  rw [PropertyMap.equivalent_iff, Plan.find?_carriedProperties_eq_iff] at h ⊢
  refine ⟨h.1, fun key hprevious hundeclared => ?_⟩
  rw [keepsProperty_extend, h.2 key hprevious hundeclared, Bool.true_or]

end TableSpec

/-! ## What a plan does with properties -/

namespace Statement

/-- The keys that a statement removes, if it removes properties. -/
def removed? : Statement → Option (List String)
  | .unsetProperties _ _ keys => some keys
  | _ => none

/-- The pairs that a statement writes, if it writes properties. -/
def written? : Statement → Option PropertyMap
  | .setProperties _ _ pairs => some pairs
  | _ => none

end Statement

namespace Plan

/-! ### Three projections -/

/-- What the statements of a plan remove that remove properties. -/
def removals (plan : List Statement) : List (List String) :=
  plan.filterMap Statement.removed?

/-- What the statements of a plan write that write properties. -/
def writings (plan : List Statement) : List PropertyMap :=
  plan.filterMap Statement.written?

/-- The statements of a plan that are not on properties. -/
def others (plan : List Statement) : List Statement :=
  plan.filter fun statement => !statement.isOnProperties

theorem removals_append (first second : List Statement) :
    removals (first ++ second) = removals first ++ removals second :=
  List.filterMap_append

theorem writings_append (first second : List Statement) :
    writings (first ++ second) = writings first ++ writings second :=
  List.filterMap_append

theorem others_append (first second : List Statement) :
    others (first ++ second) = others first ++ others second :=
  List.filter_append first second

variable {managed : ManagedKeys} {kind : ObjectKind} {desired previous : TableSpec}
  {plan : List Statement}

/-- Statements that are not on properties remove and write none. -/
theorem projections_of_others (plan : List Statement)
    (h : ∀ statement ∈ plan, statement.isOnProperties = false) :
    removals plan = [] ∧ writings plan = [] ∧ others plan = plan := by
  refine ⟨List.filterMap_eq_nil_iff.mpr fun statement hmem => ?_,
    List.filterMap_eq_nil_iff.mpr fun statement hmem => ?_,
    List.filter_eq_self.mpr fun statement hmem => by rw [h statement hmem, Bool.not_false]⟩
  all_goals
    have hothers := h statement hmem
    cases statement with
    | unsetProperties | setProperties => cases hothers
    | _ => rfl

/-- No key is to be removed when the maps are equivalent. -/
theorem removedKeys_of_equivalent {m n : PropertyMap} (h : m.equivalent n = true) :
    removedKeys managed m n = [] := by
  rw [PropertyMap.equivalent_iff] at h
  refine List.eq_nil_iff_forall_not_mem.mpr fun key hkey => ?_
  obtain ⟨hthere, hgone, -⟩ := mem_removedKeys_iff.mp hkey
  rw [← PropertyMap.find?_eq_none_iff, h, PropertyMap.find?_eq_none_iff] at hgone
  exact hgone hthere

/-- The changes of two maps remove the keys that are to be removed, if there are any, and write the
pairs that the user controls, if there are any. -/
theorem projections_propertyChanges (managed : ManagedKeys) (kind : ObjectKind)
    (name : QualifiedName) (m n : PropertyMap) :
    removals (propertyChanges managed kind name m n) =
        [removedKeys managed m n].filter (!·.isEmpty) ∧
      writings (propertyChanges managed kind name m n) =
        [managed.unmanaged m].filter (!·.isEmpty) ∧
      others (propertyChanges managed kind name m n) = [] := by
  simp only [propertyChanges, removals, writings, others]
  generalize removedKeys managed m n = removed
  generalize managed.unmanaged m = written
  cases hremoved : removed.isEmpty <;> cases hwritten : written.isEmpty <;>
    simp [List.filterMap_cons, Statement.removed?, Statement.written?, Statement.isOnProperties,
      hremoved, hwritten]

/-- The statements on properties remove the keys that are to be removed, also if there are no such
statements because the maps are equivalent. -/
theorem removals_propertiesFor :
    removals (propertiesFor managed kind desired previous) =
      [removedKeys managed desired.properties previous.properties].filter (!·.isEmpty) := by
  unfold propertiesFor
  split
  next hsame =>
    rw [removedKeys_of_equivalent hsame]
    rfl
  next => exact (projections_propertyChanges ..).1

/-- They write the pairs that the user controls, unless the maps are equivalent. -/
theorem writings_propertiesFor :
    writings (propertiesFor managed kind desired previous) =
      if desired.properties.equivalent previous.properties then []
      else [managed.unmanaged desired.properties].filter (!·.isEmpty) := by
  unfold propertiesFor
  split
  next => rfl
  next => exact (projections_propertyChanges ..).2.1

/-- They are on properties, all of them. -/
theorem others_propertiesFor : others (propertiesFor managed kind desired previous) = [] := by
  unfold propertiesFor
  split
  next => rfl
  next => exact (projections_propertyChanges ..).2.2

/-! ## The whole plan -/

/-- What a plan does with properties, and the statements on all else. -/
theorem projections_of_statements {type : TableType} (htype : desired.type = .supported type)
    (hplan : Plan.statements managed desired previous = .ok plan) :
    removals plan = removals (propertiesFor managed type.kind desired previous) ∧
    writings plan = writings (propertiesFor managed type.kind desired previous) ∧
    others plan = kindSpecific desired previous ++ commentFor type.kind desired previous ++
      columnsFor type.kind desired previous := by
  rw [statements_of_supported managed previous htype] at hplan
  cases hplan
  obtain ⟨hr₁, hw₁, ho₁⟩ := projections_of_others (kindSpecific desired previous)
    fun _ => isOnProperties_of_mem_kindSpecific
  obtain ⟨hr₂, hw₂, ho₂⟩ := projections_of_others (commentFor type.kind desired previous)
    fun _ => isOnProperties_of_mem_commentFor
  obtain ⟨hr₃, hw₃, ho₃⟩ := projections_of_others (columnsFor type.kind desired previous)
    fun _ => isOnProperties_of_mem_columnsFor
  refine ⟨?_, ?_, ?_⟩
  · rw [removals_append, removals_append, removals_append, hr₁, hr₂, hr₃, List.append_nil]
    rfl
  · rw [writings_append, writings_append, writings_append, hw₁, hw₂, hw₃, List.append_nil]
    rfl
  · rw [others_append, others_append, others_append, ho₁, ho₂, ho₃, others_propertiesFor,
      List.append_nil]

/-- A plan that removes nothing and writes nothing has no statement on properties. -/
theorem filter_isOnProperties_eq_nil_iff :
    plan.filter Statement.isOnProperties = [] ↔ removals plan = [] ∧ writings plan = [] := by
  unfold removals writings
  rw [List.filter_eq_nil_iff, List.filterMap_eq_nil_iff, List.filterMap_eq_nil_iff,
    ← forall₂_and]
  refine forall₂_congr fun statement _ => ?_
  cases statement <;> simp [Statement.isOnProperties, Statement.removed?, Statement.written?]

/-! ## Two plans -/

variable {keys : List String}

/-- The object is created as it would be without the further keys. -/
theorem createText_extend (d : TableSpec) :
    d.createText (managed.extend keys) kind = (d.without keys).createText managed kind := by
  unfold TableSpec.createText TableSpec.createTail
  rw [ManagedKeys.unmanaged_extend, ManagedKeys.unmanaged_extend]
  rfl

/-- The same keys are removed, less the further ones. -/
theorem removals_extend :
    removals (propertiesFor (managed.extend keys) kind
        (desired.reconcile (managed.extend keys) previous) previous) =
      ((removals (propertiesFor managed kind (desired.reconcile managed previous) previous)).map
        fun removed => removed.filter fun key => !keys.contains key).filter (!·.isEmpty) := by
  rw [removals_propertiesFor, removals_propertiesFor, TableSpec.reconcile_properties,
    TableSpec.reconcile_properties, TableSpec.removedKeys_carriedProperties_extend]
  cases removedKeys managed (desired.carriedProperties managed previous) previous.properties with
  | nil => rfl
  | cons key rest => rfl

/-- No pairs are written, or the same ones less those of the further keys. -/
theorem writings_extend :
    writings (propertiesFor (managed.extend keys) kind
        (desired.reconcile (managed.extend keys) previous) previous) = [] ∨
      writings (propertiesFor (managed.extend keys) kind
          (desired.reconcile (managed.extend keys) previous) previous) =
        (writings (propertiesFor managed kind (desired.reconcile managed previous) previous)).map
          (·.without keys) := by
  rw [writings_propertiesFor, writings_propertiesFor, TableSpec.reconcile_properties,
    TableSpec.reconcile_properties, TableSpec.unmanaged_carriedProperties_extend]
  split
  next => exact .inl rfl
  next hdiffers' =>
    have hdiffers : ¬(desired.carriedProperties managed previous).equivalent
        previous.properties = true := fun h => hdiffers' (TableSpec.equivalent_extend h)
    rw [if_neg hdiffers]
    generalize managed.unmanaged (desired.carriedProperties managed previous) = written
    by_cases hleft : (written.without keys).isEmpty = true
    · exact .inl (by simp [hleft])
    · have hwritten : ¬written.isEmpty = true :=
        fun hnone => hleft (PropertyMap.isEmpty_without hnone)
      exact .inr (by simp [hleft, hwritten])

/-- When further keys are managed, the same statements are on all else than properties. -/
theorem others_extend :
    kindSpecific (desired.reconcile (managed.extend keys) previous) previous =
        kindSpecific (desired.reconcile managed previous) previous ∧
      commentFor kind (desired.reconcile (managed.extend keys) previous) previous =
        commentFor kind (desired.reconcile managed previous) previous ∧
      columnsFor kind (desired.reconcile (managed.extend keys) previous) previous =
        columnsFor kind (desired.reconcile managed previous) previous := by
  simp only [TableSpec.reconcile_eq]
  exact ⟨rfl, rfl, rfl⟩

/-- **Managing more keys.** Let the desired description have a supported type, and let further keys
be managed.

* The object is created by the text by which it would be created without the further keys among its
  properties and options if these were not managed.
* Both plans of an update can be written, with and without the further keys managed.  If there is no
  statement on properties without, there is none with them.  The plan with them removes the same
  keys in the same order less the further ones, by no statement if none is left; it writes no pairs,
  or the same pairs less those of the further keys; and all other statements are the same. -/
theorem script_of_extended (managed : ManagedKeys) (keys : List String) {desired : TableSpec}
    (previous : TableSpec) {type : TableType} (htype : desired.type = .supported type) :
    (∃ text, desired.createStatement (managed.extend keys) = .ok text ∧
      (desired.without keys).createStatement managed = .ok text) ∧
    ∃ plan plan',
      Plan.statements managed (desired.reconcile managed previous) previous = .ok plan ∧
      Plan.script managed (desired.reconcile managed previous) previous =
        .ok (plan.map Statement.render) ∧
      Plan.statements (managed.extend keys) (desired.reconcile (managed.extend keys) previous)
        previous = .ok plan' ∧
      Plan.script (managed.extend keys) (desired.reconcile (managed.extend keys) previous)
        previous = .ok (plan'.map Statement.render) ∧
      (plan.filter Statement.isOnProperties = [] → plan'.filter Statement.isOnProperties = []) ∧
      removals plan' =
        ((removals plan).map fun removed => removed.filter fun key => !keys.contains key).filter
          (!·.isEmpty) ∧
      (writings plan' = [] ∨ writings plan' = (writings plan).map (·.without keys)) ∧
      others plan' = others plan := by
  have hreconciled : ∀ m, (desired.reconcile m previous).type = .supported type :=
    fun m => (TableSpec.reconcile_type m desired previous).trans htype
  constructor
  · refine ⟨_, TableSpec.createStatement_of_supported _ htype, ?_⟩
    have hwithout : (desired.without keys).type = .supported type := htype
    rw [TableSpec.createStatement_of_supported _ hwithout, createText_extend]
  · obtain ⟨plan, hplan⟩ : ∃ plan,
        Plan.statements managed (desired.reconcile managed previous) previous = .ok plan :=
      ⟨_, statements_of_supported _ _ (hreconciled managed)⟩
    obtain ⟨plan', hplan'⟩ : ∃ plan', Plan.statements (managed.extend keys)
        (desired.reconcile (managed.extend keys) previous) previous = .ok plan' :=
      ⟨_, statements_of_supported _ _ (hreconciled (managed.extend keys))⟩
    obtain ⟨hr, hw, ho⟩ := projections_of_statements (hreconciled _) hplan
    obtain ⟨hr', hw', ho'⟩ := projections_of_statements (hreconciled _) hplan'
    have hremovals : removals plan' = ((removals plan).map fun removed =>
        removed.filter fun key => !keys.contains key).filter (!·.isEmpty) := by
      rw [hr', hr, removals_extend]
    have hwritings : writings plan' = [] ∨
        writings plan' = (writings plan).map (·.without keys) := by
      rw [hw', hw]
      exact writings_extend
    have hothers : others plan' = others plan := by
      obtain ⟨hkind, hcomment, hcolumns⟩ := others_extend
      rw [ho', ho, hkind, hcomment, hcolumns]
    refine ⟨plan, plan', hplan, script_of_statements hplan, hplan', script_of_statements hplan',
      fun hnone => ?_, hremovals, hwritings, hothers⟩
    rw [filter_isOnProperties_eq_nil_iff] at hnone ⊢
    rw [hremovals, hnone.1]
    refine ⟨rfl, hwritings.elim id fun hwritten => ?_⟩
    rw [hwritten, hnone.2]
    rfl

/-- Two further keys are managed, one that was to be removed and one that was to be written: what is
left of two statements on properties is one, if any. -/
theorem script_of_extended_by_two :
    let desired : TableSpec :=
      { TableSpec.ofColumns [] with properties := .ofList [("team", "data"), ("tier", "gold")] }
    let previous : TableSpec :=
      { TableSpec.ofColumns [] with properties := .ofList [("old", "1"), ("team", "ops")] }
    let wider := ManagedKeys.default.extend ["team", "old"]
    desired.type = .supported .managed ∧
      Plan.statements .default (desired.reconcile .default previous) previous =
        .ok [.unsetProperties .table desired.name ["old"],
          .setProperties .table desired.name (.ofList [("team", "data"), ("tier", "gold")])] ∧
      ∃ plan, Plan.statements wider (desired.reconcile wider previous) previous = .ok plan ∧
        removals plan = [] ∧
        (writings plan = [] ∨ writings plan = [.ofList [("tier", "gold")]]) ∧ others plan = [] := by
  intro desired previous wider
  have htype : desired.type = .supported .managed := rfl
  have hfirst : Plan.statements .default (desired.reconcile .default previous) previous =
      .ok [.unsetProperties .table desired.name ["old"],
        .setProperties .table desired.name (.ofList [("team", "data"), ("tier", "gold")])] := by
    decide +kernel
  obtain ⟨-, plan, plan', hplan, -, hplan', -, -, hremovals, hwritings, hothers⟩ :=
    script_of_extended .default ["team", "old"] previous htype
  cases hplan.symm.trans hfirst
  refine ⟨htype, hfirst, plan', hplan', hremovals.trans ?_, hwritings.imp_right fun h => ?_,
    hothers⟩
  · decide
  · exact h.trans (by decide)

end Plan

end TableReconciler
