import TableReconciler.Proofs.Plan.Supported
import TableReconciler.Proofs.Properties.Lookup

/-!
# What a plan does to properties

A statement read as an operation on the properties of an object: one statement removes keys, one
writes pairs, and no other touches the properties.

* `find?_propertiesAfter`: once a plan is carried out, the keys that the catalog manages have the
  values they had before, and all others have their desired values.  It makes no difference whether
  the plan has statements on properties, and which.
* `propertiesFor_eq_nil_iff`: there are none when the two maps hold the same pairs, and also when
  nothing is left to say because the catalog manages all keys that would have to be named.
-/

namespace TableReconciler

/-- Whether a statement is on properties. -/
def Statement.isOnProperties : Statement → Bool
  | .unsetProperties _ _ _ => true
  | .setProperties _ _ _ => true
  | _ => false

/-- The properties after a statement. -/
def Statement.onProperties (m : PropertyMap) : Statement → PropertyMap
  | .unsetProperties _ _ keys => m.filterKeys fun key => key ∉ keys
  | .setProperties _ _ pairs => m.overwrite pairs
  | _ => m

/-- Only statements on properties touch them. -/
theorem Statement.onProperties_of_isOnProperties {statement : Statement}
    (h : statement.isOnProperties = false) (m : PropertyMap) : statement.onProperties m = m := by
  cases statement with
  | unsetProperties | setProperties => cases h
  | _ => rfl

namespace Plan

/-- The properties after statements are carried out one after the other. -/
def propertiesAfter (m : PropertyMap) (statements : List Statement) : PropertyMap :=
  statements.foldl Statement.onProperties m

/-- A list of statements can be carried out in two parts. -/
theorem propertiesAfter_append (m : PropertyMap) (before after : List Statement) :
    propertiesAfter m (before ++ after) = propertiesAfter (propertiesAfter m before) after :=
  List.foldl_append

/-- Statements that are not on properties leave them. -/
theorem propertiesAfter_eq_self {statements : List Statement}
    (h : ∀ statement ∈ statements, statement.isOnProperties = false) (m : PropertyMap) :
    propertiesAfter m statements = m := by
  induction statements with
  | nil => rfl
  | cons statement rest ih =>
      unfold propertiesAfter
      rw [List.foldl_cons,
        Statement.onProperties_of_isOnProperties (h statement List.mem_cons_self)]
      exact ih fun other hother => h other (List.mem_cons_of_mem _ hother)

/-! ## The two statements -/

section maps

variable {managed : ManagedKeys} {kind : ObjectKind} {name : QualifiedName}
  {desired previous : PropertyMap} {key : String}

/-- The keys that are removed are gone in the desired map and are not managed. -/
theorem mem_removedKeys_iff :
    key ∈ removedKeys managed desired previous ↔
      key ∈ previous.keys ∧ key ∉ desired.keys ∧ managed.manages key = false := by
  simp only [removedKeys, List.mem_filter, Bool.and_eq_true, Bool.not_eq_true',
    ← PropertyMap.contains_iff, Bool.not_eq_true]

/-- Removing keys takes their values away, and removing none takes nothing away. -/
theorem find?_unset (m : PropertyMap) (keys : List String) (key : String) :
    (propertiesAfter m (if keys.isEmpty then [] else [.unsetProperties kind name keys])).find? key =
      if key ∈ keys then none else m.find? key := by
  split
  next hempty =>
    rw [List.isEmpty_iff.mp hempty, if_neg List.not_mem_nil]
    rfl
  next =>
    simp only [propertiesAfter, List.foldl_cons, List.foldl_nil, Statement.onProperties]
    rw [PropertyMap.find?_filterKeys]
    by_cases h : key ∈ keys <;> simp [h]

/-- Writing pairs gives their keys their values, and writing none changes nothing. -/
theorem find?_set (m pairs : PropertyMap) (key : String) :
    (propertiesAfter m
        (if pairs.isEmpty then [] else [.setProperties kind name pairs])).find? key =
      (pairs.find? key).or (m.find? key) := by
  split
  next hempty =>
    have hnone : pairs.find? key = none :=
      PropertyMap.find?_eq_none_iff.mpr (PropertyMap.isEmpty_iff.mp hempty key)
    rw [hnone, Option.none_or]
    rfl
  next => exact PropertyMap.find?_overwrite m pairs key

/-- The changes bring the keys that are not managed to their desired values, and leave the others
as they are. -/
theorem find?_propertyChanges (key : String) :
    (propertiesAfter previous (propertyChanges managed kind name desired previous)).find? key =
      if managed.manages key then previous.find? key else desired.find? key := by
  unfold propertyChanges
  rw [propertiesAfter_append, find?_set, find?_unset, ManagedKeys.find?_unmanaged]
  by_cases hmanaged : managed.manages key = true
  · have hstays : key ∉ removedKeys managed desired previous := fun h => by
      rw [(mem_removedKeys_iff.mp h).2.2] at hmanaged
      cases hmanaged
    rw [if_pos hmanaged, if_pos hmanaged, if_neg hstays, Option.none_or]
  · rw [if_neg hmanaged, if_neg hmanaged]
    rcases hdesired : desired.find? key with _ | value
    · rw [Option.none_or]
      split
      next => rfl
      next hstays =>
        rw [PropertyMap.find?_eq_none_iff] at hdesired ⊢
        exact fun hprevious => hstays
          (mem_removedKeys_iff.mpr ⟨hprevious, hdesired, Bool.eq_false_iff.mpr hmanaged⟩)
    · rw [Option.some_or]

/-- There are no changes exactly when no key is to be removed and no pair is to be written. -/
theorem propertyChanges_eq_nil_iff :
    (propertyChanges managed kind name desired previous : List Statement) = [] ↔
      removedKeys managed desired previous = [] ∧
        ∀ key ∈ desired.keys, managed.manages key = true := by
  unfold propertyChanges
  simp only [List.append_eq_nil_iff]
  rw [← ManagedKeys.isEmpty_unmanaged_iff]
  constructor
  · rintro ⟨hunset, hset⟩
    constructor
    · by_contra h
      simp [h] at hunset
    · by_contra h
      simp [h] at hset
  · rintro ⟨hremoved, hwritten⟩
    exact ⟨if_pos (List.isEmpty_iff.mpr hremoved), if_pos hwritten⟩

end maps

/-! ## The whole plan -/

section descriptions

variable {managed : ManagedKeys} {kind : ObjectKind} {desired previous : TableSpec}

/-- Statements that concern only views, or only tables, are not on properties. -/
theorem isOnProperties_of_mem_kindSpecific {statement : Statement}
    (h : statement ∈ kindSpecific desired previous) : statement.isOnProperties = false := by
  have hone : ∀ {p : Prop} [Decidable p] {only : Statement}, only.isOnProperties = false →
      statement ∈ (if p then [] else [only]) → statement.isOnProperties = false := by
    intro p _ only honly hmem
    split at hmem
    · cases hmem
    · rw [List.mem_singleton.mp hmem, honly]
  unfold kindSpecific at h
  split at h
  · exact hone rfl h
  · rcases List.mem_append.mp h with hlocation | hkeys
    · exact hone rfl hlocation
    · exact hone rfl hkeys

/-- Statements on the comment are not on properties. -/
theorem isOnProperties_of_mem_commentFor {statement : Statement}
    (h : statement ∈ commentFor kind desired previous) : statement.isOnProperties = false := by
  unfold commentFor at h
  split at h
  · cases h
  · rw [List.mem_singleton.mp h]
    rfl

/-- Statements on columns are not on properties. -/
theorem isOnProperties_of_mem_columnsFor {statement : Statement}
    (h : statement ∈ columnsFor kind desired previous) : statement.isOnProperties = false := by
  obtain ⟨change, -, rfl⟩ := List.mem_map.mp h
  rfl

/-- The statements on properties bring the keys that are not managed to their desired values, and
leave the others as they are, also when there are none because the maps are equivalent. -/
theorem find?_propertiesFor (key : String) :
    (propertiesAfter previous.properties (propertiesFor managed kind desired previous)).find? key =
      if managed.manages key then previous.properties.find? key
      else desired.properties.find? key := by
  unfold propertiesFor
  split
  next hsame =>
    rw [PropertyMap.equivalent_iff] at hsame
    rw [hsame key, ite_self]
    rfl
  next => exact find?_propertyChanges key

/-- Once a plan is carried out, a key has its previous value if the catalog manages it, and its
desired value if not. -/
theorem find?_propertiesAfter {type : TableType} {statements : List Statement}
    (htype : desired.type = .supported type)
    (h : Plan.statements managed desired previous = .ok statements) (key : String) :
    (propertiesAfter previous.properties statements).find? key =
      if managed.manages key then previous.properties.find? key
      else desired.properties.find? key := by
  rw [statements_of_supported _ _ htype] at h
  cases h
  rw [propertiesAfter_append, propertiesAfter_append, propertiesAfter_append,
    propertiesAfter_eq_self fun _ => isOnProperties_of_mem_kindSpecific,
    propertiesAfter_eq_self fun _ => isOnProperties_of_mem_commentFor,
    propertiesAfter_eq_self fun _ => isOnProperties_of_mem_columnsFor, find?_propertiesFor]

/-- There are no statements on properties exactly when the maps hold the same pairs, or no key is to
be removed and the catalog manages all desired keys. -/
theorem propertiesFor_eq_nil_iff :
    propertiesFor managed kind desired previous = [] ↔
      (∀ key, desired.properties.find? key = previous.properties.find? key) ∨
        removedKeys managed desired.properties previous.properties = [] ∧
          ∀ key ∈ desired.properties.keys, managed.manages key = true := by
  unfold propertiesFor
  rw [← PropertyMap.equivalent_iff]
  split
  next hsame => simp only [hsame, true_or]
  next hdiffers => rw [propertyChanges_eq_nil_iff, or_iff_right hdiffers]

end descriptions

end Plan

end TableReconciler
