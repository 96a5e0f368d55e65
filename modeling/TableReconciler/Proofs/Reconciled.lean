import TableReconciler.Proofs.Properties.Lookup
import TableReconciler.Reconcile

/-!
# Reconciled descriptions

What a description is after reconciliation, field by field.  Only the columns, the properties and
the location may change (`reconcile_eq`); of the properties it is said which values are found
(`find?_carriedProperties`), and of the location when it is the previous one
(`carriedLocation_eq_previous_iff`).

The descriptions hold texts here.
-/

namespace TableReconciler.TableSpec

/-! ## Three fields -/

/-- The columns after reconciliation. -/
def carriedColumns (desired previous : TableSpec) : List Column :=
  if desired.columns.isEmpty then previous.columns else desired.columns

/-- The properties after reconciliation. -/
def carriedProperties (managed : ManagedKeys) (desired previous : TableSpec) : PropertyMap :=
  desired.properties.extend (previous.properties.filterKeys (desired.keepsProperty managed))

/-- The location after reconciliation. -/
def carriedLocation (desired previous : TableSpec) : String :=
  if desired.isView || previous.location.isEmpty then desired.location
  else if desired.location.isEmpty || sameLocation desired.location previous.location then
    previous.location
  else desired.location

variable (managed : ManagedKeys) (desired previous : TableSpec)

/-- Columns that hold texts are taken over as they are. -/
theorem withPreviousColumns_eq :
    desired.withPreviousColumns previous =
      { desired with columns := desired.carriedColumns previous } := by
  unfold withPreviousColumns carriedColumns
  split
  next => rw [List.map_id'' Column.ofTexts_string]
  next => rfl

/-- The location is taken over or left. -/
theorem withPreviousLocation_eq :
    desired.withPreviousLocation previous =
      { desired with location := desired.carriedLocation previous } := by
  unfold withPreviousLocation carriedLocation
  split
  next => rfl
  next =>
    by_cases hsame : (desired.location.isEmpty ||
        sameLocation desired.location previous.location) = true
    · rw [if_pos hsame]
      exact if_pos hsame
    · rw [if_neg hsame]
      exact if_neg hsame

/-- Reconciliation changes the columns, the properties and the location, and nothing else. -/
theorem reconcile_eq :
    desired.reconcile managed previous =
      { desired with
        columns := desired.carriedColumns previous
        properties := desired.carriedProperties managed previous
        location := desired.carriedLocation previous } := by
  unfold reconcile
  rw [withPreviousLocation_eq, withPreviousColumns_eq]
  rfl

@[simp] theorem reconcile_type : (desired.reconcile managed previous).type = desired.type := by
  rw [reconcile_eq]

@[simp] theorem reconcile_isView :
    (desired.reconcile managed previous).isView = desired.isView := by
  rw [reconcile_eq]
  rfl

@[simp] theorem reconcile_clusterKeys :
    (desired.reconcile managed previous).clusterKeys = desired.clusterKeys := by
  rw [reconcile_eq]

@[simp] theorem reconcile_viewDefinition :
    (desired.reconcile managed previous).viewDefinition = desired.viewDefinition := by
  rw [reconcile_eq]

@[simp] theorem reconcile_comment :
    (desired.reconcile managed previous).comment = desired.comment := by
  rw [reconcile_eq]

@[simp] theorem reconcile_columns :
    (desired.reconcile managed previous).columns = desired.carriedColumns previous := by
  rw [reconcile_eq]

@[simp] theorem reconcile_location :
    (desired.reconcile managed previous).location = desired.carriedLocation previous := by
  rw [reconcile_eq]

@[simp] theorem reconcile_properties :
    (desired.reconcile managed previous).properties =
      desired.carriedProperties managed previous := by
  rw [reconcile_eq]

/-! ## Properties -/

variable {managed desired previous} {key : String}

/-- A property is kept when its key is managed, is that of an option, or has the prefix for
options. -/
theorem keepsProperty_iff :
    desired.keepsProperty managed key = true ↔
      managed.manages key = true ∨ key ∈ desired.options.keys ∨
        "option.".toList <+: key.toList := by
  simp only [keepsProperty, isOptionEcho, Bool.or_eq_true, PropertyMap.contains_iff,
    List.isPrefixOf_iff_prefix, or_assoc]

/-- Declared properties keep their values; others have their previous values if they are kept. -/
theorem find?_carriedProperties (key : String) :
    (desired.carriedProperties managed previous).find? key =
      (desired.properties.find? key).or
        (if desired.keepsProperty managed key then previous.properties.find? key else none) := by
  unfold carriedProperties
  rw [PropertyMap.find?_extend, PropertyMap.find?_filterKeys]

/-- After reconciliation the keys are those declared and those kept. -/
theorem mem_keys_carriedProperties_iff :
    key ∈ (desired.carriedProperties managed previous).keys ↔
      key ∈ desired.properties.keys ∨
        key ∈ previous.properties.keys ∧ desired.keepsProperty managed key = true := by
  rw [← not_iff_not, not_or, ← PropertyMap.find?_eq_none_iff, ← PropertyMap.find?_eq_none_iff,
    find?_carriedProperties, Option.or_eq_none_iff]
  refine and_congr_right fun _ => ?_
  split
  next hkept => simp [hkept, PropertyMap.find?_eq_none_iff]
  next hgone => simp [hgone]

/-! ## Location -/

/-- A table has its previous location after reconciliation when none is declared, or when there was
one and it differs from the declared one in trailing slashes at most; otherwise it does not. -/
theorem carriedLocation_eq_previous_iff (htable : desired.isView = false) :
    desired.carriedLocation previous = previous.location ↔
      desired.location = "" ∨ previous.location ≠ "" ∧
        Text.withoutTrailingSlashes desired.location =
          Text.withoutTrailingSlashes previous.location := by
  unfold carriedLocation sameLocation
  simp only [htable, Bool.false_or, String.isEmpty_iff, Bool.or_eq_true, beq_iff_eq]
  by_cases hprevious : previous.location = ""
  · simp [hprevious]
  · rw [if_neg hprevious]
    split
    next h => simp [h, hprevious]
    next h =>
      rw [not_or] at h
      refine ⟨fun heq => absurd (congrArg Text.withoutTrailingSlashes heq) h.2, fun hor => ?_⟩
      rcases hor with hempty | ⟨-, hsame⟩
      · exact absurd hempty h.1
      · exact absurd hsame h.2

end TableReconciler.TableSpec
