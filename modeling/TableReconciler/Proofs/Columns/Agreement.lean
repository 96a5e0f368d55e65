import Mathlib.Data.List.Forall2
import TableReconciler.Proofs.Columns.Membership
import TableReconciler.Proofs.Columns.Positional

/-!
# When no column change is planned

Two lists of columns need no change exactly when they agree position by position on name, comment
and nullability (`between_eq_nil_iff`).  Lists of different lengths always need one, because unique
names cannot be the same names then.
-/

namespace TableReconciler

/-- Two columns agree on all that a plan can change. -/
def Column.Agrees (new old : Column) : Prop :=
  new.name = old.name ∧ new.comment = old.comment ∧ new.nullable = old.nullable

/-- A column agrees with itself. -/
theorem Column.Agrees.refl (column : Column) : column.Agrees column := ⟨rfl, rfl, rfl⟩

namespace ColumnChange

variable {desired previous : List Column}

/-! ## Different numbers of columns -/

/-- Nothing is added exactly when every desired column was there before. -/
theorem additions_eq_nil_iff {kept : List String} {after : Option String} :
    additions kept after desired = [] ↔ ∀ column ∈ desired, column.name ∈ kept := by
  induction desired generalizing after with
  | nil => simp [additions]
  | cons column rest ih =>
      by_cases hkept : column.name ∈ kept
      · rw [additions_cons_of_mem hkept, ih, List.forall_mem_cons, and_iff_right hkept]
      · rw [additions_cons_of_not_mem hkept]
        simp [hkept]

/-- Columns that need neither a drop nor an addition have the same names. -/
theorem names_perm_of_membership_eq_nil (hd : (desired.map Column.name).Nodup)
    (hp : (previous.map Column.name).Nodup) (h : membership desired previous = []) :
    (desired.map Column.name).Perm (previous.map Column.name) := by
  unfold membership at h
  obtain ⟨hdrop, hadd⟩ := List.append_eq_nil_iff.mp h
  have hremoved : removedNames desired previous = [] := by
    by_contra hnot
    simp [hnot] at hdrop
  rw [removedNames_eq, List.filter_eq_nil_iff] at hremoved
  refine (List.perm_ext_iff_of_nodup hd hp).mpr fun name => ⟨fun hname => ?_, fun hname => ?_⟩
  · obtain ⟨column, hcolumn, rfl⟩ := List.mem_map.mp hname
    exact additions_eq_nil_iff.mp hadd column hcolumn
  · by_contra hnot
    exact hremoved name hname (decide_eq_true hnot)

/-! ## Equal numbers of columns -/

/-- A column needs no change exactly when it agrees with the one in its position. -/
theorem attributes_eq_nil_iff {new old : Column} : attributes new old = [] ↔ new.Agrees old := by
  rw [attributes_eq]
  simp [Column.Agrees]

/-- Equally many columns need no change exactly when they agree position by position. -/
theorem positional_eq_nil_iff (hlength : desired.length = previous.length) :
    positional desired previous = [] ↔ List.Forall₂ Column.Agrees desired previous := by
  induction desired generalizing previous with
  | nil =>
      rw [List.eq_nil_of_length_eq_zero hlength.symm]
      exact iff_of_true rfl .nil
  | cons new desired ih =>
      obtain ⟨old, previous, rfl⟩ := List.exists_cons_of_length_eq_add_one hlength.symm
      rw [positional_cons, List.append_eq_nil_iff, attributes_eq_nil_iff,
        ih (Nat.succ.inj hlength), List.forall₂_cons]

/-! ## Either way -/

/-- No column change is planned exactly when the columns agree position by position. -/
theorem between_eq_nil_iff (hd : (desired.map Column.name).Nodup)
    (hp : (previous.map Column.name).Nodup) :
    between desired previous = [] ↔ List.Forall₂ Column.Agrees desired previous := by
  unfold between
  split
  next hlength => exact positional_eq_nil_iff hlength
  next hlength =>
    refine ⟨fun h => ?_, fun h => absurd h.length_eq hlength⟩
    have hperm := names_perm_of_membership_eq_nil hd hp h
    have hequal := hperm.length_eq
    rw [List.length_map, List.length_map] at hequal
    exact absurd hequal hlength

/-- Columns need no change to become what they are. -/
theorem between_self (columns : List Column) : between columns columns = [] := by
  unfold between
  rw [if_pos rfl, positional_eq_nil_iff rfl]
  exact List.forall₂_same.mpr fun column _ => Column.Agrees.refl column

end ColumnChange

end TableReconciler
