import Mathlib.Data.List.Nodup
import Mathlib.Data.List.Perm.Subperm
import TableReconciler.ManagedKeys

/-!
# Looking up properties

What a property map is to those who look keys up: a partial function from keys to values.  Each
operation on maps is described by the values that are found afterwards, and two maps are equivalent
exactly when the same values are found in both (`equivalent_iff`).  What is proved about property
maps elsewhere rests on these statements and does not look at the pairs.
-/

namespace TableReconciler.PropertyMap

variable {m n : PropertyMap} {key value : String}

/-! ## Keys and values -/

/-- The first pair decides on its own key only. -/
theorem lookup_cons_pair (k v : String) (rest : List (String × String)) (key : String) :
    ((k, v) :: rest).lookup key = if key = k then some v else rest.lookup key := by
  by_cases h : key = k
  · subst h
    rw [List.lookup_cons_self, if_pos rfl]
  · rw [List.lookup_cons, beq_false_of_ne h, if_neg h]

/-- Among pairs with different keys the value of a key is the one it stands with. -/
theorem lookup_eq_some_iff_mem {entries : List (String × String)}
    (h : (entries.map Prod.fst).Nodup) :
    entries.lookup key = some value ↔ (key, value) ∈ entries := by
  induction entries with
  | nil => simp
  | cons entry rest ih =>
      obtain ⟨k, v⟩ := entry
      rw [List.map_cons, List.nodup_cons] at h
      rw [lookup_cons_pair, List.mem_cons, Prod.mk.injEq]
      split
      next hkey =>
        subst hkey
        have habsent : (key, value) ∉ rest := fun hmem => h.1 (List.mem_map.mpr ⟨_, hmem, rfl⟩)
        rw [Option.some.injEq, or_iff_left habsent, eq_self_iff_true, true_and, eq_comm]
      next hkey => rw [ih h.2, or_iff_right fun heq => hkey heq.1]

/-- A value is found exactly when its pair is in the map. -/
theorem find?_eq_some_iff : m.find? key = some value ↔ (key, value) ∈ m.entries :=
  lookup_eq_some_iff_mem m.keys_nodup

/-- A key is in the map exactly when it has a value. -/
theorem mem_keys_iff : key ∈ m.keys ↔ ∃ value, m.find? key = some value := by
  constructor
  · intro h
    obtain ⟨⟨k, v⟩, hmem, rfl⟩ := List.mem_map.mp h
    exact ⟨v, find?_eq_some_iff.mpr hmem⟩
  · rintro ⟨value, h⟩
    exact List.mem_map_of_mem (find?_eq_some_iff.mp h)

/-- No value is found for a key that is not in the map, and for no other. -/
theorem find?_eq_none_iff : m.find? key = none ↔ key ∉ m.keys := by
  rw [mem_keys_iff, Option.eq_none_iff_forall_ne_some, not_exists]

/-- Whether a key is in the map can be computed. -/
theorem contains_iff : m.contains key = true ↔ key ∈ m.keys := by
  simp only [contains, List.contains_eq_mem, decide_eq_true_eq]

/-- A map is empty exactly when it has no key. -/
theorem isEmpty_iff : m.isEmpty = true ↔ ∀ key, key ∉ m.keys := by
  unfold isEmpty keys
  rw [List.isEmpty_iff, ← List.eq_nil_iff_forall_not_mem, List.map_eq_nil_iff]

/-! ## Operations -/

/-- Of the keys that are filtered out no value is found. -/
theorem find?_filterKeys (p : String → Bool) (m : PropertyMap) (key : String) :
    (m.filterKeys p).find? key = if p key then m.find? key else none := by
  apply Option.ext
  intro value
  rw [find?_eq_some_iff]
  simp only [filterKeys, List.mem_filter]
  split
  next h => rw [find?_eq_some_iff, and_iff_left h]
  next h => simp [h]

/-- A map that is extended keeps its own values. -/
theorem find?_extend (m extra : PropertyMap) (key : String) :
    (m.extend extra).find? key = (m.find? key).or (extra.find? key) := by
  apply Option.ext
  intro value
  rw [find?_eq_some_iff, Option.or_eq_some_iff, find?_eq_some_iff, find?_eq_none_iff,
    find?_eq_some_iff, ← contains_iff]
  simp only [extend, List.mem_append, List.mem_filter, Bool.not_eq_true', Bool.not_eq_true]
  exact or_congr_right and_comm

/-- The value of a key after a pair is written into a list of pairs. -/
theorem lookup_insertEntry (k v : String) (entries : List (String × String)) (key : String) :
    (insertEntry k v entries).lookup key = if key = k then some v else entries.lookup key := by
  induction entries with
  | nil => exact lookup_cons_pair k v [] key
  | cons entry rest ih =>
      obtain ⟨first, w⟩ := entry
      simp only [insertEntry]
      split
      next hfirst =>
        subst hfirst
        rw [lookup_cons_pair, lookup_cons_pair]
        split <;> rfl
      next hfirst =>
        rw [lookup_cons_pair, lookup_cons_pair, ih]
        by_cases h : key = first
        · rw [if_pos h, if_pos h, if_neg fun hkey => hfirst (h.symm.trans hkey)]
        · rw [if_neg h, if_neg h]

/-- The key of a pair that is written takes its value. -/
theorem find?_insert (m : PropertyMap) (k v key : String) :
    (m.insert k v).find? key = if key = k then some v else m.find? key :=
  lookup_insertEntry k v m.entries key

/-- Write the pairs of a map one after the other. -/
def overwrite (m pairs : PropertyMap) : PropertyMap :=
  pairs.entries.foldl (fun m pair => m.insert pair.1 pair.2) m

/-- The keys of the pairs that are written take their values. -/
theorem find?_overwrite (m pairs : PropertyMap) (key : String) :
    (m.overwrite pairs).find? key = (pairs.find? key).or (m.find? key) := by
  obtain ⟨entries, hnodup⟩ := pairs
  simp only [overwrite, find?]
  induction entries generalizing m with
  | nil => rfl
  | cons entry rest ih =>
      obtain ⟨k, v⟩ := entry
      rw [List.map_cons, List.nodup_cons] at hnodup
      have hinsert := find?_insert m k v key
      simp only [find?] at hinsert
      rw [List.foldl_cons, ih _ hnodup.2, hinsert, lookup_cons_pair]
      split
      next h =>
        subst h
        have habsent : rest.lookup key = none := by
          rw [Option.eq_none_iff_forall_ne_some]
          intro value hvalue
          have hmem := (lookup_eq_some_iff_mem hnodup.2).mp hvalue
          exact hnodup.1 (List.mem_map.mpr ⟨_, hmem, rfl⟩)
        rw [habsent, Option.none_or, Option.some_or]
      next => rfl

/-! ## Equivalence -/

/-- Maps with the same pairs in the same order are the same. -/
theorem eq_of_entries_eq (h : m.entries = n.entries) : m = n := by
  cases m
  cases n
  cases h
  rfl

/-- No pair occurs twice. -/
theorem entries_nodup (m : PropertyMap) : m.entries.Nodup :=
  List.Nodup.of_map Prod.fst m.keys_nodup

/-- Two maps have the same values exactly when the pairs of one are those of the other in another
order. -/
theorem entries_perm_iff : m.entries.Perm n.entries ↔ ∀ key, m.find? key = n.find? key := by
  rw [List.perm_ext_iff_of_nodup m.entries_nodup n.entries_nodup]
  constructor
  · intro h key
    apply Option.ext
    intro value
    rw [find?_eq_some_iff, find?_eq_some_iff, h]
  · rintro h ⟨key, value⟩
    rw [← find?_eq_some_iff, ← find?_eq_some_iff, h]

/-- Two maps are equivalent exactly when the same values are found in both. -/
theorem equivalent_iff : m.equivalent n = true ↔ ∀ key, m.find? key = n.find? key := by
  unfold equivalent
  simp only [Bool.and_eq_true, beq_iff_eq, List.all_eq_true]
  rw [← entries_perm_iff]
  constructor
  · rintro ⟨hlength, hall⟩
    have hsubset : m.entries ⊆ n.entries := fun entry hmem =>
      find?_eq_some_iff.mp (hall entry hmem)
    have hsubperm : m.entries.Subperm n.entries :=
      List.subperm_of_subset m.entries_nodup hsubset
    exact hsubperm.perm_of_length_le (Nat.le_of_eq hlength.symm)
  · intro h
    exact ⟨h.length_eq, fun entry hmem => find?_eq_some_iff.mpr (h.mem_iff.mp hmem)⟩

end TableReconciler.PropertyMap

namespace TableReconciler.ManagedKeys

/-- Of the pairs that the user controls those are found whose keys the catalog does not manage. -/
theorem find?_unmanaged (managed : ManagedKeys) (m : PropertyMap) (key : String) :
    (managed.unmanaged m).find? key = if managed.manages key then none else m.find? key := by
  unfold unmanaged
  rw [PropertyMap.find?_filterKeys]
  cases managed.manages key <;> rfl

/-- The user controls no pair exactly when the catalog manages every key. -/
theorem isEmpty_unmanaged_iff {managed : ManagedKeys} {m : PropertyMap} :
    (managed.unmanaged m).isEmpty = true ↔ ∀ key ∈ m.keys, managed.manages key = true := by
  rw [PropertyMap.isEmpty_iff]
  refine forall_congr' fun key => ?_
  rw [← PropertyMap.find?_eq_none_iff, find?_unmanaged]
  split
  next h => simp [h]
  next h => simp [h, PropertyMap.find?_eq_none_iff]

end TableReconciler.ManagedKeys
