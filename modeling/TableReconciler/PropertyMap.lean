/-!
# Property maps

Maps from texts to texts that keep the order in which their keys were first written.  Two maps are
equivalent when they hold the same pairs, in whatever order.
-/

namespace TableReconciler

/-- A map from texts to texts, pair by pair in insertion order. -/
structure PropertyMap where
  /-- The pairs in insertion order. -/
  entries : List (String × String)
  /-- No key occurs twice. -/
  keys_nodup : (entries.map Prod.fst).Nodup := by simp
  deriving DecidableEq

namespace PropertyMap

/-- The map without pairs. -/
def empty : PropertyMap where
  entries := []

instance : Inhabited PropertyMap := ⟨empty⟩

instance : EmptyCollection PropertyMap := ⟨empty⟩

/-- The keys in insertion order. -/
def keys (m : PropertyMap) : List String :=
  m.entries.map Prod.fst

/-- Whether a key is in the map. -/
def contains (m : PropertyMap) (key : String) : Bool :=
  m.keys.contains key

/-- The value of a key. -/
def find? (m : PropertyMap) (key : String) : Option String :=
  m.entries.lookup key

/-- Whether the map has no pairs. -/
def isEmpty (m : PropertyMap) : Bool :=
  m.entries.isEmpty

/-- Write a pair into a list of pairs: a key that is there keeps its place and takes the new
value, a new key goes to the end. -/
def insertEntry (key value : String) : List (String × String) → List (String × String)
  | [] => [(key, value)]
  | (k, v) :: rest => if k = key then (k, value) :: rest else (k, v) :: insertEntry key value rest

/-- The keys after a pair is written. -/
theorem map_fst_insertEntry (key value : String) (entries : List (String × String)) :
    (insertEntry key value entries).map Prod.fst =
      if key ∈ entries.map Prod.fst then entries.map Prod.fst
      else entries.map Prod.fst ++ [key] := by
  induction entries with
  | nil => simp [insertEntry]
  | cons entry rest ih =>
      obtain ⟨k, v⟩ := entry
      by_cases h : k = key
      · simp [insertEntry, h]
      · have h' : key ≠ k := fun e => h e.symm
        simp only [insertEntry, if_neg h, List.map_cons, ih, List.mem_cons, h', false_or]
        split <;> simp_all

/-- Write a pair: a key that is there keeps its place and takes the new value, a new key goes to
the end. -/
def insert (m : PropertyMap) (key value : String) : PropertyMap where
  entries := insertEntry key value m.entries
  keys_nodup := by
    rw [map_fst_insertEntry]
    split
    · exact m.keys_nodup
    · next h =>
        refine List.nodup_append.mpr ⟨m.keys_nodup, by simp, ?_⟩
        intro a ha b hb
        simp only [List.mem_singleton] at hb
        subst hb
        exact fun e => h (e ▸ ha)

/-- The map that results from writing pairs one after the other. -/
def ofList (pairs : List (String × String)) : PropertyMap :=
  pairs.foldl (fun m pair => m.insert pair.1 pair.2) empty

/-- The pairs whose key satisfies `p`. -/
def filterKeys (p : String → Bool) (m : PropertyMap) : PropertyMap where
  entries := m.entries.filter fun entry => p entry.1
  keys_nodup := m.keys_nodup.sublist (List.filter_sublist.map Prod.fst)

/-- The pairs of `m`, followed by those of `extra` whose key `m` does not have. -/
def extend (m extra : PropertyMap) : PropertyMap where
  entries := m.entries ++ extra.entries.filter fun entry => !m.contains entry.1
  keys_nodup := by
    rw [List.map_append]
    refine List.nodup_append.mpr
      ⟨m.keys_nodup, extra.keys_nodup.sublist (List.filter_sublist.map Prod.fst), ?_⟩
    intro a ha b hb e
    obtain ⟨entry, hentry, rfl⟩ := List.mem_map.mp hb
    have hnot := (List.mem_filter.mp hentry).2
    simp only [contains, keys, Bool.not_eq_true', List.contains_eq_mem, decide_eq_false_iff_not]
      at hnot
    exact hnot (e ▸ ha)

/-- Whether two maps hold the same pairs, in whatever order. -/
def equivalent (m n : PropertyMap) : Bool :=
  m.entries.length == n.entries.length &&
    m.entries.all fun entry => n.find? entry.1 == some entry.2

/-- The pairs in the order of their keys, which are compared code point by code point. -/
def sorted (m : PropertyMap) : List (String × String) :=
  m.entries.mergeSort fun a b => decide (a.1 ≤ b.1)

end PropertyMap

end TableReconciler
