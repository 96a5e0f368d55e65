import TableReconciler.Proofs.Columns.Effect
import TableReconciler.Proofs.Plan.Supported
import TableReconciler.Proofs.Properties.Lookup

/-!
# What statements do not show of properties

The texts of statements depend on the properties and options of a description only through the
values of the keys that the user controls.  Neither the order in which the pairs were written down
nor the pairs that the catalog manages can be told from the statement that creates an object
(`createStatement_of_sameForUser`), and from a plan only the order in which keys are removed
(`propertiesFor_alike`), which is that of the previous description (`texts_propertiesFor`).

Both rest on one fact about maps: the pairs in the order of their keys are the same for all maps
with the same values (`sorted_eq`).
-/

namespace TableReconciler

namespace PropertyMap

variable {m n : PropertyMap}

/-- Sorting the pairs of a map keeps them. -/
theorem sorted_perm (m : PropertyMap) : m.sorted.Perm m.entries :=
  List.mergeSort_perm _ _

/-- The sorted pairs stand in the order of their keys. -/
theorem pairwise_sorted (m : PropertyMap) : m.sorted.Pairwise fun a b => a.1 ≤ b.1 := by
  have hsorted : m.sorted.Pairwise fun a b => decide (a.1 ≤ b.1) = true := by
    refine List.pairwise_mergeSort (fun a b c hab hbc => ?_) (fun a b => ?_) m.entries
    · rw [decide_eq_true_eq] at hab hbc ⊢
      exact String.le_trans hab hbc
    · rw [Bool.or_eq_true, decide_eq_true_eq, decide_eq_true_eq]
      exact String.le_total a.1 b.1
  exact hsorted.imp of_decide_eq_true

/-- Maps with the same values have the same sorted pairs. -/
theorem sorted_eq (h : ∀ key, m.find? key = n.find? key) : m.sorted = n.sorted := by
  have hentries : m.entries.Perm n.entries := entries_perm_iff.mpr h
  have hperm : m.sorted.Perm n.sorted := (m.sorted_perm.trans hentries).trans n.sorted_perm.symm
  refine hperm.eq_of_pairwise (fun a b ha hb hab hba => ?_) m.pairwise_sorted n.pairwise_sorted
  -- two pairs that are not in order share their key, and a map has one pair for each key
  have hkey : a.1 = b.1 := String.le_antisymm hab hba
  exact List.inj_on_of_nodup_map m.keys_nodup (m.sorted_perm.mem_iff.mp ha)
    (hentries.mem_iff.mpr (n.sorted_perm.mem_iff.mp hb)) hkey

/-- Maps with the same values are both empty or both not. -/
theorem isEmpty_eq (h : ∀ key, m.find? key = n.find? key) : m.isEmpty = n.isEmpty :=
  (entries_perm_iff.mpr h).isEmpty_eq

/-- Maps with the same values have the same keys, in whatever order. -/
theorem keys_perm (h : ∀ key, m.find? key = n.find? key) : m.keys.Perm n.keys :=
  (entries_perm_iff.mpr h).map Prod.fst

/-- Maps with the same values contain the same keys. -/
theorem contains_eq (h : ∀ key, m.find? key = n.find? key) (key : String) :
    m.contains key = n.contains key := by
  rw [Bool.eq_iff_iff, contains_iff, contains_iff, (keys_perm h).mem_iff]

/-- Maps with the same values are written by the same assignments. -/
theorem assignments_eq (h : ∀ key, m.find? key = n.find? key) :
    Ddl.assignments m = Ddl.assignments n := by
  rw [Ddl.assignments, Ddl.assignments, sorted_eq h]

end PropertyMap

/-- Maps in which the user controls the same pairs. -/
theorem ManagedKeys.find?_unmanaged_eq {managed : ManagedKeys} {m n : PropertyMap}
    (h : ∀ key, managed.manages key = false → m.find? key = n.find? key) (key : String) :
    (managed.unmanaged m).find? key = (managed.unmanaged n).find? key := by
  rw [find?_unmanaged, find?_unmanaged]
  split
  next => rfl
  next hunmanaged => exact h key (Bool.eq_false_iff.mpr hunmanaged)

/-! ## Creating -/

/-- Two descriptions agree on everything but properties and options, and of these the user controls
the same pairs in both. -/
structure TableSpec.SameForUser (managed : ManagedKeys) (d e : TableSpec) : Prop where
  /-- They agree on all else than properties and options. -/
  fields : e = { d with properties := e.properties, options := e.options }
  /-- The properties that the user controls have the same values. -/
  properties : ∀ key, managed.manages key = false →
    d.properties.find? key = e.properties.find? key
  /-- The options that the user controls have the same values. -/
  options : ∀ key, managed.manages key = false → d.options.find? key = e.options.find? key

/-- The statement that creates an object does not tell such descriptions apart. -/
theorem TableSpec.createStatement_of_sameForUser {managed : ManagedKeys} {d e : TableSpec}
    {type : TableType} (htype : d.type = .supported type) (h : d.SameForUser managed e) :
    ∃ text, d.createStatement managed = .ok text ∧ e.createStatement managed = .ok text := by
  have hproperties := ManagedKeys.find?_unmanaged_eq h.properties
  have hoptions := ManagedKeys.find?_unmanaged_eq h.options
  have hetype : e.type = .supported type := by rw [h.fields, ← htype]
  have htail : d.createTail managed = e.createTail managed := by
    simp only [createTail, PropertyMap.isEmpty_eq hproperties, PropertyMap.isEmpty_eq hoptions,
      PropertyMap.assignments_eq hproperties, PropertyMap.assignments_eq hoptions]
    rw [h.fields]
    rfl
  have hhead : d.createHead type.kind = e.createHead type.kind := by
    rw [h.fields]
    rfl
  refine ⟨_, createStatement_of_supported managed htype, ?_⟩
  rw [createStatement_of_supported managed hetype, createText, createText, hhead, htail]

/-! ## Planning -/

/-- Two descriptions agree on everything but the options and the order of the properties. -/
structure TableSpec.Reordered (d e : TableSpec) : Prop where
  /-- They agree on all else than properties and options. -/
  fields : e = { d with properties := e.properties, options := e.options }
  /-- They have the same properties, in whatever order. -/
  properties : d.properties.entries.Perm e.properties.entries

/-- Two statements have the same text, or they remove the same properties, named in different
orders. -/
inductive Statement.Alike : Statement → Statement → Prop
  /-- The texts are the same. -/
  | same {s t : Statement} (text : s.render = t.render) : Alike s t
  /-- The same properties are removed. -/
  | unset {kind : ObjectKind} {name : QualifiedName} {keys keys' : List String}
      (perm : keys.Perm keys') :
      Alike (.unsetProperties kind name keys) (.unsetProperties kind name keys')

namespace TableSpec.Reordered

variable {d e : TableSpec}

/-- The properties of both have the same values. -/
theorem find?_eq (h : d.Reordered e) (key : String) :
    d.properties.find? key = e.properties.find? key :=
  PropertyMap.entries_perm_iff.mp h.properties key

@[refl] theorem refl : d.Reordered d := ⟨rfl, .refl _⟩

theorem name_eq (h : d.Reordered e) : d.name = e.name := by
  rw [h.fields]
  rfl

end TableSpec.Reordered

namespace Plan

variable {managed : ManagedKeys} {kind : ObjectKind} {name : QualifiedName}

/-- Statements with the same texts are alike. -/
theorem alike_of_texts_eq {plan plan' : List Statement}
    (h : plan.map Statement.render = plan'.map Statement.render) :
    List.Forall₂ Statement.Alike plan plan' := by
  rw [← List.forall₂_eq_eq_eq, List.forall₂_map_left_iff, List.forall₂_map_right_iff] at h
  exact h.imp fun _ _ => .same

/-! ### Maps in another order -/

section maps

variable {desired desired' previous previous' : PropertyMap}

/-- Which keys are to be removed depends on the desired map by its values only. -/
theorem removedKeys_eq (h : ∀ key, desired.find? key = desired'.find? key) :
    removedKeys managed desired previous = removedKeys managed desired' previous := by
  unfold removedKeys
  simp only [PropertyMap.contains_eq h]

/-- The statement that writes pairs is the same, as is whether there is one. -/
theorem text_of_written (h : ∀ key, desired.find? key = desired'.find? key) :
    (if (managed.unmanaged desired).isEmpty then []
        else [Statement.setProperties kind name (managed.unmanaged desired)]).map
      Statement.render =
    (if (managed.unmanaged desired').isEmpty then []
        else [Statement.setProperties kind name (managed.unmanaged desired')]).map
      Statement.render := by
  have hwritten : ∀ key, (managed.unmanaged desired).find? key =
      (managed.unmanaged desired').find? key :=
    ManagedKeys.find?_unmanaged_eq fun key _ => h key
  rw [PropertyMap.isEmpty_eq hwritten]
  split
  · rfl
  · simp only [List.map_cons, List.map_nil, Statement.render, Ddl.setProperties,
      PropertyMap.assignments_eq hwritten]

/-- The changes from the same previous map have the same texts. -/
theorem texts_propertyChanges (h : ∀ key, desired.find? key = desired'.find? key) :
    (propertyChanges managed kind name desired previous).map Statement.render =
      (propertyChanges managed kind name desired' previous).map Statement.render := by
  unfold propertyChanges
  rw [List.map_append, List.map_append, removedKeys_eq h, text_of_written h]

/-- The changes of maps in another order are alike. -/
theorem propertyChanges_alike (hdesired : ∀ key, desired.find? key = desired'.find? key)
    (hprevious : previous.entries.Perm previous'.entries) :
    List.Forall₂ Statement.Alike (propertyChanges managed kind name desired previous)
      (propertyChanges managed kind name desired' previous') := by
  have hremoved : (removedKeys managed desired previous).Perm
      (removedKeys managed desired' previous') := by
    rw [removedKeys_eq hdesired]
    exact (hprevious.map Prod.fst).filter _
  unfold propertyChanges
  refine List.rel_append ?_ (alike_of_texts_eq (text_of_written hdesired))
  rw [hremoved.isEmpty_eq]
  split
  · exact .nil
  · exact .cons (.unset hremoved) .nil

end maps

/-! ### Descriptions in another order -/

section descriptions

variable {d e p q : TableSpec}

/-- Whether there are changes does not depend on the order. -/
theorem equivalent_of_reordered (hde : d.Reordered e) (hpq : p.Reordered q) :
    d.properties.equivalent p.properties = e.properties.equivalent q.properties := by
  rw [Bool.eq_iff_iff, PropertyMap.equivalent_iff, PropertyMap.equivalent_iff]
  simp only [hde.find?_eq, hpq.find?_eq]

/-- The statements on properties are alike. -/
theorem propertiesFor_alike (hde : d.Reordered e) (hpq : p.Reordered q) :
    List.Forall₂ Statement.Alike (propertiesFor managed kind d p)
      (propertiesFor managed kind e q) := by
  unfold propertiesFor
  rw [equivalent_of_reordered hde hpq, hde.name_eq]
  split
  · exact .nil
  · exact propertyChanges_alike hde.find?_eq hpq.properties

/-- They have the same texts when the previous properties have the same order. -/
theorem texts_propertiesFor (hde : d.Reordered e) (hpq : p.properties = q.properties) :
    (propertiesFor managed kind d p).map Statement.render =
      (propertiesFor managed kind e q).map Statement.render := by
  have hequivalent : d.properties.equivalent q.properties = e.properties.equivalent q.properties :=
    equivalent_of_reordered hde (.refl : q.Reordered q)
  unfold propertiesFor
  rw [hpq, hequivalent, hde.name_eq]
  split
  · rfl
  · exact texts_propertyChanges hde.find?_eq

theorem kindSpecific_of_reordered (hde : d.Reordered e) (hpq : p.Reordered q) :
    kindSpecific d p = kindSpecific e q := by
  rw [hde.fields, hpq.fields]
  rfl

theorem commentFor_of_reordered (hde : d.Reordered e) (hpq : p.Reordered q) :
    commentFor kind d p = commentFor kind e q := by
  rw [hde.fields, hpq.fields]
  rfl

theorem columnsFor_of_reordered (hde : d.Reordered e) (hpq : p.Reordered q) :
    columnsFor kind d p = columnsFor kind e q := by
  rw [hde.fields, hpq.fields]
  rfl

end descriptions

end Plan

/-! ## Creating and planning -/

/-- **What statements do not show of properties.**

* Let two descriptions of a supported type agree on everything but properties and options, and let
  the user control the same pairs in both.  Then both objects are created by the same text.
* Let two desired descriptions of a supported type, and two previous ones, agree on everything but
  the options and the order of the properties.  Then the two plans can be written, they have as many
  statements, and these have the same texts one by one, except that a statement which removes
  properties may name its keys in another order; it does not if the previous properties have the
  same order. -/
theorem createStatement_and_script_of_reordered (managed : ManagedKeys) :
    (∀ {d e : TableSpec} {type : TableType}, d.type = .supported type →
      d.SameForUser managed e →
      ∃ text, d.createStatement managed = .ok text ∧ e.createStatement managed = .ok text) ∧
    ∀ {d e p q : TableSpec} {type : TableType}, d.type = .supported type →
      d.Reordered e → p.Reordered q →
      ∃ plan plan',
        Plan.statements managed d p = .ok plan ∧
        Plan.script managed d p = .ok (plan.map Statement.render) ∧
        Plan.statements managed e q = .ok plan' ∧
        Plan.script managed e q = .ok (plan'.map Statement.render) ∧
        List.Forall₂ Statement.Alike plan plan' ∧
        (p.properties = q.properties →
          plan.map Statement.render = plan'.map Statement.render) := by
  refine ⟨TableSpec.createStatement_of_sameForUser, fun {d e p q type} htype hde hpq => ?_⟩
  have hetype : e.type = .supported type := by rw [hde.fields, ← htype]
  have hplan := Plan.statements_of_supported managed p htype
  have hplan' := Plan.statements_of_supported managed q hetype
  -- all statements but those on properties are the same
  rw [← Plan.kindSpecific_of_reordered hde hpq, ← Plan.commentFor_of_reordered hde hpq,
    ← Plan.columnsFor_of_reordered hde hpq] at hplan'
  have hsame : ∀ plan : List Statement, List.Forall₂ Statement.Alike plan plan :=
    fun plan => Plan.alike_of_texts_eq rfl
  refine ⟨_, _, hplan, Plan.script_of_statements hplan, hplan', Plan.script_of_statements hplan',
    ?_, fun horder => ?_⟩
  · exact List.rel_append
      (List.rel_append (hsame _) (Plan.propertiesFor_alike hde hpq)) (hsame _)
  · simp only [List.map_append, Plan.texts_propertiesFor hde horder]

/-- Two tables whose properties are written down in two orders, one of them with a property of the
catalog and with options: they are created alike.  Their plans remove the same two properties, named
in two orders. -/
theorem createStatement_and_script_of_two_orders :
    let d : TableSpec :=
      { TableSpec.ofColumns [] with properties := .ofList [("team", "data"), ("tier", "gold")] }
    let created : TableSpec :=
      { d with
        properties := .ofList [("tier", "gold"), ("delta.checkpointPolicy", "v2"),
          ("team", "data")] }
    let e : TableSpec :=
      { d with
        properties := .ofList [("tier", "gold"), ("team", "data")]
        options := .ofList [("header", "true")] }
    let p : TableSpec := { d with properties := .ofList [("old", "1"), ("older", "2")] }
    let q : TableSpec := { d with properties := .ofList [("older", "2"), ("old", "1")] }
    (∃ text, d.createStatement .default = .ok text ∧ created.createStatement .default = .ok text) ∧
      ∃ plan plan',
        Plan.script .default d p = .ok (plan.map Statement.render) ∧
        Plan.script .default e q = .ok (plan'.map Statement.render) ∧
        List.Forall₂ Statement.Alike plan plan' ∧
        Plan.script .default d p ≠ Plan.script .default e q := by
  intro d created e p q
  have htype : d.type = .supported .managed := rfl
  have hcreated : d.SameForUser .default created := by
    refine ⟨rfl, fun key hkey => ?_, fun _ _ => rfl⟩
    have hkey' : key ≠ "delta.checkpointPolicy" := fun h => by
      rw [h] at hkey
      exact absurd hkey (by decide)
    have hd : d.properties.entries = [("team", "data"), ("tier", "gold")] := by decide
    have hc : created.properties.entries =
        [("tier", "gold"), ("delta.checkpointPolicy", "v2"), ("team", "data")] := by decide
    simp only [PropertyMap.find?, hd, hc, PropertyMap.lookup_cons_pair, hkey', if_false]
    by_cases hteam : key = "team"
    · subst hteam
      rfl
    · rw [if_neg hteam, if_neg hteam]
  have hde : d.Reordered e := ⟨rfl, by decide⟩
  have hpq : p.Reordered q := ⟨rfl, by decide⟩
  obtain ⟨hcreate, hplan⟩ := createStatement_and_script_of_reordered .default
  obtain ⟨plan, plan', -, hscript, -, hscript', halike, -⟩ := hplan htype hde hpq
  exact ⟨hcreate htype hcreated, plan, plan', hscript, hscript', halike, by decide +kernel⟩

end TableReconciler
