import TableReconciler.Catalog.Record
import TableReconciler.Proofs.Json.Limits
import TableReconciler.Proofs.Json.Written

/-!
# Cluster keys of a record

What becomes of the text that a record holds as its clustering property, when nothing else stands in
the way of a description.

A list of paths stands for the paths with dots in them, and a text that is empty or not JSON for no
keys.  Not every JSON value stands for keys, however: numbers, truth values and null do not, nor
does a list with a path that has a part other than a text (`Value.Keyless`).  A record with such a
value has no description, and no other value has that effect, as far as the text is within the
limits for reading JSON (`description_of_clusteringProperty`).
-/

namespace TableReconciler

/-! ## Values without keys -/

/-- A value that stands for no cluster keys, not even for the empty sequence of them: a scalar that
is no text, or a list with a list in it that has a part other than a text. -/
def Value.Keyless : Value → Prop
  | .scalar value => value.isText = false
  | .list items => ∃ path, .list path ∈ items ∧ ∃ part ∈ path, part.text? = none
  | .mapping _ => False

/-- A traversal finds nothing when one of its steps does. -/
theorem mapM_eq_none_iff {α β : Type} {f : α → Option β} {items : List α} :
    items.mapM f = none ↔ ∃ item ∈ items, f item = none := by
  induction items with
  | nil => simp
  | cons item rest ih =>
      rw [List.mapM_cons, List.exists_mem_cons_iff, ← ih]
      cases f item <;> cases rest.mapM f <;> simp

/-- A traversal of prepared items finds something when each of its steps does. -/
theorem mapM_map_of_some {α β γ : Type} {f : β → Option γ} {g : α → β} {k : α → γ}
    (h : ∀ a, f (g a) = some (k a)) (items : List α) :
    (items.map g).mapM f = some (items.map k) := by
  have hsteps : f ∘ g = fun a => pure (k a) := funext h
  rw [List.mapM_map, hsteps, List.mapM_pure]
  rfl

namespace Catalog

/-- An item of a list stands for no key when it is a list with a part other than a text. -/
theorem clusterKey?_eq_none_iff {item : Value} :
    clusterKey? item = none ↔ ∃ path, item = .list path ∧ ∃ part ∈ path, part.text? = none := by
  cases item with
  | list path =>
      rw [clusterKey?, Option.map_eq_none_iff, mapM_eq_none_iff]
      exact ⟨fun h => ⟨path, rfl, h⟩, fun ⟨_, hpath, h⟩ => Value.list.inj hpath ▸ h⟩
  | scalar value => exact iff_of_false nofun nofun
  | mapping entries => exact iff_of_false nofun nofun

/-- The values that stand for no cluster keys. -/
theorem clusterKeysOf?_eq_none_iff {value : Value} :
    clusterKeysOf? value = none ↔ value.Keyless := by
  cases value with
  | scalar value =>
      rw [clusterKeysOf?, Option.map_eq_none_iff, Value.Keyless, Scalar.isText,
        Option.isSome_eq_false_iff, Option.isNone_iff_eq_none]
  | list items =>
      rw [clusterKeysOf?, mapM_eq_none_iff]
      constructor
      · rintro ⟨item, hitem, hnone⟩
        obtain ⟨path, rfl, hpart⟩ := clusterKey?_eq_none_iff.mp hnone
        exact ⟨path, hitem, hpart⟩
      · rintro ⟨path, hitem, hpart⟩
        exact ⟨.list path, hitem, clusterKey?_eq_none_iff.mpr ⟨path, rfl, hpart⟩⟩
  | mapping entries => exact iff_of_false nofun id

/-- The text with given code points is written as these are. -/
theorem text?_ofPoints (points : List Text.CodePoint) :
    (Value.ofPoints points).text? = some (Text.written points) := by
  have hpoints := Scalar.points?_ofPoints points
  unfold Value.ofPoints
  cases hscalar : Scalar.ofPoints points with
  | text value | illFormed value =>
      rw [hscalar] at hpoints
      cases hpoints
      simp [Value.text?]
  | null | bool _ | int _ | float _ =>
      rw [hscalar] at hpoints
      cases hpoints

/-- A list of paths of texts stands for the paths with dots between their texts. -/
theorem clusterKeysOf?_paths {α : Type} {part : α → Value} {text : α → String}
    (h : ∀ a, (part a).text? = some (text a)) (paths : List (List α)) :
    clusterKeysOf? (.list (paths.map fun path => .list (path.map part))) =
      some (paths.map fun path => ".".intercalate (path.map text)) := by
  have hpath : ∀ path : List α,
      clusterKey? (.list (path.map part)) = some (".".intercalate (path.map text)) := by
    intro path
    rw [clusterKey?, mapM_map_of_some h]
    rfl
  exact mapM_map_of_some hpath paths

/-! ## Properties -/

section

variable {properties : PropertyMap} {text : String}
  (hstored : properties.find? clusteringProperty = some text)

include hstored

/-- A text that is not JSON holds no cluster keys. -/
theorem clusterKeys_of_malformed (h : Json.read clusteringDepth text = .error .malformed) :
    clusterKeys properties = .ok [] := by
  simp only [clusterKeys, hstored, h, ite_self]

/-- A text that is JSON holds the cluster keys that its value stands for. -/
theorem clusterKeys_of_read {value : Value} (h : Json.read clusteringDepth text = .ok value) :
    clusterKeys properties = (clusterKeysOf? value).elim (.error .clusterKeys) .ok := by
  -- an empty text is passed over before it is read, but it would not be read either
  have hempty : text.isEmpty = false := by
    by_contra hempty
    obtain rfl : text = "" := by simpa using hempty
    cases h
  simp only [clusterKeys, hstored, h, hempty, Bool.false_eq_true, if_false]
  cases clusterKeysOf? value <;> rfl

end

/-! ## Records -/

/-- The record has a description, with these cluster keys and the properties of the record. -/
def TableRecord.Yields (info : TableRecord) (keys : List String) : Prop :=
  ∃ d, info.description = .ok d ∧ d.clusterKeys = keys ∧ d.properties = info.properties

/-- Without positions among the partition columns there are none. -/
theorem partitions_eq_nil {columns : List ColumnRecord}
    (h : ∀ column ∈ columns, column.partitionIndex = none) : partitions columns = [] := by
  have hindexed : columns.filterMap (fun info => info.partitionIndex.map (·, info.name)) = [] :=
    List.filterMap_eq_nil_iff.mpr fun column hcolumn => by rw [h column hcolumn]; rfl
  rw [partitions, hindexed, List.mergeSort_nil]
  rfl

section

variable {info : TableRecord} {type : TableType} {text : String} {value : Value}
  {keys : List String} {fault : Fault}
  (htype : TableType.ofName? (info.type.getD "") = some type)
  (hnames : (info.columns.map ColumnRecord.name).Nodup)
  (hpartitions : ∀ column ∈ info.columns, column.partitionIndex = none)
  (hstored : info.properties.find? clusteringProperty = some text)

include htype

/-- A record with a supported type states it. -/
theorem tableType_eq : info.tableType = .ok type := by
  simp only [TableRecord.tableType, htype]

/-- When the property holds no cluster keys, the record has no description. -/
theorem description_of_clusterKeys_error (h : clusterKeys info.properties = .error fault) :
    info.description = .error fault := by
  unfold TableRecord.description
  rw [tableType_eq htype, h]
  rfl

include hnames hpartitions

/-- When the property holds cluster keys, the record has a description with them. -/
theorem yields_of_clusterKeys (h : clusterKeys info.properties = .ok keys) : info.Yields keys := by
  unfold TableRecord.Yields TableRecord.description
  rw [tableType_eq htype, h]
  -- the location of a view and the query of a table do not get into the description
  refine ⟨_, congrArg (Except.mapError Fault.invalid) (TableSpec.validated_of_valid ?_), rfl, rfl⟩
  exact {
    layout := .inl (partitions_eq_nil hpartitions)
    location := fun hview => by cases type <;> first | rfl | cases hview
    definition := fun hview => by cases type <;> first | rfl | cases hview
    columns_nodup := by
      simpa [TableSpec.columnNames, Function.comp_def, ColumnRecord.column] using hnames }

include hstored

/-- A text that is not JSON yields no keys. -/
theorem yields_of_malformed (h : Json.read clusteringDepth text = .error .malformed) :
    info.Yields [] :=
  yields_of_clusterKeys htype hnames hpartitions (clusterKeys_of_malformed hstored h)

/-- JSON yields the keys that its value stands for. -/
theorem yields_of_read (h : Json.read clusteringDepth text = .ok value)
    (hkeys : clusterKeysOf? value = some keys) : info.Yields keys := by
  refine yields_of_clusterKeys htype hnames hpartitions ?_
  rw [clusterKeys_of_read hstored h, hkeys]
  rfl

/-- Within the limits, a record has no description exactly when its JSON stands for no keys. -/
theorem description_eq_error_iff (hlimits : Json.Within clusteringDepth text) :
    info.description = .error fault ↔
      fault = .clusterKeys ∧
        ∃ value, Json.read clusteringDepth text = .ok value ∧ value.Keyless := by
  have hkeyless : ∀ {value}, Json.read clusteringDepth text = .ok value →
      clusterKeysOf? value = none → info.description = .error .clusterKeys := by
    intro value h hkeys
    refine description_of_clusterKeys_error htype ?_
    rw [clusterKeys_of_read hstored h, hkeys]
    rfl
  constructor
  · intro hfault
    have hnone : ∀ keys, ¬info.Yields keys := by
      rintro keys ⟨d, hd, -⟩
      rw [hfault] at hd
      cases hd
    cases hread : Json.read clusteringDepth text with
    | error early =>
        have hmalformed : early = .malformed := hlimits early hread
        exact absurd
          (yields_of_malformed htype hnames hpartitions hstored (hmalformed ▸ hread)) (hnone [])
    | ok value =>
        cases hkeys : clusterKeysOf? value with
        | some keys =>
            exact absurd (yields_of_read htype hnames hpartitions hstored hread hkeys) (hnone keys)
        | none =>
            rw [hkeyless hread hkeys] at hfault
            cases hfault
            exact ⟨rfl, value, rfl, clusterKeysOf?_eq_none_iff.mp hkeys⟩
  · rintro ⟨rfl, value, hread, hvalue⟩
    exact hkeyless hread (clusterKeysOf?_eq_none_iff.mpr hvalue)

end

/-- **Which clustering properties describe a record.**  Of a record with a supported type, unique
column names and no partition columns, whose clustering property is within the limits for reading
JSON:

* a text that is empty or not JSON yields a description without cluster keys;
* a list of lists of texts, in whatever way it is written, yields the paths with dots in them, and
  so does a list of paths that is written as JSON;
* any other value that stands for keys yields these;
* the record has no description exactly when the value stands for none, and the fault is then that
  of a wrong shape. -/
theorem description_of_clusteringProperty {info : TableRecord} {type : TableType} {text : String}
    (htype : TableType.ofName? (info.type.getD "") = some type)
    (hnames : (info.columns.map ColumnRecord.name).Nodup)
    (hpartitions : ∀ column ∈ info.columns, column.partitionIndex = none)
    (hstored : info.properties.find? clusteringProperty = some text)
    (hlimits : Json.Within clusteringDepth text) :
    (text = "" → info.Yields []) ∧
    (Json.read clusteringDepth text = .error .malformed → info.Yields []) ∧
    (∀ paths : List (List (List Text.CodePoint)),
      Json.read clusteringDepth text =
        .ok (.list (paths.map fun path => .list (path.map Value.ofPoints))) →
      info.Yields (paths.map fun path => ".".intercalate (path.map Text.written))) ∧
    (∀ paths : List (List String), text = Json.writePaths paths →
      info.Yields (paths.map ".".intercalate)) ∧
    (∀ value, Json.read clusteringDepth text = .ok value → ¬value.Keyless →
      ∃ keys, clusterKeysOf? value = some keys ∧ info.Yields keys) ∧
    ∀ fault, info.description = .error fault ↔
      fault = .clusterKeys ∧
        ∃ value, Json.read clusteringDepth text = .ok value ∧ value.Keyless := by
  have hmalformed := yields_of_malformed htype hnames hpartitions hstored
  have hread : ∀ {value keys}, Json.read clusteringDepth text = .ok value →
      clusterKeysOf? value = some keys → info.Yields keys :=
    yields_of_read htype hnames hpartitions hstored
  refine ⟨?empty, hmalformed, ?paths, ?written, ?other, ?fault⟩
  case empty =>
    rintro rfl
    exact hmalformed rfl
  case paths => exact fun paths h => hread h (clusterKeysOf?_paths text?_ofPoints paths)
  case written =>
    rintro paths rfl
    refine hread (Json.read_writePaths paths (by decide)) ?_
    simpa using clusterKeysOf?_paths (fun _ => rfl : ∀ t, (Value.text t).text? = some t) paths
  case other =>
    intro value h hvalue
    obtain ⟨keys, hkeys⟩ :=
      Option.ne_none_iff_exists'.mp (mt clusterKeysOf?_eq_none_iff.mp hvalue)
    exact ⟨keys, hkeys, hread h hkeys⟩
  case fault =>
    exact fun fault => description_eq_error_iff htype hnames hpartitions hstored hlimits

/-- A record of a table whose clustering property is the text. -/
def clusteredRecord (text : String) : TableRecord where
  name := ⟨"main", "sales", "orders"⟩
  type := some "MANAGED"
  columns := [{ name := "id" }, { name := "address" }]
  properties := .ofList [(clusteringProperty, text)]

/-- Two paths, one of them with a part inside another. -/
theorem description_of_two_paths :
    let text := "[[\"id\"],[\"address\",\"city\"]]"
    let info := clusteredRecord text
    TableType.ofName? (info.type.getD "") = some .managed ∧
    (info.columns.map ColumnRecord.name).Nodup ∧
    (∀ column ∈ info.columns, column.partitionIndex = none) ∧
    info.properties.find? clusteringProperty = some text ∧
    Json.Within clusteringDepth text ∧
    info.Yields ["id", "address.city"] := by
  intro text info
  have htype : TableType.ofName? (info.type.getD "") = some .managed := by decide
  have hnames : (info.columns.map ColumnRecord.name).Nodup := by decide
  have hpartitions : ∀ column ∈ info.columns, column.partitionIndex = none := by decide
  have hstored : info.properties.find? clusteringProperty = some text := by decide +kernel
  have hlimits : Json.Within clusteringDepth text :=
    Json.within_of_countP (by decide +kernel) (by decide +kernel)
  have htext : text = Json.writePaths [["id"], ["address", "city"]] := by decide +kernel
  obtain ⟨-, -, -, hwritten, -⟩ :=
    description_of_clusteringProperty htype hnames hpartitions hstored hlimits
  have hyields := hwritten _ htext
  have hkeys : [["id"], ["address", "city"]].map ".".intercalate = ["id", "address.city"] := by
    decide +kernel
  rw [hkeys] at hyields
  exact ⟨htype, hnames, hpartitions, hstored, hlimits, hyields⟩

/-- Numbers, truth values, null, and paths with a part other than a text make a record that has no
description. -/
theorem description_of_keyless_texts :
    (clusteredRecord "5").description = .error .clusterKeys ∧
    (clusteredRecord "true").description = .error .clusterKeys ∧
    (clusteredRecord "null").description = .error .clusterKeys ∧
    (clusteredRecord "[[\"id\"],[1]]").description = .error .clusterKeys := by
  decide +kernel

end Catalog

end TableReconciler
