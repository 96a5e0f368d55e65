import TableReconciler.ColumnRule
import TableReconciler.Proofs.Columns.Agreement
import TableReconciler.Proofs.Plan.Drift

/-!
# What the column rules let pass

Which of the default rules can refuse a change depends on the numbers of columns alone, and so does
the way in which the change is planned.  One rule and one way of planning go position by position,
the others by name.

* `eq_of_violation?` says that one rule refuses at most, and `checkAll_eq_error_iff` that the order
  of rules does not matter because of that.
* `checkAll_defaults_eq_ok_iff` says which changes pass the default rules.
* `checkAll_defaults_complete` adds that no difference between columns that passes is left out of
  the plan.
-/

namespace TableReconciler

/-! ## What the rules compare -/

namespace Column

/-- Two columns have the same type, apart from case and synonyms. -/
def SameType (new old : Column) : Prop :=
  canonicalType new.type = canonicalType old.type

/-- Two columns have the same type, nullability and comment. -/
def SameFields (new old : Column) : Prop :=
  new.SameType old ∧ new.nullable = old.nullable ∧ new.comment = old.comment

end Column

namespace ColumnRule

variable {desired previous : List Column} {rule other : ColumnRule} {fault : ColumnFault}

theorem sameType_iff {new old : Column} : sameType new old = true ↔ new.SameType old := by
  simp [sameType, Column.SameType]

theorem sameFields_iff {new old : Column} : sameFields new old = true ↔ new.SameFields old := by
  simp [sameFields, Column.SameFields, sameType_iff, and_assoc]

/-- No type change is found in equally many columns exactly when no position has one. -/
theorem firstTypeChange?_eq_none_iff (hlength : desired.length = previous.length) :
    firstTypeChange? desired previous = none ↔
      List.Forall₂ Column.SameType desired previous := by
  induction desired generalizing previous with
  | nil =>
      rw [List.eq_nil_of_length_eq_zero hlength.symm]
      exact iff_of_true rfl .nil
  | cons new desired ih =>
      obtain ⟨old, previous, rfl⟩ := List.exists_cons_of_length_eq_add_one hlength.symm
      rw [List.forall₂_cons, ← ih (Nat.succ.inj hlength), ← sameType_iff, firstTypeChange?]
      split <;> simp_all

/-- Where names are unique, a name finds the desired column that has it. -/
theorem columnNamed?_eq_some_iff (hd : (desired.map Column.name).Nodup) {name : String}
    {column : Column} :
    columnNamed? desired name = some column ↔ column ∈ desired ∧ column.name = name := by
  unfold columnNamed?
  constructor
  · intro h
    have hname := List.find?_some h
    exact ⟨List.mem_reverse.mp (List.mem_of_find?_eq_some h), by simpa using hname⟩
  · rintro ⟨hmem, rfl⟩
    cases hfound : desired.reverse.find? fun x => Entry.text? x.name == some column.name with
    | none =>
        have hnone := List.find?_eq_none.mp hfound column (List.mem_reverse.mpr hmem)
        simp at hnone
    | some found =>
        have hname : found.name = column.name := by simpa using List.find?_some hfound
        have hfoundMem := List.mem_reverse.mp (List.mem_of_find?_eq_some hfound)
        rw [List.inj_on_of_nodup_map hd hfoundMem hmem hname]

/-- No previous column stays and changes exactly when columns of one name have the same fields. -/
theorem find?_changes_eq_none_iff (hd : (desired.map Column.name).Nodup) :
    previous.find? (changes desired) = none ↔
      ∀ new ∈ desired, ∀ old ∈ previous, new.name = old.name → new.SameFields old := by
  have hchanges : ∀ old : Column, changes desired old = true ↔
      ∃ new ∈ desired, new.name = old.name ∧ ¬new.SameFields old := by
    intro old
    simp only [changes, Option.any_eq_true, columnNamed?_eq_some_iff hd,
      Bool.not_eq_true', ← sameFields_iff, Bool.not_eq_true, and_assoc]
  rw [List.find?_eq_none]
  simp only [hchanges, not_exists, not_and, not_not]
  exact ⟨fun h new hnew old hold hname => h old hold new hnew hname,
    fun h old hold new hnew hname => h new hnew old hold hname⟩

/-! ## One rule at a time -/

/-- With equally many columns only the positions count, otherwise only the names. -/
theorem eq_of_violation? {fault' : ColumnFault} (h : rule.violation? desired previous = some fault)
    (h' : other.violation? desired previous = some fault') : rule = other := by
  cases rule <;> cases other <;> simp_all [violation?]

/-- A rule refuses with the fault that it finds. -/
theorem check_eq_error_iff :
    rule.check desired previous = .error fault ↔
      rule.violation? desired previous = some fault := by
  unfold check
  split <;> simp_all

/-- The first rule is applied before the others. -/
theorem checkAll_cons {τ : Type} [Entry τ] {desired : List (Column τ)} (rule : ColumnRule)
    (rules : List ColumnRule) :
    checkAll (rule :: rules) desired previous =
      match rule.violation? desired previous with
      | some fault => .error fault
      | none => checkAll rules desired previous := by
  have hcons : checkAll (rule :: rules) desired previous =
      (rule.check desired previous >>= fun _ => checkAll rules desired previous) := rfl
  rw [hcons, check]
  cases rule.violation? desired previous <;> rfl

/-- Rules accept a change when each of them does. -/
theorem checkAll_eq_ok_iff {rules : List ColumnRule} :
    checkAll rules desired previous = .ok () ↔
      ∀ rule ∈ rules, rule.violation? desired previous = none := by
  induction rules with
  | nil => exact iff_of_true rfl (List.forall_mem_nil _)
  | cons rule rules ih =>
      rw [checkAll_cons, List.forall_mem_cons, ← ih]
      split <;> simp_all

/-- Rules refuse a change with a fault when one of them finds it.  Those before it are no other
rules than this one, or they accept the change. -/
theorem checkAll_eq_error_iff {rules : List ColumnRule} :
    checkAll rules desired previous = .error fault ↔
      ∃ rule ∈ rules, rule.violation? desired previous = some fault := by
  induction rules with
  | nil => exact iff_of_false nofun (by simp)
  | cons rule rules ih =>
      rw [checkAll_cons, List.exists_mem_cons_iff, ← ih]
      cases hrule : rule.violation? desired previous with
      | none => simp
      | some found =>
          have hsame : checkAll rules desired previous = .error fault → found = fault := by
            intro h
            obtain ⟨other, -, hother⟩ := ih.mp h
            rw [eq_of_violation? hrule hother, hother] at hrule
            exact (Option.some.inj hrule).symm
          simpa using hsame

/-- The order of rules, and how often each is applied, does not matter. -/
theorem checkAll_congr {rules rules' : List ColumnRule} (h : ∀ rule, rule ∈ rules ↔ rule ∈ rules') :
    checkAll rules desired previous = checkAll rules' desired previous := by
  cases hall : checkAll rules' desired previous with
  | ok _ =>
      rw [checkAll_eq_ok_iff] at hall ⊢
      exact fun rule hrule => hall rule ((h rule).mp hrule)
  | error fault =>
      rw [checkAll_eq_error_iff] at hall ⊢
      obtain ⟨rule, hrule, hfault⟩ := hall
      exact ⟨rule, (h rule).mpr hrule, hfault⟩

/-! ## What is accepted -/

/-- The default rules accept a change when it keeps the type in every position, or when it changes
the number of columns and keeps the fields of those that stay. -/
theorem checkAll_defaults_eq_ok_iff (hd : (desired.map Column.name).Nodup) :
    checkAll defaults desired previous = .ok () ↔
      List.Forall₂ Column.SameType desired previous ∨
        desired.length ≠ previous.length ∧
          ∀ new ∈ desired, ∀ old ∈ previous, new.name = old.name → new.SameFields old := by
  rw [checkAll_eq_ok_iff, defaults, List.forall_mem_cons, List.forall_mem_singleton, violation?,
    violation?]
  by_cases hlength : desired.length = previous.length
  · rw [if_pos hlength, if_pos hlength, firstTypeChange?_eq_none_iff hlength]
    simp [hlength]
  · rw [if_neg hlength, if_neg hlength, Option.map_eq_none_iff, find?_changes_eq_none_iff hd]
    simp [hlength, mt List.Forall₂.length_eq hlength]

/-- **Rules and plan together miss nothing.** Let the desired and the previous description be valid,
and the desired one of a supported type.

* One rule at most refuses the change of columns.  In either order the default rules accept the same
  changes and refuse with the same fault.
* They accept a change if and only if there are equally many columns and each position keeps its
  type, or there are not and the columns with a name in common keep type, nullability and comment.
* No statement is planned for a change that they accept if and only if the columns agree position by
  position on name, comment, nullability and type. -/
theorem checkAll_defaults_complete {desired previous : TableSpec} {type : TableType}
    (hd : desired.Valid) (hp : previous.Valid) (htype : desired.type = .supported type) :
    (∀ (rule other : ColumnRule) (fault fault' : ColumnFault),
      rule.check desired.columns previous.columns = .error fault →
      other.check desired.columns previous.columns = .error fault' → rule = other) ∧
    (∀ rules : List ColumnRule, rules.Perm defaults →
      checkAll rules desired.columns previous.columns =
        checkAll defaults desired.columns previous.columns) ∧
    (checkAll defaults desired.columns previous.columns = .ok () ↔
      List.Forall₂ Column.SameType desired.columns previous.columns ∨
        desired.columns.length ≠ previous.columns.length ∧
          ∀ new ∈ desired.columns, ∀ old ∈ previous.columns, new.name = old.name →
            new.SameFields old) ∧
    (checkAll defaults desired.columns previous.columns = .ok () →
      (Plan.columns desired previous = .ok [] ↔
        List.Forall₂ (fun new old => new.Agrees old ∧ new.SameType old)
          desired.columns previous.columns)) := by
  have haccepted : checkAll defaults desired.columns previous.columns = .ok () ↔ _ :=
    checkAll_defaults_eq_ok_iff hd.columns_nodup
  refine ⟨fun rule other fault fault' h h' => ?_, fun rules h => ?_, haccepted, fun h => ?_⟩
  · rw [check_eq_error_iff] at h h'
    exact eq_of_violation? h h'
  · exact checkAll_congr fun rule => h.mem_iff
  · rw [Plan.columns_of_supported previous htype, Except.ok.injEq,
      Plan.columnsFor_eq_nil_iff hd.columns_nodup hp.columns_nodup]
    refine ⟨fun hagrees => ?_, List.Forall₂.imp fun _ _ hboth => hboth.1⟩
    -- columns that agree are equally many, so the change was accepted position by position
    have htypes : List.Forall₂ Column.SameType desired.columns previous.columns :=
      (haccepted.mp h).resolve_right fun hnames => hnames.1 hagrees.length_eq
    exact List.forall₂_iff_zip.mpr ⟨hagrees.length_eq, fun hpair =>
      ⟨List.forall₂_zip hagrees hpair, List.forall₂_zip htypes hpair⟩⟩

/-- A type under another name is no change, and a column that becomes mandatory is one. -/
theorem checkAll_defaults_of_synonym :
    let desired : TableSpec := .ofColumns [⟨"id", "INTEGER", "", true⟩, ⟨"day", "date", "", false⟩]
    let previous : TableSpec := .ofColumns [⟨"id", "int", "", true⟩, ⟨"day", "date", "", true⟩]
    checkAll defaults desired.columns previous.columns = .ok () ∧
      checkAll [.noMixedChange, .noTypeChange] desired.columns previous.columns = .ok () ∧
      Plan.columns desired previous ≠ .ok [] := by
  intro desired previous
  have hd : desired.Valid := TableSpec.ofColumns_valid (by decide)
  have hp : previous.Valid := TableSpec.ofColumns_valid (by decide)
  obtain ⟨-, horder, haccepted, hplan⟩ := checkAll_defaults_complete hd hp rfl
  have htypes : List.Forall₂ Column.SameType desired.columns previous.columns :=
    .cons (by unfold Column.SameType; decide +kernel) (.cons rfl .nil)
  have h := haccepted.mpr (.inl htypes)
  refine ⟨h, (horder _ (.swap _ _ _)).trans h, fun hnone => ?_⟩
  have hfields := (hplan h).mp hnone
  simp [desired, previous, TableSpec.ofColumns, Column.Agrees] at hfields

end ColumnRule

end TableReconciler
