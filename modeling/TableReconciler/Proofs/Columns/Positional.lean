import Mathlib.Data.List.Nodup
import Mathlib.Data.Nat.Find
import TableReconciler.Proofs.Columns.Effect
import TableReconciler.Proofs.Plan.Wording

/-!
# Columns that are edited in place

What the plan for columns does when the desired and the previous description have the same number
of columns: `run_columns_of_length_eq`.  Each position is renamed, commented and constrained, one
after the other.

A rename fails when its new name is still the name of a column, and that can only be one whose turn
is yet to come: `Blocked` says that a position is desired to have the name of a later one.  The run
gets as far as the first such position (`run_positional`).  Before it the columns are the desired
ones, from it on they are the previous ones; that mixture is the invariant of the run, and its names
are unique because no position before was blocked.
-/

namespace TableReconciler

namespace ColumnChange

/-! ## The changes -/

/-- The changes to a column whose entries are texts. -/
theorem attributes_eq (new old : Column) :
    attributes new old =
      (if new.name = old.name then [] else [.rename old.name new.name]) ++
        ((if new.comment = old.comment then [] else [.setComment new.name new.comment]) ++
          if new.nullable = old.nullable then [] else [.setNullable new.name new.nullable]) := by
  simp [attributes]

/-- The first position is changed before the others. -/
theorem positional_cons (new old : Column) (desired previous : List Column) :
    positional (new :: desired) (old :: previous) =
      attributes new old ++ positional desired previous := rfl

/-! ## One position -/

/-- The desired column, with the type that its position has already. -/
def settle (new old : Column) : Column :=
  { new with type := old.type }

/-- A position whose new name is free is brought to its desired column. -/
theorem run_attributes_of_free {new old : Column} {front back : List Column}
    (hold : old.name ∉ front.map Column.name) (hfront : new.name ∉ front.map Column.name)
    (hback : new.name ∉ back.map Column.name) (rest : List ColumnChange) :
    run (front ++ old :: back) (attributes new old ++ rest) =
      run (front ++ settle new old :: back) rest := by
  rw [attributes_eq, List.append_assoc, List.append_assoc]
  -- the column after each of the three changes
  let renamed : Column := { old with name := new.name }
  let commented : Column := { renamed with comment := new.comment }
  have hrename : ∀ more, run (front ++ old :: back)
      ((if new.name = old.name then [] else [.rename old.name new.name]) ++ more) =
        run (front ++ renamed :: back) more := by
    refine run_unless (fun hsame => ?_) (fun hdiffers => ?_)
    · simp only [renamed, hsame]
    · have hfree : new.name ∉ (front ++ old :: back).map Column.name := by
        simp only [List.map_append, List.map_cons, List.mem_append, List.mem_cons, not_or]
        exact ⟨hfront, hdiffers, hback⟩
      simp only [apply, if_neg hfree]
      exact replaceNamed_append _ back hold rfl
  have hcomment : ∀ more, run (front ++ renamed :: back)
      ((if new.comment = old.comment then [] else [.setComment new.name new.comment]) ++ more) =
        run (front ++ commented :: back) more := by
    refine run_unless (fun hsame => ?_) (fun _ => ?_)
    · simp only [commented, renamed, hsame]
    · exact replaceNamed_append _ back hfront rfl
  have hnullable : ∀ more, run (front ++ commented :: back)
      ((if new.nullable = old.nullable then [] else [.setNullable new.name new.nullable]) ++ more) =
        run (front ++ settle new old :: back) more := by
    refine run_unless (fun hsame => ?_) (fun _ => ?_)
    · simp only [commented, renamed, settle, hsame]
    · exact replaceNamed_append _ back hfront rfl
  rw [hrename, hcomment, hnullable]

/-- A position whose new name belongs to a later column halts the run. -/
theorem run_attributes_of_taken {new old : Column} {front back : List Column}
    (hold : old.name ∉ back.map Column.name) (hback : new.name ∈ back.map Column.name)
    (rest : List ColumnChange) :
    run (front ++ old :: back) (attributes new old ++ rest) =
      .error ⟨.rename old.name new.name, front ++ old :: back⟩ := by
  have hdiffers : new.name ≠ old.name := fun h => hold (h ▸ hback)
  have htaken : new.name ∈ (front ++ old :: back).map Column.name := by
    simp only [List.map_append, List.map_cons, List.mem_append, List.mem_cons]
    exact .inr (.inr hback)
  have happly : apply (front ++ old :: back) (.rename old.name new.name) = none := by
    simp only [apply, if_pos htaken]
  rw [attributes_eq, if_neg hdiffers, List.append_assoc, List.singleton_append,
    run_cons_of_none happly]

/-! ## Positions that are blocked -/

/-- Position `i` is desired to have the name that a later position has had so far. -/
def Blocked (desired previous : List Column) (i : Nat) : Prop :=
  ∃ j name, i < j ∧ (desired.map Column.name)[i]? = some name ∧
    (previous.map Column.name)[j]? = some name

/-- The first position is blocked when its new name is among the later old ones. -/
theorem blocked_zero_iff {new old : Column} {desired previous : List Column} :
    Blocked (new :: desired) (old :: previous) 0 ↔ new.name ∈ previous.map Column.name := by
  constructor
  · rintro ⟨j, name, hj, hnew, hold⟩
    obtain ⟨k, rfl⟩ := Nat.exists_eq_succ_of_ne_zero (Nat.ne_of_gt hj)
    cases hnew
    exact List.mem_of_getElem? hold
  · intro h
    obtain ⟨k, hk⟩ := List.mem_iff_getElem?.mp h
    exact ⟨k + 1, new.name, Nat.succ_pos k, rfl, hk⟩

/-- A later position is blocked whatever the first one is. -/
theorem blocked_succ_iff {new old : Column} {desired previous : List Column} {i : Nat} :
    Blocked (new :: desired) (old :: previous) (i + 1) ↔ Blocked desired previous i := by
  constructor
  · rintro ⟨j, name, hj, hnew, hold⟩
    obtain ⟨k, rfl⟩ := Nat.exists_eq_succ_of_ne_zero (Nat.ne_of_gt (Nat.zero_lt_of_lt hj))
    exact ⟨k, name, Nat.lt_of_succ_lt_succ hj, hnew, hold⟩
  · rintro ⟨j, name, hj, hnew, hold⟩
    exact ⟨j + 1, name, Nat.succ_lt_succ hj, hnew, hold⟩

/-- Of the positions that are blocked there is a first one. -/
theorem exists_first_blocked {desired previous : List Column}
    (h : ∃ i, Blocked desired previous i) :
    ∃ i, Blocked desired previous i ∧ ∀ k < i, ¬Blocked desired previous k := by
  classical
  exact ⟨Nat.find h, Nat.find_spec h, fun _ hk => Nat.find_min h hk⟩

/-- A position that is blocked is one of the desired positions. -/
theorem exists_desired_of_blocked {desired previous : List Column} {i : Nat}
    (h : Blocked desired previous i) : ∃ new, desired[i]? = some new := by
  obtain ⟨j, name, -, hname, -⟩ := h
  rw [List.getElem?_map] at hname
  obtain ⟨new, hnew, -⟩ := Option.map_eq_some_iff.mp hname
  exact ⟨new, hnew⟩

/-! ## The run -/

/-- As long as no position is blocked the run goes on, and leaves the desired columns behind it. -/
theorem run_positional (front : List Column) {desired previous : List Column} (i : Nat)
    (hlength : desired.length = previous.length)
    (hd : ((front ++ desired).map Column.name).Nodup) (hp : (previous.map Column.name).Nodup)
    (hfront : ∀ name ∈ front.map Column.name, name ∉ previous.map Column.name)
    (hfree : ∀ k < i, ¬Blocked desired previous k) :
    run (front ++ previous) (positional desired previous) =
      run (front ++ ((List.zipWith settle desired previous).take i ++ previous.drop i))
        (positional (desired.drop i) (previous.drop i)) := by
  induction i generalizing front desired previous with
  | zero => rfl
  | succ i ih =>
      match desired, previous, hlength with
      | [], [], _ => rfl
      | new :: desired, old :: previous, hlength =>
          have hassoc : front ++ new :: desired = front ++ [new] ++ desired := by simp
          have hprevious := List.nodup_cons.mp hp
          have hnew : new.name ∉ front.map Column.name := by
            rw [List.map_append, List.map_cons] at hd
            exact fun h => (List.nodup_append.mp hd).2.2 _ h _ List.mem_cons_self rfl
          have hlater : new.name ∉ previous.map Column.name := fun h =>
            hfree 0 (Nat.succ_pos i) (blocked_zero_iff.mpr h)
          have hold : old.name ∉ front.map Column.name := fun h =>
            hfront _ h List.mem_cons_self
          have hnext : ∀ name ∈ (front ++ [settle new old]).map Column.name,
              name ∉ previous.map Column.name := by
            intro name hname
            rw [List.map_append, List.mem_append] at hname
            rcases hname with hname | hname
            · exact fun h => hfront name hname (List.mem_cons_of_mem _ h)
            · rw [List.mem_singleton.mp hname]
              exact hlater
          rw [positional_cons, run_attributes_of_free hold hnew hlater, List.append_cons,
            ih _ (Nat.succ.inj hlength) (by simpa [settle] using hd) hprevious.2 hnext
              fun k hk h => hfree (k + 1) (Nat.succ_lt_succ hk) (blocked_succ_iff.mpr h)]
          simp

variable {desired previous : List Column}

/-- A run that no position blocks completes, and brings each position to its desired column. -/
theorem run_positional_of_unblocked (hlength : desired.length = previous.length)
    (hd : (desired.map Column.name).Nodup) (hp : (previous.map Column.name).Nodup)
    (hfree : ∀ i, ¬Blocked desired previous i) :
    run previous (positional desired previous) = .ok (List.zipWith settle desired previous) := by
  have hrun := run_positional [] desired.length hlength hd hp (by simp)
    fun k _ => hfree k
  have hall : (List.zipWith settle desired previous).length ≤ desired.length := by
    simp [hlength]
  rw [List.nil_append, List.nil_append, List.take_of_length_le hall, List.drop_length,
    List.drop_of_length_le (Nat.le_of_eq hlength.symm), List.append_nil] at hrun
  exact hrun

/-- The run halts at the first position that is blocked: its rename fails, what is before it is
done, and the rest is untouched. -/
theorem run_positional_of_blocked {i : Nat} {new old : Column}
    (hlength : desired.length = previous.length)
    (hd : (desired.map Column.name).Nodup) (hp : (previous.map Column.name).Nodup)
    (hleast : ∀ k < i, ¬Blocked desired previous k) (hblocked : Blocked desired previous i)
    (hnew : desired[i]? = some new) (hold : previous[i]? = some old) :
    run previous (positional desired previous) =
      .error ⟨.rename old.name new.name,
        (List.zipWith settle desired previous).take i ++ previous.drop i⟩ := by
  obtain ⟨hi, rfl⟩ := List.getElem?_eq_some_iff.mp hnew
  obtain ⟨hi', rfl⟩ := List.getElem?_eq_some_iff.mp hold
  have hrun := run_positional [] i hlength hd hp (by simp) hleast
  rw [List.nil_append, List.nil_append, List.drop_eq_getElem_cons hi,
    List.drop_eq_getElem_cons hi', positional_cons] at hrun
  rw [hrun, List.drop_eq_getElem_cons hi']
  apply run_attributes_of_taken
  · have hrest : ((previous.drop i).map Column.name).Nodup :=
      hp.sublist ((List.drop_sublist i previous).map Column.name)
    rw [List.drop_eq_getElem_cons hi'] at hrest
    exact (List.nodup_cons.mp hrest).1
  · obtain ⟨j, name, hij, hname, hlater⟩ := hblocked
    rw [List.getElem?_map, List.getElem?_eq_getElem hi] at hname
    cases hname
    rw [List.map_drop]
    refine List.mem_of_getElem? (i := j - (i + 1)) ?_
    rw [List.getElem?_drop, Nat.add_sub_cancel' hij]
    exact hlater

end ColumnChange

namespace Plan

open ColumnChange

/-- **Columns that are edited in place.** Let the desired and the previous columns be equally many.
The plan consists of changes to the columns of the object, each of them written in its own form and
in the order of the changes, and carried out on the previous columns

* it completes if and only if no position is desired to have the name that a later position has
  had so far;
* when it completes, each position has its desired name, comment and nullability, and its previous
  type;
* when it does not, it fails with the rename of the first such position; the positions before are
  brought to their desired values then, and from this position on they are untouched. -/
theorem run_columns_of_length_eq {desired previous : TableSpec} {type : TableType}
    (hd : desired.Valid) (hp : previous.Valid) (htype : desired.type = .supported type)
    (hlength : desired.columns.length = previous.columns.length) :
    ∃ changes texts,
      Plan.columns desired previous = .ok (changes.map (.alterColumns type.kind desired.name)) ∧
      Plan.texts (changes.map (Statement.alterColumns type.kind desired.name)) = .ok texts ∧
      List.Forall₂ (WrittenAs type.kind.keyword desired.name.quoted) changes texts ∧
      ((∃ final, run previous.columns changes = .ok final) ↔
        ¬∃ i, Blocked desired.columns previous.columns i) ∧
      (∀ final, run previous.columns changes = .ok final →
        final = List.zipWith (fun new old => { new with type := old.type })
          desired.columns previous.columns) ∧
      (∀ halt, run previous.columns changes = .error halt →
        ∃ i new old, Blocked desired.columns previous.columns i ∧
          (∀ k < i, ¬Blocked desired.columns previous.columns k) ∧
          desired.columns[i]? = some new ∧ previous.columns[i]? = some old ∧
          halt = ⟨.rename old.name new.name,
            (List.zipWith (fun new old => { new with type := old.type })
              desired.columns previous.columns).take i ++ previous.columns.drop i⟩) := by
  have hbetween : between desired.columns previous.columns =
      positional desired.columns previous.columns := if_pos hlength
  obtain ⟨texts, htexts, hwritten⟩ :=
    exists_texts type.kind desired.name (positional desired.columns previous.columns)
  refine ⟨positional desired.columns previous.columns, texts, ?_, htexts, hwritten, ?_⟩
  · rw [columns_of_supported _ htype, columnsFor, hbetween]
  by_cases hblocked : ∃ i, Blocked desired.columns previous.columns i
  · obtain ⟨i, hfirst, hleast⟩ := exists_first_blocked hblocked
    obtain ⟨new, hnew⟩ := exists_desired_of_blocked hfirst
    obtain ⟨hi, -⟩ := List.getElem?_eq_some_iff.mp hnew
    have hold : previous.columns[i]? = some previous.columns[i] := List.getElem?_eq_getElem _
    have hrun := run_positional_of_blocked hlength hd.columns_nodup hp.columns_nodup hleast hfirst
      hnew hold
    refine ⟨⟨?_, fun h => absurd hblocked h⟩, ?_, ?_⟩
    · rintro ⟨final, hfinal⟩
      rw [hrun] at hfinal
      cases hfinal
    · intro final hfinal
      rw [hrun] at hfinal
      cases hfinal
    · intro halt hhalt
      rw [hrun] at hhalt
      cases hhalt
      exact ⟨i, new, _, hfirst, hleast, hnew, hold, rfl⟩
  · have hrun := run_positional_of_unblocked hlength hd.columns_nodup hp.columns_nodup
      (not_exists.mp hblocked)
    refine ⟨⟨fun _ => hblocked, fun _ => ⟨_, hrun⟩⟩, ?_, ?_⟩
    · intro final hfinal
      rw [hrun] at hfinal
      cases hfinal
      rfl
    · intro halt hhalt
      rw [hrun] at hhalt
      cases hhalt

/-- The names of two columns are exchanged behind one that gets a new name, a comment and a
constraint: the plan does not complete. -/
theorem run_columns_of_exchanged :
    let desired : TableSpec := .ofColumns
      [⟨"k", "int", "key", false⟩, ⟨"c", "int", "", true⟩, ⟨"b", "int", "", true⟩]
    let previous : TableSpec := .ofColumns
      [⟨"a", "int", "", true⟩, ⟨"b", "int", "", true⟩, ⟨"c", "int", "", true⟩]
    ∃ changes,
      Plan.columns desired previous = .ok (changes.map (.alterColumns .table desired.name)) ∧
      Plan.texts (changes.map (Statement.alterColumns .table desired.name)) =
        .ok ["ALTER TABLE `main`.`sales`.`orders` RENAME COLUMN `a` TO `k`",
          "ALTER TABLE `main`.`sales`.`orders` ALTER COLUMN `k` COMMENT 'key'",
          "ALTER TABLE `main`.`sales`.`orders` ALTER COLUMN `k` SET NOT NULL",
          "ALTER TABLE `main`.`sales`.`orders` RENAME COLUMN `b` TO `c`",
          "ALTER TABLE `main`.`sales`.`orders` RENAME COLUMN `c` TO `b`"] ∧
      ∀ final, run previous.columns changes ≠ .ok final := by
  intro desired previous
  have hd : desired.Valid := TableSpec.ofColumns_valid (by decide)
  have hp : previous.Valid := TableSpec.ofColumns_valid (by decide)
  have htype : desired.type = .supported .managed := rfl
  obtain ⟨changes, -, hplan, -, -, hcompletes, -, -⟩ := run_columns_of_length_eq hd hp htype rfl
  have hblocked : Blocked desired.columns previous.columns 1 := ⟨2, "c", by decide, rfl, rfl⟩
  refine ⟨changes, hplan, ?_, fun final hrun => hcompletes.mp ⟨final, hrun⟩ ⟨1, hblocked⟩⟩
  refine (congrArg Plan.texts (columnsFor_eq_of_columns previous htype hplan)).symm.trans ?_
  decide +kernel

/-- The first column has its new name and its other attributes when the second cannot be renamed. -/
example :
    run [⟨"a", "int", "", true⟩, ⟨"b", "int", "", true⟩, ⟨"c", "int", "", true⟩]
        (between [⟨"k", "int", "key", false⟩, ⟨"c", "int", "", true⟩, ⟨"b", "int", "", true⟩]
          [⟨"a", "int", "", true⟩, ⟨"b", "int", "", true⟩, ⟨"c", "int", "", true⟩]) =
      .error ⟨.rename "b" "c",
        [⟨"k", "int", "key", false⟩, ⟨"b", "int", "", true⟩, ⟨"c", "int", "", true⟩]⟩ := by
  decide

end Plan

end TableReconciler
