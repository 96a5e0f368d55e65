import Mathlib.Data.List.DropRight
import Mathlib.Data.List.TakeWhile
import TableReconciler.Text.Blank

/-!
# Trimming

What trimming takes from a text is white space at its ends (`exists_trim`), and it takes all of it:
a text that begins or ends with white space is the same as one without (`trim_append_of_blank`,
`trim_append_blank`).  A text stays as it is exactly when it has white space at neither end
(`trim_eq_self_iff`).
-/

namespace TableReconciler.Text

variable {cs : List Char}

/-! ## What remains -/

/-- Without the white space around it a text does not begin with white space. -/
theorem isBlank_of_trim_eq_cons {rest : List Char} {c : Char} (h : trim cs = c :: rest) :
    isBlank c = false := by
  have hprefix : c :: rest <+: cs.dropWhile isBlank := h ▸ List.rdropWhile_prefix isBlank _
  obtain ⟨later, hlater⟩ := hprefix
  have hhead := List.head?_dropWhile_not isBlank cs
  rw [← hlater] at hhead
  exact hhead

/-- Nothing remains of a text without the white space around it when it is white space. -/
theorem trim_eq_nil_iff : trim cs = [] ↔ ∀ c ∈ cs, isBlank c = true := by
  constructor
  · intro h
    by_contra hcs
    have hdropped : cs.dropWhile isBlank ≠ [] := fun hnil => hcs (List.dropWhile_eq_nil_iff.mp hnil)
    have hall : ∀ c ∈ cs.dropWhile isBlank, isBlank c = true := List.rdropWhile_eq_nil_iff.mp h
    have hhead := hall _ (List.head_mem hdropped)
    rw [List.head_dropWhile_not isBlank hdropped] at hhead
    cases hhead
  · intro h
    unfold trim trimWhile
    rw [List.dropWhile_eq_nil_iff.mpr h]
    rfl

/-- Something remains of a text when a character of it is no white space. -/
theorem trim_ne_nil_iff : trim cs ≠ [] ↔ ∃ c ∈ cs, isBlank c = false := by
  rw [ne_eq, trim_eq_nil_iff]
  push Not
  simp only [Bool.not_eq_true]

/-- A text is what remains of it, with white space around that. -/
theorem exists_trim (cs : List Char) :
    ∃ front back, cs = front ++ trim cs ++ back ∧ (∀ c ∈ front, isBlank c = true) ∧
      ∀ c ∈ back, isBlank c = true := by
  refine ⟨cs.takeWhile isBlank, (cs.dropWhile isBlank).rtakeWhile isBlank, ?_, fun c hc => ?_,
    fun c hc => ?_⟩
  · have hback : trim cs ++ (cs.dropWhile isBlank).rtakeWhile isBlank = cs.dropWhile isBlank :=
      List.rdropWhile_append_rtakeWhile
    rw [List.append_assoc, hback, List.takeWhile_append_dropWhile]
  · exact List.mem_takeWhile_imp hc
  · exact List.mem_rtakeWhile_imp hc

/-- What remains of a text is part of it. -/
theorem mem_of_mem_trim {c : Char} (h : c ∈ trim cs) : c ∈ cs := by
  obtain ⟨front, back, hcs, -, -⟩ := exists_trim cs
  rw [hcs]
  exact List.mem_append_left _ (List.mem_append_right _ h)

/-! ## White space at the ends -/

/-- White space in front of a text is dropped. -/
theorem trim_append_of_blank {front : List Char} (h : ∀ c ∈ front, isBlank c = true)
    (cs : List Char) : trim (front ++ cs) = trim cs := by
  unfold trim trimWhile
  rw [List.dropWhile_append_of_pos h]

/-- White space behind a text is dropped. -/
theorem trim_append_blank {back : List Char} (h : ∀ c ∈ back, isBlank c = true)
    (cs : List Char) : trim (cs ++ back) = trim cs := by
  have hback : ∀ text, dropEndWhile isBlank (text ++ back) = dropEndWhile isBlank text := by
    intro text
    unfold dropEndWhile
    rw [List.reverse_append, List.dropWhile_append_of_pos fun c hc => h c (List.mem_reverse.mp hc)]
  unfold trim trimWhile
  rw [List.dropWhile_append]
  split
  next hnone =>
    rw [List.isEmpty_iff.mp hnone, List.dropWhile_eq_nil_iff.mpr h]
  next => exact hback _

/-- What remains of a text is not trimmed any further. -/
theorem trim_trim (cs : List Char) : trim (trim cs) = trim cs := by
  obtain ⟨front, back, hcs, hfront, hback⟩ := exists_trim cs
  conv_rhs => rw [hcs, List.append_assoc, trim_append_of_blank hfront, trim_append_blank hback]

/-- A text stays as it is exactly when it has white space at neither end. -/
theorem trim_eq_self_iff :
    trim cs = cs ↔ (∀ c ∈ cs.head?, isBlank c = false) ∧ ∀ c ∈ cs.getLast?, isBlank c = false := by
  constructor
  · intro h
    refine ⟨fun c hc => ?_, fun c hc => ?_⟩
    · obtain ⟨rest, hrest⟩ := List.head?_eq_some_iff.mp hc
      exact isBlank_of_trim_eq_cons (h.trans hrest)
    · obtain ⟨before, hbefore⟩ := List.getLast?_eq_some_iff.mp hc
      by_contra hblank
      rw [Bool.not_eq_false] at hblank
      -- the last character would be dropped, so that less than the text remained
      have hshort : trim cs = trim before := by
        rw [hbefore]
        exact trim_append_blank (List.forall_mem_singleton.mpr hblank) before
      have hlength : (trim before).length ≤ before.length := by
        obtain ⟨front, back, hsplit, -, -⟩ := exists_trim before
        have hsum := congrArg List.length hsplit
        rw [List.length_append, List.length_append] at hsum
        omega
      rw [← hshort, h, hbefore, List.length_append, List.length_singleton] at hlength
      omega
  · rintro ⟨hfirst, hlast⟩
    obtain ⟨front, back, hcs, hfront, hback⟩ := exists_trim cs
    have hnofront : front = [] := by
      cases front with
      | nil => rfl
      | cons c front =>
          have hblank := hfront c List.mem_cons_self
          rw [hfirst c (by rw [hcs]; rfl)] at hblank
          cases hblank
    have hnoback : back = [] := by
      rcases List.eq_nil_or_concat back with hnil | ⟨before, c, hconcat⟩
      · exact hnil
      · have hblank := hback c (by rw [hconcat]; simp)
        rw [hlast c (by rw [hcs, hconcat]; simp)] at hblank
        cases hblank
    rw [hnofront, hnoback, List.nil_append, List.append_nil] at hcs
    exact hcs.symm

end TableReconciler.Text
