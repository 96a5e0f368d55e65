import TableReconciler.Proofs.Text.Trimming
import TableReconciler.Text.Segments

/-!
# Segments and white space

The segments of a text are those between the occurrences of the separator
(`segments_eq_splitOn`).  They are as many as the separators and one more (`length_segments`), none
holds a separator, and a text that is put together from such segments is cut into them again.

Trimming a text first only takes white space from the first and the last segment, so that the
trimmed segments are the same (`map_trim_segments_trim`).
-/

namespace TableReconciler.Text

variable {separator : Char}

/-! ## Cutting -/

/-- The separator ends a segment. -/
theorem segments_cons_self (rest : List Char) :
    segments separator (separator :: rest) = [] :: segments separator rest := by
  simp [segments]

/-- Any other character begins the first segment. -/
theorem segments_cons_of_ne {c : Char} (h : c ≠ separator) {rest first : List Char}
    {others : List (List Char)} (hrest : segments separator rest = first :: others) :
    segments separator (c :: rest) = (c :: first) :: others := by
  rw [segments, if_neg h, hrest]

/-- A text has a first segment. -/
theorem exists_segments_eq_cons (separator : Char) (cs : List Char) :
    ∃ first others, segments separator cs = first :: others := by
  induction cs with
  | nil => exact ⟨[], [], rfl⟩
  | cons c rest ih =>
      by_cases h : c = separator
      · subst h
        exact ⟨[], _, segments_cons_self rest⟩
      · obtain ⟨first, others, hrest⟩ := ih
        exact ⟨c :: first, others, segments_cons_of_ne h hrest⟩

/-- Cutting at a character is splitting a list at an item. -/
theorem segments_eq_splitOn (separator : Char) (cs : List Char) :
    segments separator cs = cs.splitOn separator := by
  induction cs with
  | nil => rfl
  | cons c rest ih =>
      rw [List.splitOn_eq_splitOnP] at ih ⊢
      rw [List.splitOnP_cons_eq_if_modifyHead, ← ih]
      by_cases h : c = separator
      · subst h
        rw [segments_cons_self, beq_self_eq_true, if_pos rfl]
      · obtain ⟨first, others, hrest⟩ := exists_segments_eq_cons separator rest
        rw [segments_cons_of_ne h hrest, hrest, beq_false_of_ne h, if_neg Bool.false_ne_true]
        rfl

/-- There is one segment more than there are separators. -/
theorem length_segments (separator : Char) (cs : List Char) :
    (segments separator cs).length = cs.count separator + 1 := by
  induction cs with
  | nil => rfl
  | cons c rest ih =>
      by_cases h : c = separator
      · subst h
        rw [segments_cons_self, List.length_cons, ih, List.count_cons_self]
      · obtain ⟨first, others, hrest⟩ := exists_segments_eq_cons separator rest
        rw [segments_cons_of_ne h hrest, List.count_cons_of_ne h, ← ih, hrest]
        rfl

/-- A segment holds no separator, and characters of the text only. -/
theorem of_mem_segments {cs segment : List Char} (h : segment ∈ segments separator cs) :
    separator ∉ segment ∧ ∀ c ∈ segment, c ∈ cs := by
  induction cs generalizing segment with
  | nil =>
      rw [List.mem_singleton.mp h]
      exact ⟨List.not_mem_nil, fun c hc => hc⟩
  | cons c rest ih =>
      by_cases hc : c = separator
      · subst hc
        rw [segments_cons_self] at h
        rcases List.mem_cons.mp h with rfl | hlater
        · exact ⟨List.not_mem_nil, fun x hx => absurd hx List.not_mem_nil⟩
        · exact ⟨(ih hlater).1, fun x hx => List.mem_cons_of_mem _ ((ih hlater).2 x hx)⟩
      · obtain ⟨first, others, hrest⟩ := exists_segments_eq_cons separator rest
        rw [segments_cons_of_ne hc hrest] at h
        rcases List.mem_cons.mp h with rfl | hlater
        · have hfirst := ih (hrest ▸ List.mem_cons_self : first ∈ segments separator rest)
          refine ⟨fun hmem => ?_, fun x hx => ?_⟩
          · rcases List.mem_cons.mp hmem with rfl | hmem
            · exact hc rfl
            · exact hfirst.1 hmem
          · exact List.mem_cons.mpr ((List.mem_cons.mp hx).imp_right (hfirst.2 x))
        · have hmem := ih (hrest ▸ List.mem_cons_of_mem _ hlater)
          exact ⟨hmem.1, fun x hx => List.mem_cons_of_mem _ (hmem.2 x hx)⟩

/-! ## Trimming -/

/-- What is put in front of a text without a separator in it becomes part of the first segment. -/
theorem segments_append_of_not_mem {front : List Char} (h : separator ∉ front)
    {cs first : List Char} {others : List (List Char)}
    (hcs : segments separator cs = first :: others) :
    segments separator (front ++ cs) = (front ++ first) :: others := by
  induction front with
  | nil => exact hcs
  | cons c front ih =>
      rw [List.mem_cons, not_or] at h
      exact segments_cons_of_ne (Ne.symm h.1) (ih h.2)

/-- What is put behind a text without a separator in it becomes part of the last segment. -/
theorem exists_segments_append {back : List Char} (h : separator ∉ back) (cs : List Char) :
    ∃ before last, segments separator cs = before ++ [last] ∧
      segments separator (cs ++ back) = before ++ [last ++ back] := by
  induction cs with
  | nil =>
      refine ⟨[], [], rfl, ?_⟩
      have hback := segments_append_of_not_mem h (rfl : segments separator [] = [[]])
      rwa [List.append_nil] at hback
  | cons c rest ih =>
      obtain ⟨before, last, hrest, hback⟩ := ih
      by_cases hc : c = separator
      · subst hc
        refine ⟨[] :: before, last, ?_, ?_⟩
        · rw [segments_cons_self, hrest, List.cons_append]
        · rw [List.cons_append, segments_cons_self, hback, List.cons_append]
      · cases before with
        | nil => exact ⟨[], c :: last, segments_cons_of_ne hc hrest, segments_cons_of_ne hc hback⟩
        | cons first before =>
            exact ⟨(c :: first) :: before, last, segments_cons_of_ne hc hrest,
              segments_cons_of_ne hc hback⟩

/-- Trimming a text before it is cut makes no difference once its segments are trimmed, as long as
the separator is no white space. -/
theorem map_trim_segments_trim (h : isBlank separator = false) (cs : List Char) :
    (segments separator (trim cs)).map trim = (segments separator cs).map trim := by
  obtain ⟨front, back, hcs, hfront, hback⟩ := exists_trim cs
  have hnone : ∀ blanks : List Char, (∀ c ∈ blanks, isBlank c = true) → separator ∉ blanks := by
    intro blanks hblanks hmem
    rw [hblanks separator hmem] at h
    cases h
  obtain ⟨before, last, hshort, hlong⟩ := exists_segments_append (hnone back hback) (trim cs)
  obtain ⟨first, others, hfirst⟩ := exists_segments_eq_cons separator (trim cs ++ back)
  have hwhole : segments separator cs = (front ++ first) :: others := by
    rw [hcs, List.append_assoc]
    exact segments_append_of_not_mem (hnone front hfront) hfirst
  calc (segments separator (trim cs)).map trim
      = before.map trim ++ [trim last] := by rw [hshort, List.map_append]; rfl
    _ = before.map trim ++ [trim (last ++ back)] := by rw [trim_append_blank hback]
    _ = (segments separator (trim cs ++ back)).map trim := by rw [hlong, List.map_append]; rfl
    _ = trim first :: others.map trim := by rw [hfirst]; rfl
    _ = trim (front ++ first) :: others.map trim := by rw [trim_append_of_blank hfront]
    _ = (segments separator cs).map trim := by rw [hwhole]; rfl

end TableReconciler.Text
