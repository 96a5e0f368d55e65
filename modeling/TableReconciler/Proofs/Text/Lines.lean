import TableReconciler.Proofs.Text.Trimming
import TableReconciler.Text.Lines

/-!
# Lines and white space

Every character that ends a line is white space (`isBlank_of_isLineBreak`).  Without the white space
around it, a text therefore does not begin with the end of a line: it has a first line that is not
empty, unless it is blank (`headline_eq_empty_iff`).
-/

namespace TableReconciler.Text

/-! ## Texts on one line -/

/-- A text is on one line when none of its characters ends a line. -/
def OneLine (text : String) : Prop :=
  ∀ c ∈ text.toList, isLineBreak c = false

-- by name: since there are finitely many characters, another instance would try them all
instance (text : String) : Decidable (OneLine text) :=
  List.decidableBAll (fun c => isLineBreak c = false) text.toList

/-- Texts one after the other are on one line when both are. -/
theorem oneLine_append {first second : String} :
    OneLine (first ++ second) ↔ OneLine first ∧ OneLine second := by
  unfold OneLine
  rw [String.toList_append, List.forall_mem_append]

/-- Every character that ends a line is white space. -/
theorem isBlank_of_isLineBreak {c : Char} (h : isLineBreak c = true) : isBlank c = true := by
  unfold isLineBreak at h
  unfold isBlank
  rw [CharClass.contains_iff] at h ⊢
  obtain ⟨range, hrange, hlow, hhigh⟩ := h
  simp only [lineBreaks, List.mem_cons, List.not_mem_nil, or_false] at hrange
  rcases hrange with rfl | rfl | rfl | rfl
  · exact ⟨(0x09, 0x0D), by decide, by omega, by omega⟩
  · exact ⟨(0x1C, 0x20), by decide, by omega, by omega⟩
  · exact ⟨(0x85, 0x85), by decide, by omega, by omega⟩
  · exact ⟨(0x2028, 0x2029), by decide, by omega, by omega⟩

/-- The first line of a message is on one line. -/
theorem oneLine_headline (message : String) : OneLine (headline message) := by
  intro c hc
  unfold headline at hc
  rw [String.toList_ofList] at hc
  simpa using List.mem_takeWhile_imp hc

/-- The first line of a message is empty when the message is blank, and only then: no character
that ends a line is left at the beginning. -/
theorem headline_eq_empty_iff {message : String} :
    headline message = "" ↔ ∀ c ∈ message.toList, isBlank c = true := by
  rw [← trim_eq_nil_iff]
  unfold headline
  rcases htrim : trim message.toList with _ | ⟨c, rest⟩
  · exact iff_of_true rfl rfl
  · have hblank : isBlank c = false := isBlank_of_trim_eq_cons htrim
    have hbreak : isLineBreak c = false := by
      by_contra h
      rw [isBlank_of_isLineBreak (Bool.not_eq_false _ ▸ h)] at hblank
      cases hblank
    rw [List.takeWhile_cons_of_pos (by rw [hbreak]; rfl)]
    refine iff_of_false (fun h => ?_) (List.cons_ne_nil c rest)
    exact List.cons_ne_nil _ _ (String.ofList_injective (h.trans String.ofList_nil.symm))

end TableReconciler.Text
