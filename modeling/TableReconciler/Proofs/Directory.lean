import TableReconciler.Directory
import TableReconciler.Proofs.Text.Segments

/-!
# Clean paths

A path is cleaned before it is read.  Its clean form has the same segments and the same start
(`segments_clean`, `isAbsolute_clean`), so that cleaning it once more changes nothing
(`clean_clean`) and it leads to the same place (`Directory.read_clean`).
-/

namespace TableReconciler

namespace Path

variable {path : String}

/-- A segment is not empty, does not stay in place, and holds no slash. -/
theorem of_mem_segments {segment : List Char} (h : segment ∈ segments path) :
    segment ≠ [] ∧ segment ≠ ['.'] ∧ '/' ∉ segment := by
  obtain ⟨hmem, hkept⟩ := List.mem_filter.mp h
  have hslash := (Text.of_mem_segments hmem).1
  simp only [Bool.and_eq_true, Bool.not_eq_true', List.isEmpty_eq_false_iff, decide_eq_true_eq]
    at hkept
  exact ⟨hkept.1, hkept.2, hslash⟩

/-- The segments with slashes between them. -/
def joined (path : String) : List Char :=
  ['/'].intercalate (segments path)

/-- The joined segments are the segments again. -/
theorem filter_segments_joined (path : String) :
    (Text.segments '/' (joined path)).filter
        (fun segment => !segment.isEmpty && segment ≠ ['.']) = segments path := by
  by_cases hnone : segments path = []
  · rw [joined, hnone]
    rfl
  · have hsplit : Text.segments '/' (joined path) = segments path := by
      rw [Text.segments_eq_splitOn]
      exact List.splitOn_intercalate '/' (fun segment h => (of_mem_segments h).2.2) hnone
    rw [hsplit]
    refine List.filter_eq_self.mpr fun segment h => ?_
    simp [(of_mem_segments h).1, (of_mem_segments h).2.1]

/-- The joined segments do not start with a slash. -/
theorem head?_joined_ne (path : String) : (joined path).head? ≠ some '/' := by
  unfold joined
  have hmem : ∀ segment ∈ segments path, segment ≠ [] ∧ '/' ∉ segment := fun segment h =>
    ⟨(of_mem_segments h).1, (of_mem_segments h).2.2⟩
  revert hmem
  match segments path with
  | [] => exact fun _ => nofun
  | [] :: _ => exact fun hmem => absurd rfl (hmem [] List.mem_cons_self).1
  | (c :: segment) :: rest =>
      intro hmem hhead
      have hc : c ≠ '/' := fun h => (hmem _ List.mem_cons_self).2 (h ▸ List.mem_cons_self)
      cases rest with
      | nil => exact hc (by simpa using hhead)
      | cons _ _ => exact hc (by simpa using hhead)

/-- What a clean path consists of. -/
theorem toList_clean (path : String) :
    (clean path).toList =
      if isAbsolute path then '/' :: joined path
      else if joined path = [] then ['.'] else joined path := by
  have hjoined : ("/".intercalate ((segments path).map String.ofList)).toList = joined path := by
    rw [String.toList_intercalate, List.map_map]
    simp [joined, Function.comp_def]
  unfold clean
  simp only [String.isEmpty_iff, ← String.toList_eq_nil_iff, hjoined]
  split
  · rw [String.toList_append, hjoined]
    rfl
  · split
    · rfl
    · exact hjoined

/-- The clean form of a path has its segments. -/
theorem segments_clean (path : String) : segments (clean path) = segments path := by
  have hfilter := filter_segments_joined path
  rw [segments, toList_clean]
  split
  · rw [Text.segments_cons_self]
    exact hfilter
  · split
    next hnone =>
      rw [hnone] at hfilter
      exact hfilter
    next => exact hfilter

/-- The clean form of a path starts where the path starts. -/
theorem isAbsolute_clean (path : String) : isAbsolute (clean path) = isAbsolute path := by
  have hhead := head?_joined_ne path
  rw [isAbsolute, toList_clean]
  split
  next habsolute => rw [habsolute]; rfl
  next hrelative =>
    rw [Bool.eq_false_iff.mpr hrelative]
    split
    · rfl
    · simpa using hhead

/-- Cleaning a path twice is cleaning it once. -/
theorem clean_clean (path : String) : clean (clean path) = clean path := by
  have hclean : ∀ a b, segments a = segments b → isAbsolute a = isAbsolute b →
      clean a = clean b := by
    intro a b hsegments habsolute
    unfold clean
    rw [hsegments, habsolute]
  exact hclean _ _ (segments_clean path) (isAbsolute_clean path)

end Path

/-- A path leads where its clean form leads, as long as neither is too long. -/
theorem Directory.read_clean (d : Directory) {path : String}
    (h : path.utf8ByteSize ≤ Path.maxBytes)
    (hclean : (Path.clean path).utf8ByteSize ≤ Path.maxBytes) :
    d.read (Path.clean path) = d.read path := by
  unfold read
  rw [Path.segments_clean, Path.isAbsolute_clean, if_neg (Nat.not_lt.mpr h),
    if_neg (Nat.not_lt.mpr hclean)]

end TableReconciler
