import Mathlib.Data.List.Basic
import TableReconciler.Text.Case

/-!
# What is in lower case stays so

How a text is put in lower case depends on context, since a capital sigma looks at the letters
around it.  Whether a text is in lower case does not.

* Each character that lower casing puts down is in lower case by itself
  (`isLowered_of_mem_lowerAfter`), and characters of that kind stay as they are between any others
  (`lowerAfter_eq_self`).
* So a text is in lower case exactly when its characters are (`lower_eq_self_iff`), and lower casing
  is done after one pass (`lower_lower`).

Behind the first point is a fact about the table of letters: no code point that a run leads to is
changed again (`testBit_changedBits_of_mem_images`).  The table has some 1400 letters, so the two
sets are compared as the bits of two numbers instead of letter by letter.
-/

namespace TableReconciler.Text

namespace Case

variable {runs : List Run} {run : Run} {code : Nat}

/-! ## Where runs lead -/

/-- The code points of a run. -/
def Run.codes (run : Run) : List Nat :=
  List.range' run.first ((run.last - run.first) / run.step + 1) run.step

/-- The code points that a run leads to. -/
def Run.images (run : Run) : List Nat :=
  run.codes.map fun (code : Nat) => (code + run.shift).toNat

/-- What a run contains is one of its code points. -/
theorem Run.mem_codes_of_contains (h : run.contains code = true) : code ∈ run.codes := by
  simp only [Run.contains, Bool.and_eq_true, decide_eq_true_eq, beq_iff_eq] at h
  obtain ⟨⟨hfirst, hlast⟩, hstep⟩ := h
  have hdvd : run.step ∣ code - run.first := Nat.dvd_of_mod_eq_zero hstep
  apply List.mem_range'.mpr
  refine ⟨(code - run.first) / run.step, ?_, ?_⟩
  · apply Nat.lt_succ_of_le
    apply Nat.div_le_div_right
    omega
  · rw [Nat.mul_div_cancel' hdvd]
    omega

/-- A code point stays as it is, unless a run leads elsewhere from it. -/
theorem mapCode_eq_self_or_mem_images (runs : List Run) (code : Nat) :
    mapCode runs code = code ∨ ∃ run ∈ runs, mapCode runs code ∈ run.images := by
  unfold mapCode
  cases hfound : runs.find? (·.contains code) with
  | none => exact .inl rfl
  | some run =>
      right
      have hcontains : run.contains code = true := by simpa using List.find?_some hfound
      refine ⟨run, List.mem_of_find?_eq_some hfound, ?_⟩
      exact List.mem_map_of_mem (Run.mem_codes_of_contains hcontains)

/-- A code point in no run stays as it is. -/
theorem mapCode_eq_self (h : ∀ run ∈ runs, code ∉ run.codes) : mapCode runs code = code := by
  unfold mapCode
  have hnone : runs.find? (·.contains code) = none := by
    apply List.find?_eq_none.mpr
    intro run hrun hcontains
    exact h run hrun (Run.mem_codes_of_contains hcontains)
  rw [hnone]

/-! ## Sets of code points as bits -/

/-- The number whose bits are those of the given numbers. -/
def union : List Nat → Nat
  | [] => 0
  | set :: sets => set ||| union sets

/-- The number whose bits are set at the members of a list. -/
def bits (codes : List Nat) : Nat :=
  union (codes.map (1 <<< ·))

theorem testBit_union {sets : List Nat} :
    (union sets).testBit code = true ↔ ∃ set ∈ sets, set.testBit code = true := by
  induction sets with
  | nil => simp [union]
  | cons set sets ih => rw [union, Nat.testBit_or, Bool.or_eq_true, ih, List.exists_mem_cons_iff]

theorem testBit_bits {codes : List Nat} : (bits codes).testBit code = true ↔ code ∈ codes := by
  have hpoint : ∀ point, (1 <<< point).testBit code = true ↔ point = code := by
    intro point
    rw [Nat.testBit_shiftLeft, Bool.and_eq_true, decide_eq_true_eq,
      Nat.testBit_one_eq_true_iff_self_eq_zero]
    omega
  rw [bits, testBit_union]
  simp only [List.mem_map, exists_exists_and_eq_and, hpoint, exists_eq_right]

/-- Numbers without a common bit have no set bit at the same place. -/
theorem testBit_of_disjoint {set other : Nat} (h : set &&& other = 0)
    (hset : set.testBit code = true) : other.testBit code = false := by
  have hboth : (set &&& other).testBit code = false := by
    rw [h]
    exact Nat.zero_testBit code
  rw [Nat.testBit_and, hset, Bool.true_and] at hboth
  exact hboth

/-! ## The table of letters -/

/-- The code points that lower casing changes, as bits: those with a lower case form in the table,
and the two capitals whose form is not a matter of the table. -/
def changedBits : Nat :=
  bits (['İ', 'Σ'].map Char.toNat) ||| union (lowerRuns.map fun run => bits run.codes)

/-- The code points that the table leads to, as bits. -/
def imageBits : Nat :=
  union (lowerRuns.map fun run => bits run.images)

/-- The table leads to characters only. -/
theorem isValidChar_of_mem_images (hrun : run ∈ lowerRuns) (h : code ∈ run.images) :
    code.isValidChar := by
  -- run by run, since one list of all code points is too long to walk through in one go
  have hall : ∀ run ∈ lowerRuns, ∀ code ∈ run.images, code.isValidChar := by decide +kernel
  exact hall run hrun code h

/-- Where the table leads to is not changed again. -/
theorem testBit_changedBits_of_mem_images (hrun : run ∈ lowerRuns) (h : code ∈ run.images) :
    changedBits.testBit code = false := by
  have hdisjoint : imageBits &&& changedBits = 0 := by decide +kernel
  apply testBit_of_disjoint hdisjoint
  apply testBit_union.mpr
  exact ⟨bits run.images, List.mem_map.mpr ⟨run, hrun, rfl⟩, testBit_bits.mpr h⟩

end Case

open Case

variable {c d : Char} {before cs : List Char}

/-! ## Characters -/

/-- A character is in lower case when it stays as it is in every text. -/
def IsLowered (c : Char) : Prop :=
  c ≠ 'Σ' ∧ lowerChar c = [c]

/-- A character that lower casing has nothing to do with is in lower case. -/
theorem isLowered_of_testBit (h : changedBits.testBit c.toNat = false) : IsLowered c := by
  rw [changedBits, Nat.testBit_or, Bool.or_eq_false_iff] at h
  obtain ⟨hcapitals, hruns⟩ := h
  have hcapital : ∀ capital ∈ ['İ', 'Σ'], c ≠ capital := by
    intro capital hmem heq
    rw [testBit_bits.mpr (List.mem_map_of_mem (heq ▸ hmem))] at hcapitals
    cases hcapitals
  have hcode : ∀ run ∈ lowerRuns, c.toNat ∉ run.codes := by
    intro run hrun hmem
    have hset : (union (lowerRuns.map fun run => bits run.codes)).testBit c.toNat = true :=
      testBit_union.mpr ⟨bits run.codes, List.mem_map.mpr ⟨run, hrun, rfl⟩, testBit_bits.mpr hmem⟩
    rw [hset] at hruns
    cases hruns
  refine ⟨hcapital 'Σ' (by simp), ?_⟩
  rw [lowerChar, if_neg (hcapital 'İ' (by simp)), mapCode_eq_self hcode, Char.ofNat_toNat]

/-- What the table puts in the place of a character is in lower case. -/
theorem isLowered_of_mem_images {run : Run} {code : Nat} (hrun : run ∈ lowerRuns)
    (h : code ∈ run.images) : IsLowered (Char.ofNat code) := by
  have htoNat : (Char.ofNat code).toNat = code := by
    rw [Char.ofNat, dif_pos (isValidChar_of_mem_images hrun h)]
    rfl
  apply isLowered_of_testBit
  rw [htoNat]
  exact testBit_changedBits_of_mem_images hrun h

/-- What a character is put in lower case to is in lower case.  The capital sigma is no case of
this: its two forms are told from the context. -/
theorem isLowered_of_mem_lowerChar (hc : c ≠ 'Σ') (hd : d ∈ lowerChar c) : IsLowered d := by
  unfold lowerChar at hd
  by_cases hdotted : c = 'İ'
  · rw [if_pos hdotted, List.mem_pair] at hd
    rcases hd with rfl | rfl
    · exact ⟨by decide, by decide +kernel⟩
    · exact ⟨by decide, by decide +kernel⟩
  rw [if_neg hdotted, List.mem_singleton] at hd
  subst hd
  rcases mapCode_eq_self_or_mem_images lowerRuns c.toNat with hself | ⟨run, hrun, himage⟩
  · rw [hself, Char.ofNat_toNat]
    refine ⟨hc, ?_⟩
    rw [lowerChar, if_neg hdotted, hself, Char.ofNat_toNat]
  · exact isLowered_of_mem_images hrun himage

/-! ## Texts -/

/-- Characters in lower case stay as they are, whatever stands before them. -/
theorem lowerAfter_eq_self (h : ∀ c ∈ cs, IsLowered c) : lowerAfter before cs = cs := by
  induction cs generalizing before with
  | nil => rfl
  | cons c rest ih =>
      obtain ⟨hsigma, hlower⟩ := h c List.mem_cons_self
      have hrest : lowerAfter (c :: before) rest = rest :=
        ih fun d hd => h d (List.mem_cons_of_mem c hd)
      rw [lowerAfter, if_neg hsigma, hlower, hrest]
      rfl

/-- All that lower casing puts down is in lower case, either form of the sigma included. -/
theorem isLowered_of_mem_lowerAfter (hd : d ∈ lowerAfter before cs) : IsLowered d := by
  induction cs generalizing before with
  | nil => cases hd
  | cons c rest ih =>
      rw [lowerAfter, List.mem_append] at hd
      rcases hd with hd | hd
      · by_cases hsigma : c = 'Σ'
        · rw [if_pos hsigma] at hd
          split at hd
          · rw [List.mem_singleton.mp hd]
            exact ⟨by decide, by decide +kernel⟩
          · rw [List.mem_singleton.mp hd]
            exact ⟨by decide, by decide +kernel⟩
        · rw [if_neg hsigma] at hd
          exact isLowered_of_mem_lowerChar hsigma hd
      · exact ih hd

theorem isLowered_of_mem_lower {text : String} (hc : c ∈ (lower text).toList) : IsLowered c := by
  rw [lower, String.toList_ofList] at hc
  exact isLowered_of_mem_lowerAfter hc

/-- A text is in lower case exactly when each of its characters is. -/
theorem lower_eq_self_iff {text : String} : lower text = text ↔ ∀ c ∈ text.toList, IsLowered c := by
  constructor
  · intro h c hc
    rw [← h] at hc
    exact isLowered_of_mem_lower hc
  · intro h
    rw [lower, lowerChars, lowerAfter_eq_self h, String.ofList_toList]

/-- What is in lower case is not changed by putting it in lower case once more. -/
theorem lower_lower (text : String) : lower (lower text) = lower text := by
  apply lower_eq_self_iff.mpr
  intro c hc
  exact isLowered_of_mem_lower hc

/-- A sigma is final at the end of a word, and not before a colon with a letter behind it.  Once it
is small it keeps its form. -/
example : lower "ΑΣ ΑΣ:İ" = "ας ασ:i\u0307" ∧ lower "ας ασ:i\u0307" = "ας ασ:i\u0307" := by
  decide +kernel

end TableReconciler.Text
