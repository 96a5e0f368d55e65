import TableReconciler.Comment

/-!
# One level of escaping

Escaping a text first brings it to its plain form, then puts a backslash before each quote.  In
what comes out, a backslash in front of a quote is always one that was put there, whatever
backslashes the text had itself.  So un-escaping takes exactly those away again
(`unescapeChars_guardQuotes`), and the written form of a text is determined by its plain form, and
determines it.

Un-escaping alone has no such law: two backslashes in front of a quote leave one, and a second pass
takes that one too.  The main statement is `escape_carries_one_level`.
-/

namespace TableReconciler.Comment

/-! ## Guarded quotes -/

/-- A quote gets a backslash, and any other character stays as it is. -/
theorem guardQuotes_cons (c : Char) (rest : List Char) :
    guardQuotes (c :: rest) =
      if c = '\'' then '\\' :: '\'' :: guardQuotes rest else c :: guardQuotes rest := by
  by_cases h : c = '\'' <;> simp [guardQuotes, h]

/-- A text whose quotes are guarded does not begin with a quote. -/
theorem head?_guardQuotes_ne (cs : List Char) : (guardQuotes cs).head? ≠ some '\'' := by
  cases cs with
  | nil => simp [guardQuotes]
  | cons c rest =>
      rw [guardQuotes_cons]
      by_cases h : c = '\''
      · simp [h]
      · simp [h]

/-- In a text whose quotes are guarded each quote stands right behind a backslash. -/
theorem getLast?_of_guardQuotes_eq {cs before after : List Char}
    (h : guardQuotes cs = before ++ '\'' :: after) : before.getLast? = some '\\' := by
  induction cs generalizing before with
  | nil => simp [guardQuotes] at h
  | cons c rest ih =>
      cases before with
      | nil =>
          have hhead := head?_guardQuotes_ne (c :: rest)
          rw [h] at hhead
          exact absurd rfl hhead
      | cons first before =>
          rw [guardQuotes_cons] at h
          split at h
          next =>
            obtain ⟨rfl, hguarded⟩ := List.cons.inj h
            cases before with
            | nil => rfl
            | cons second before =>
                -- the quote that was guarded here is not the one that is asked about
                have hlater := ih (List.cons.inj hguarded).2
                rw [List.getLast?_cons, List.getLast?_cons, hlater]
                rfl
          next =>
            have hlater := ih (List.cons.inj h).2
            rw [List.getLast?_cons, hlater]
            rfl

/-! ## Un-escaping -/

/-- A character that is no backslash in front of a quote stays as it is. -/
theorem unescapeChars_cons {c : Char} {rest : List Char}
    (h : c = '\\' → rest.head? ≠ some '\'') :
    unescapeChars (c :: rest) = c :: unescapeChars rest := by
  cases rest with
  | nil => simp [unescapeChars]
  | cons next rest =>
      by_cases hslash : c = '\\'
      · have hnext : next ≠ '\'' := fun hquote => h hslash (by rw [hquote]; rfl)
        simp [unescapeChars, hnext]
      · simp [unescapeChars, hslash]

/-- Un-escaping takes away the backslashes that guard quotes, and no others. -/
theorem unescapeChars_guardQuotes (cs : List Char) : unescapeChars (guardQuotes cs) = cs := by
  induction cs with
  | nil => rfl
  | cons c rest ih =>
      rw [guardQuotes_cons]
      split
      next hquote =>
        have htaken : unescapeChars ('\\' :: '\'' :: guardQuotes rest) =
            '\'' :: unescapeChars (guardQuotes rest) := rfl
        rw [htaken, ih, hquote]
      next => rw [unescapeChars_cons fun _ => head?_guardQuotes_ne rest, ih]

/-! ## Texts -/

/-- The written form of a text has the plain form of the text. -/
theorem unescape_escape (text : String) : unescape (escape text) = unescape text := by
  unfold unescape escape escapeChars
  rw [String.toList_ofList, unescapeChars_guardQuotes]

/-- The written form is made from the plain form alone. -/
theorem escape_eq_of_unescape_eq {s t : String} (h : unescape s = unescape t) :
    escape s = escape t := by
  have hchars : unescapeChars s.toList = unescapeChars t.toList := String.ofList_injective h
  unfold escape escapeChars
  rw [hchars]

/-- **Escaping carries exactly one level.**

* The written form of a text has the plain form of the text.
* The written form of the written form is the written form.
* In the written form each quote stands right behind a backslash.
* Two texts have the same written form if and only if they have the same plain form. -/
theorem escape_carries_one_level :
    (∀ text, unescape (escape text) = unescape text) ∧
    (∀ text, escape (escape text) = escape text) ∧
    (∀ text before after, (escape text).toList = before ++ '\'' :: after →
      before.getLast? = some '\\') ∧
    ∀ s t, escape s = escape t ↔ unescape s = unescape t := by
  refine ⟨unescape_escape, fun text => ?_, fun text before after h => ?_, fun s t => ⟨fun h => ?_,
    escape_eq_of_unescape_eq⟩⟩
  · exact escape_eq_of_unescape_eq (unescape_escape text)
  · unfold escape escapeChars at h
    rw [String.toList_ofList] at h
    exact getLast?_of_guardQuotes_eq h
  · rw [← unescape_escape s, h, unescape_escape]

/-- A bare quote, one that is escaped already, and one behind two backslashes.  Un-escaping twice
takes a backslash more than un-escaping once, and yet the written form keeps its level. -/
theorem escape_of_mixed_quotes :
    let text := "it's the \\'raw\\\\' data"
    let written := "it\\'s the \\'raw\\\\' data"
    unescape (unescape text) ≠ unescape text ∧
      escape text = written ∧ escape written = written ∧ unescape written = unescape text ∧
      (∀ before after, written.toList = before ++ '\'' :: after → before.getLast? = some '\\') ∧
      escape "it\\'s the 'raw\\\\' data" = written := by
  intro text written
  obtain ⟨hplain, hagain, hquotes, hsame⟩ := escape_carries_one_level
  have hwritten : escape text = written := by decide +kernel
  refine ⟨by decide +kernel, hwritten, ?_, ?_, fun before after h => ?_, ?_⟩
  · rw [← hwritten, hagain]
  · rw [← hwritten, hplain]
  · exact hquotes text before after (hwritten ▸ h)
  · exact ((hsame _ text).mpr (by decide +kernel)).trans hwritten

end TableReconciler.Comment
