import QueryDesk.Proofs.Completion.Occurrence
import QueryDesk.Proofs.Completion.Placement
import QueryDesk.Proofs.Text.Blank

/-!
# What leads up to a word

What a word being typed stands for is decided by the text that leads up to it on its
line: a point with a word before it makes that word its qualifier, blanks with a word
before them make that word its keyword.  The qualifier is looked for in the token at
the cursor, which begins at the nearest blank and takes in the word being typed, and
the keyword in the line before the stretch of that word.  Both ways see the same: a
word has no blanks in it, so that taking the word off the token leaves the end of what
leads up to it (`qualifierOf_suffixWhile`).

## Main results

* `qualifierOf_eq_some`, `keywordEnding_eq_some` — what the two readers find.
* `qualified_iff` — the pattern of a qualified word and the reader of a qualifier.
* `qualifier_eq`, `keywordBefore_eq` — both are read off what leads up to the word.
* `contextAt_ledBy` — the qualifier and the keyword at every cursor.
-/

namespace QueryDesk.Completion

open Text

/-! ## Words at the end of a text -/

/-- A text ends with a word, which is as long as it can be. -/
structure FinalWord (text word : List Char) : Prop where
  ne_nil : word ≠ []
  longest : LongestTail isWord word text

section Readers

variable {cs token typed : List Char} {q k : String}

theorem finalWord?_eq_some : finalWord? cs = some q ↔ FinalWord cs q.toList := by
  unfold finalWord?
  simp only [List.isEmpty_iff]
  constructor
  · intro h
    split at h
    · cases h
    · rename_i hne
      obtain rfl := Option.some.inj h
      rw [String.toList_ofList]
      exact ⟨hne, longestTail_suffixWhile _ _⟩
  · rintro ⟨hne, hlongest⟩
    rw [longestTail_iff] at hlongest
    rw [hlongest, if_neg hne, String.ofList_toList]

/-- A text that ends with a word ends with a word character. -/
theorem FinalWord.exists_getLast? {word : List Char} (h : FinalWord cs word) :
    ∃ init c, cs = init ++ [c] ∧ isWord c = true := by
  obtain ⟨before, rfl⟩ := h.longest.isSuffix
  obtain ⟨init, c, rfl⟩ := (List.eq_nil_or_concat' word).resolve_left h.ne_nil
  exact ⟨before ++ init, c, (List.append_assoc _ _ _).symm, h.longest.all c (by simp)⟩

/-- **The reader of a qualifier** finds the word before the point that is left at the end
when the word being typed is taken off. -/
theorem qualifierOf_eq_some : qualifierOf cs = some q ↔
    ∃ before, dropSuffixWhile isWord cs = before ++ ['.'] ∧ FinalWord before q.toList := by
  unfold qualifierOf
  constructor
  · intro h
    split at h
    · rename_i before hpoint
      refine ⟨before.reverse, ?_, finalWord?_eq_some.mp h⟩
      rw [← List.reverse_reverse (dropSuffixWhile isWord cs), hpoint, List.reverse_cons]
    · cases h
  · rintro ⟨before, hpoint, hword⟩
    rw [hpoint, List.reverse_append, List.reverse_singleton, List.singleton_append]
    simp only [List.reverse_reverse]
    exact finalWord?_eq_some.mpr hword

/-- **The reader of a keyword** finds the word before the blanks at the end. -/
theorem keywordEnding_eq_some : keywordEnding cs = some k ↔
    ∃ before gap, cs = before ++ gap ∧ Blanks gap ∧ FinalWord before k.toList := by
  unfold keywordEnding
  simp only [List.isEmpty_iff]
  constructor
  · intro h
    split at h
    · cases h
    · rename_i hne
      exact ⟨_, _, (dropSuffixWhile_append_suffixWhile isBlank cs).symm,
        ⟨hne, fun _ hc => mem_suffixWhile hc⟩, finalWord?_eq_some.mp h⟩
  · rintro ⟨before, gap, rfl, hgap, hword⟩
    -- The blanks stop at the last character of the word.
    have htail : suffixWhile isBlank (before ++ gap) = gap := by
      obtain ⟨init, c, rfl, hc⟩ := hword.exists_getLast?
      have hgap' : suffixWhile isBlank gap = gap := List.rtakeWhile_eq_self_iff.mpr hgap.all
      rw [List.append_assoc, List.singleton_append,
        suffixWhile_append_stop (isBlank_eq_false_of_isWord hc), hgap']
    have hrest := dropSuffixWhile_append_suffixWhile isBlank (before ++ gap)
    rw [htail, List.append_cancel_right_eq] at hrest
    rw [htail, hrest, if_neg hgap.ne_nil]
    exact finalWord?_eq_some.mpr hword

/-- The pattern of a qualified word, at the end of a token: a word, which is as long as it
can be, a point, and the part that has been typed of the word behind it. -/
structure Qualified (token word typed : List Char) : Prop where
  point : ∃ before, token = before ++ '.' :: typed ∧ FinalWord before word
  typed : ∀ c ∈ typed, isWord c = true

/-- **The pattern and the reader agree** on the qualifier and on where the word behind
the point begins. -/
theorem qualified_iff : Qualified token q.toList typed ↔
    qualifierOf token = some q ∧ typed = suffixWhile isWord token := by
  have hparts := dropSuffixWhile_append_suffixWhile isWord token
  rw [qualifierOf_eq_some]
  constructor
  · rintro ⟨⟨before, htoken, hword⟩, htyped⟩
    have htail : suffixWhile isWord token = typed := by
      rw [htoken, suffixWhile_append_stop (by decide)]
      exact List.rtakeWhile_eq_self_iff.mpr htyped
    have hfront : dropSuffixWhile isWord token ++ typed = before ++ ['.'] ++ typed := by
      rw [List.append_assoc, List.singleton_append, ← htoken, ← htail, hparts]
    exact ⟨⟨before, List.append_cancel_right hfront, hword⟩, htail.symm⟩
  · rintro ⟨⟨before, hpoint, hword⟩, rfl⟩
    refine ⟨⟨before, ?_, hword⟩, fun c hc => mem_suffixWhile hc⟩
    rw [List.append_cons, ← hpoint, hparts]

end Readers

/-! ## The token and the line -/

/-- No blank is in a word, so that the word at the end of a token is that of the text. -/
theorem finalWord?_suffixWhile (cs : List Char) :
    finalWord? (suffixWhile (!isBlank ·) cs) = finalWord? cs := by
  rw [finalWord?, suffixWhile_suffixWhile not_isBlank_of_isWord, finalWord?]

/-- **The qualifier of the token** is that of all that leads up to the word: the token is
cut at a blank, and neither the point nor the word before it has one. -/
theorem qualifierOf_suffixWhile (cs : List Char) :
    qualifierOf (suffixWhile (!isBlank ·) cs) = qualifierOf (dropSuffixWhile isWord cs) := by
  have hlead : dropSuffixWhile isWord (dropSuffixWhile isWord cs) = dropSuffixWhile isWord cs :=
    List.rdropWhile_idempotent isWord cs
  unfold qualifierOf
  rw [dropSuffixWhile_suffixWhile not_isBlank_of_isWord, hlead]
  generalize dropSuffixWhile isWord cs = front
  obtain rfl | ⟨before, c, rfl⟩ := List.eq_nil_or_concat' front
  · rfl
  · rw [suffixWhile_eq_rtakeWhile, List.rtakeWhile_concat]
    by_cases hpoint : c = '.'
    · subst hpoint
      rw [if_pos (by decide), List.reverse_append, List.reverse_append]
      simp only [List.reverse_singleton, List.singleton_append, List.reverse_reverse]
      exact finalWord?_suffixWhile before
    · -- Another character ends both searches, be it a blank or not.
      by_cases hsolid : (!isBlank c) = true
      · rw [if_pos hsolid]
        simp [hpoint]
      · rw [if_neg hsolid]
        simp [hpoint]

/-! ## What leads up to a cursor -/

section Cursors

variable (sql : String) (cursor : Cursor)

/-- **The qualifier is read off what leads up to the word.** -/
theorem qualifier_eq : (contextAt sql cursor).qualifier = qualifierOf (lead sql cursor) := by
  have htoken : (contextAt sql cursor).qualifier =
      qualifierOf (contextAt sql cursor).precedingToken.toList := by
    simp only [contextAt, String.toList_ofList]
  rw [htoken, toList_precedingToken, qualifierOf_suffixWhile, lead_eq]

/-- **So is the keyword.** -/
theorem keywordBefore_eq :
    (contextAt sql cursor).keywordBefore = keywordEnding (lead sql cursor) := by
  rw [lead_eq]
  simp only [contextAt, String.toList_ofList]

/-- What leads up to a word does not end with a word character. -/
theorem dropSuffixWhile_lead : dropSuffixWhile isWord (lead sql cursor) = lead sql cursor := by
  rw [lead_eq]
  exact List.rdropWhile_idempotent isWord _

end Cursors

/-- What a context says of a word is decided by what leads up to it. -/
structure LedBy (context : Context) (front : List Char) : Prop where
  linePrefix : context.linePrefix.toList = front ++ context.partialWord.toList
  qualifier : ∀ q, context.qualifier = some q ↔
    ∃ before, front = before ++ ['.'] ∧ FinalWord before q.toList
  keyword : ∀ k, context.keywordBefore = some k ↔
    ∃ before gap, front = before ++ gap ∧ Blanks gap ∧ FinalWord before k.toList
  /-- The pattern finds in the token what is found in the line, and takes the same part of
  it for the word being typed. -/
  pattern : ∀ q typed, Qualified context.precedingToken.toList q.toList typed ↔
    context.qualifier = some q ∧ typed = context.partialWord.toList
  exclusive : context.qualifier = none ∨ context.keywordBefore = none

/-- A point is not a blank, so that no text ends with both. -/
theorem qualifierOf_eq_none_or_keywordEnding_eq_none {cs : List Char}
    (hcs : dropSuffixWhile isWord cs = cs) : qualifierOf cs = none ∨ keywordEnding cs = none := by
  cases hq : qualifierOf cs with
  | none => exact .inl rfl
  | some q =>
      refine .inr (Option.eq_none_iff_forall_ne_some.mpr fun k hk => ?_)
      obtain ⟨before, hpoint, -⟩ := qualifierOf_eq_some.mp hq
      obtain ⟨before', gap, hgap, hblanks, -⟩ := keywordEnding_eq_some.mp hk
      obtain ⟨init, c, rfl⟩ := (List.eq_nil_or_concat' gap).resolve_left hblanks.ne_nil
      have hlast : before ++ ['.'] = before' ++ init ++ [c] := by
        rw [← hpoint, hcs, hgap, List.append_assoc]
      obtain rfl : '.' = c := (List.append_inj' hlast rfl).2 |> List.singleton_inj.mp
      exact absurd (hblanks.all '.' (by simp)) (by decide)

theorem ledBy_lead (sql : String) (cursor : Cursor) :
    LedBy (contextAt sql cursor) (lead sql cursor) where
  linePrefix := (lead_append_partialWord sql cursor).symm
  qualifier := fun q => by
    rw [qualifier_eq, qualifierOf_eq_some, dropSuffixWhile_lead]
  keyword := fun k => by
    rw [keywordBefore_eq, keywordEnding_eq_some]
  pattern := fun q typed => by
    rw [qualified_iff, toList_partialWord_of_token, qualifier_eq, lead_eq,
      ← qualifierOf_suffixWhile, toList_precedingToken]
  exclusive := by
    rw [qualifier_eq, keywordBefore_eq]
    exact qualifierOf_eq_none_or_keywordEnding_eq_none (dropSuffixWhile_lead sql cursor)

/-- **What leads up to a word decides its qualifier and its keyword**, whatever the word
itself is, and whatever stands behind it and on the other lines. -/
theorem contextAt_ledBy (sql : String) (cursor : Cursor) :
    LedBy (contextAt sql cursor) (lead sql cursor) ∧
      ∀ sql' cursor', lead sql' cursor' = lead sql cursor →
        (contextAt sql' cursor').qualifier = (contextAt sql cursor).qualifier ∧
          (contextAt sql' cursor').keywordBefore = (contextAt sql cursor).keywordBefore := by
  refine ⟨ledBy_lead sql cursor, fun sql' cursor' hlead => ⟨?_, ?_⟩⟩
  · rw [qualifier_eq, qualifier_eq, hlead]
  · rw [keywordBefore_eq, keywordBefore_eq, hlead]

/-- The same words lead up to `id` on the second line of one text as to `na` in the other. -/
theorem qualifier_on_another_line :
    lead "SELECT *,\n  u.id, 1" ⟨1, 6⟩ = lead "  u.na" ⟨0, 6⟩ ∧
      (contextAt "SELECT *,\n  u.id, 1" ⟨1, 6⟩).qualifier = some "u" := by
  have hlead : lead "SELECT *,\n  u.id, 1" ⟨1, 6⟩ = lead "  u.na" ⟨0, 6⟩ := by decide +kernel
  refine ⟨hlead, ((contextAt_ledBy _ _).2 _ _ hlead).1.trans ?_⟩
  decide +kernel

end QueryDesk.Completion
