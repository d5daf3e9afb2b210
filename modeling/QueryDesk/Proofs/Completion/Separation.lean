import QueryDesk.Proofs.Completion.Scan
import QueryDesk.Proofs.Text.Suffix

/-!
# References on both sides of a separator

A semicolon belongs to nothing that the scan reads: not to a keyword, blanks, a
table text or an alias, and it is neither the point that extends a table text nor
the parenthesis that makes a call of it.  So each reader of the scan stops at a
semicolon as it stops at the end of the text, and leaves what follows as it is.
What one statement names does not depend on the statements around it, however
unfinished they are.  The same holds of a comma and of a closing parenthesis, and
of no other character.

## Main results

* `separates_iff` — which characters are separators.
* `occurrence?_append`, `aliasWord?_append` — the readers stop at a separator.
* `scan_append` — the scan of a text with a separator in it.
* `references_intercalate` — the references of any number of statements.
* `references_semicolon` — the references on both sides of a semicolon.
-/

namespace QueryDesk.Completion

open Text

/-! ## Separators -/

/-- A character that belongs to nothing that the scan reads. -/
structure Separates (d : Char) : Prop where
  blank : isBlank d = false
  table : isTableChar d = false
  ne_point : d ≠ '.'
  ne_paren : d ≠ '('

theorem separates_iff {d : Char} : Separates d ↔ d = ';' ∨ d = ',' ∨ d = ')' := by
  constructor
  · intro h
    have htable := h.table
    simp only [isTableChar, h.blank, h.ne_point, h.ne_paren, Bool.not_false, Bool.true_and,
      ne_eq, not_false_eq_true, decide_true, Bool.and_eq_false_iff, decide_eq_false_iff_not,
      not_not] at htable
    tauto
  · rintro (rfl | rfl | rfl)
    all_goals exact ⟨by decide, by decide, by decide, by decide⟩

namespace Separates

variable {d : Char}

theorem word (h : Separates d) : isWord d = false := by
  by_contra hword
  have htable := isTableChar_of_isWord (by simpa using hword)
  rw [h.table] at htable
  cases htable

/-- A separator spells no letter of a keyword. -/
theorem foldsTo_eq_false (h : Separates d) {letter : Char}
    (hletter : letter ∈ ['f', 'r', 'o', 'm', 'j', 'i', 'n', 'a', 's']) :
    foldsTo d letter = false := by
  by_contra hfolds
  have hword := isWord_of_foldsTo hletter (by simpa using hfolds)
  rw [h.word] at hword
  cases hword

end Separates

/-! ## The readers -/

section Readers

variable {d : Char}

theorem afterKeyword?_append (h : Separates d) {letters : List Char}
    (hletters : letters ⊆ ['f', 'r', 'o', 'm', 'j', 'i', 'n', 'a', 's']) (cs ds : List Char) :
    afterKeyword? letters (cs ++ d :: ds) = (afterKeyword? letters cs).map (· ++ d :: ds) := by
  induction letters generalizing cs with
  | nil => simp [afterKeyword?]
  | cons letter letters ih =>
      obtain ⟨hletter, hrest⟩ := List.cons_subset.mp hletters
      cases cs with
      | nil => simp [afterKeyword?, h.foldsTo_eq_false hletter]
      | cons c cs =>
          rw [List.cons_append, afterKeyword?, afterKeyword?, ih hrest]
          split
          · rfl
          · rfl

theorem afterBlanks?_append (h : Separates d) (cs ds : List Char) :
    afterBlanks? (cs ++ d :: ds) = (afterBlanks? cs).map (· ++ d :: ds) := by
  simp only [afterBlanks?, takeWhile_append_stop h.blank, dropWhile_append_stop h.blank]
  split
  · rfl
  · rfl

theorem tableText?_append (h : Separates d) (cs ds : List Char) :
    tableText? (cs ++ d :: ds) = (tableText? cs).map (Prod.map id (· ++ d :: ds)) := by
  simp only [tableText?, takeWhile_append_stop h.table, dropWhile_append_stop h.table]
  split
  · rfl
  · cases hrest : cs.dropWhile isTableChar with
    | nil =>
        -- The separator is what follows the table text, and it is no point.
        simp [h.ne_point]
    | cons c rest =>
        by_cases hpoint : c = '.'
        · subst hpoint
          simp only [List.cons_append, takeWhile_append_stop h.table,
            dropWhile_append_stop h.table]
          split
          · rfl
          · rfl
        · simp [hpoint]

theorem keyword?_append (h : Separates d) (cs ds : List Char) :
    (afterKeyword? ['f', 'r', 'o', 'm'] (cs ++ d :: ds) <|>
        afterKeyword? ['j', 'o', 'i', 'n'] (cs ++ d :: ds)) =
      (afterKeyword? ['f', 'r', 'o', 'm'] cs <|> afterKeyword? ['j', 'o', 'i', 'n'] cs).map
        (· ++ d :: ds) := by
  simp only [Option.orElse_eq_orElse, Option.orElse_eq_or]
  rw [afterKeyword?_append h (by decide), afterKeyword?_append h (by decide), Option.map_or]

/-- **The reader of an occurrence stops at a separator.** -/
theorem occurrence?_append (h : Separates d) (cs ds : List Char) :
    occurrence? (cs ++ d :: ds) = (occurrence? cs).map (Prod.map id (· ++ d :: ds)) := by
  simp only [occurrence?, Option.bind_eq_bind]
  rw [keyword?_append h]
  cases afterKeyword? ['f', 'r', 'o', 'm'] cs <|> afterKeyword? ['j', 'o', 'i', 'n'] cs with
  | none => rfl
  | some rest =>
      simp only [Option.map_some, Option.bind_some, afterBlanks?_append h]
      cases afterBlanks? rest with
      | none => rfl
      | some front => exact tableText?_append h front ds

theorem explicitWord?_append (h : Separates d) (cs ds : List Char) :
    explicitWord? (cs ++ d :: ds) = explicitWord? cs := by
  simp only [explicitWord?, Option.bind_eq_bind, afterKeyword?_append h (by decide : ['a', 's'] ⊆ _)]
  cases afterKeyword? ['a', 's'] cs with
  | none => rfl
  | some rest =>
      simp only [Option.map_some, Option.bind_some, afterBlanks?_append h]
      cases afterBlanks? rest with
      | none => rfl
      | some front => simp only [Option.map_some, Option.bind_some, takeWhile_append_stop h.word]

/-- **The reader of an alias stops at a separator.** -/
theorem aliasWord?_append (h : Separates d) (cs ds : List Char) :
    aliasWord? (cs ++ d :: ds) = aliasWord? cs := by
  rw [aliasWord?_eq, aliasWord?_eq, afterBlanks?_append h]
  cases afterBlanks? cs with
  | none => rfl
  | some rest =>
      simp only [Option.map_some, Option.bind_some, explicitWord?_append h,
        takeWhile_append_stop h.word]

theorem referenceTo_append (h : Separates d) (table rest ds : List Char) :
    referenceTo table (rest ++ d :: ds) = referenceTo table rest := by
  rw [referenceTo, aliasWord?_append h, referenceTo]

end Readers

/-! ## The scan -/

section Scan

variable {d : Char}

/-- A text that begins with a separator is scanned from behind it. -/
theorem scan_separator (h : Separates d) (inWord : Bool) (ds : List Char) :
    scan inWord (d :: ds) = scan false ds := by
  have hnone : occurrence? (d :: ds) = none := occurrence?_append h [] ds
  rw [scan_of_none (.inr hnone), h.word]

/-- **The scan of a text with a separator in it** gives what comes before it and
then what comes behind it. -/
theorem scan_append (h : Separates d) (inWord : Bool) (cs ds : List Char) :
    scan inWord (cs ++ d :: ds) = scan inWord cs ++ scan false ds := by
  induction inWord, cs using scan.induct with
  | case1 inWord =>
      rw [List.nil_append, scan_separator h, scan, List.nil_append]
  | case2 c cs ih =>
      -- The text goes on with a word.
      rw [List.cons_append, scan_of_none (.inl rfl), scan_of_none (.inl rfl), ih]
  | case3 inWord c cs _ hnone ih =>
      have hnone' : occurrence? (c :: (cs ++ d :: ds)) = none := by
        rw [← List.cons_append, occurrence?_append h, hnone]
        rfl
      rw [List.cons_append, scan_of_none (.inr hnone'), scan_of_none (.inr hnone), ih]
  | case4 inWord c cs hword table rest hsome _ hcall ih =>
      obtain rfl : inWord = false := by simpa using hword
      have hsome' := occurrence?_append h (c :: cs) ds
      rw [hsome] at hsome'
      obtain ⟨more, rfl⟩ := List.head?_eq_some_iff.mp hcall
      rw [scan_of_some hsome', scan_of_some hsome]
      exact ih
  | case5 inWord c cs hword table rest hsome _ hcall ih =>
      obtain rfl : inWord = false := by simpa using hword
      have hsome' := occurrence?_append h (c :: cs) ds
      rw [hsome] at hsome'
      have hcall' : ¬ (rest ++ d :: ds).head? = some '(' := by
        cases rest with
        | nil => simpa using h.ne_paren
        | cons b rest => exact hcall
      rw [scan_of_some hsome', scan_of_some hsome, if_neg hcall', if_neg hcall, ih]
      rw [id_eq, referenceTo_append h, List.cons_append]

end Scan

/-! ## References of statements -/

/-- The references of a text with a separator in it. -/
theorem references_separator {d : Char} (h : Separates d) (before behind : String) :
    references (before ++ String.singleton d ++ behind) =
      references before ++ references behind := by
  have htext : (before ++ String.singleton d ++ behind).toList =
      before.toList ++ d :: behind.toList := by
    rw [String.toList_append, String.toList_append, String.toList_singleton, List.append_assoc,
      List.singleton_append]
  rw [references, htext]
  exact scan_append h false before.toList behind.toList

theorem separates_semicolon : Separates ';' := separates_iff.mpr (.inl rfl)

/-- **The references of any number of statements** are those of each of them, one
statement after the other. -/
theorem references_intercalate (statements : List String) :
    references (";".intercalate statements) = statements.flatMap references := by
  induction statements with
  | nil =>
      rw [String.intercalate_nil, references, String.toList_empty, scan]
      rfl
  | cons first others ih =>
      cases others with
      | nil => simp
      | cons second others =>
          rw [List.flatMap_cons, ← ih, String.intercalate_cons_cons]
          exact references_separator separates_semicolon first _

/-- **The references on both sides of a semicolon** come one after the other.  What
a statement names, and by which names, does not depend on the text before it or
behind it, whatever is left unfinished there. -/
theorem references_semicolon (before behind : String) :
    references (before ++ ";" ++ behind) = references before ++ references behind :=
  references_separator separates_semicolon before behind

-- An `AS` without an alias, and a keyword without a table, at the end of their statements.
example : references "FROM users AS;u JOIN;(a) FROM b.;c" = [⟨"users", "users"⟩, ⟨"b", "b"⟩] := by
  decide +kernel

end QueryDesk.Completion
