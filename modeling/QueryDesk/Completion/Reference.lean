import QueryDesk.OrderedMap
import QueryDesk.Text.Case
import QueryDesk.Text.Word

/-!
# Table references

The tables that a text of SQL names after `FROM` and `JOIN`, each with the
name by which its columns are qualified. The text need not be complete or even
valid: the scan looks for the two keywords only, from left to right, and goes
on behind the table text of each one it takes.

## Main results

* `occurrence?_length` — the text after an occurrence is shorter, which is why
  the scan ends.
-/

namespace QueryDesk.Completion

open Text

/-- A table with the name that qualifies its columns: its alias, or its own
name when it has none. -/
structure Reference where
  table : String
  name : String
  deriving DecidableEq, Repr

/-- The words that follow a table without being its alias. -/
def aliasStopWords : List String := ["on", "where", "inner", "left", "right", "join", "as"]

/-- The characters that make up a table text. -/
def isTableChar (c : Char) : Bool :=
  !isBlank c && c ≠ '.' && c ≠ '(' && c ≠ ')' && c ≠ ',' && c ≠ ';'

/-- The text after a keyword, given by its lower-case letters and accepted in any case. -/
def afterKeyword? : List Char → List Char → Option (List Char)
  | [], cs => some cs
  | _ :: _, [] => none
  | k :: ks, c :: cs => if foldsTo c k then afterKeyword? ks cs else none

/-- The table text at the front, extended by one point and what follows it,
and the text after it. -/
def tableText? (cs : List Char) : Option (List Char × List Char) :=
  let first := cs.takeWhile isTableChar
  let rest := cs.dropWhile isTableChar
  if first.isEmpty then none
  else
    match rest with
    | '.' :: more =>
      let second := more.takeWhile isTableChar
      if second.isEmpty then some (first, rest)
      else some (first ++ '.' :: second, more.dropWhile isTableChar)
    | _ => some (first, rest)

/-- The text after at least one blank. -/
def afterBlanks? (cs : List Char) : Option (List Char) :=
  if (cs.takeWhile isBlank).isEmpty then none else some (cs.dropWhile isBlank)

/-- A keyword, blanks and a table text at the front: the table text and the
text after it. -/
def occurrence? (cs : List Char) : Option (List Char × List Char) := do
  let rest ← afterKeyword? ['f', 'r', 'o', 'm'] cs <|> afterKeyword? ['j', 'o', 'i', 'n'] cs
  tableText? (← afterBlanks? rest)

/-- The word that could be the alias: the first one after blanks, or the one
after it if the first is `AS`. -/
def aliasWord? (cs : List Char) : Option (List Char) := do
  let rest ← afterBlanks? cs
  let explicit : Option (List Char) := do
    let word := (← afterBlanks? (← afterKeyword? ['a', 's'] rest)).takeWhile isWord
    if word.isEmpty then none else some word
  let word := explicit.getD (rest.takeWhile isWord)
  if word.isEmpty then none else some word

/-- The reference to a table whose text is followed by `rest`. -/
def referenceTo (table rest : List Char) : Reference :=
  let table := String.ofList table
  match aliasWord? rest with
  | some word =>
    let word := String.ofList word
    if lower word ∈ aliasStopWords then ⟨table, table⟩ else ⟨table, word⟩
  | none => ⟨table, table⟩

theorem length_afterKeyword?_lt {k : Char} {ks cs rest : List Char}
    (h : afterKeyword? (k :: ks) cs = some rest) : rest.length < cs.length := by
  induction ks generalizing k cs with
  | nil =>
    cases cs with
    | nil => simp [afterKeyword?] at h
    | cons c cs =>
      simp only [afterKeyword?] at h
      split at h <;> simp_all
  | cons k' ks ih =>
    cases cs with
    | nil => simp [afterKeyword?] at h
    | cons c cs =>
      rw [afterKeyword?] at h
      split at h
      · have := ih h
        simp only [List.length_cons]; omega
      · simp at h

theorem length_dropWhile_le (p : Char → Bool) (cs : List Char) :
    (cs.dropWhile p).length ≤ cs.length := (List.dropWhile_sublist p).length_le

theorem length_tableText?_le {cs table rest : List Char} (h : tableText? cs = some (table, rest)) :
    rest.length ≤ cs.length := by
  have hd := length_dropWhile_le isTableChar cs
  unfold tableText? at h
  simp only at h
  split at h
  · simp at h
  · split at h
    · rename_i more heq
      rw [heq] at hd
      simp only [List.length_cons] at hd
      have hm := length_dropWhile_le isTableChar more
      split at h
      · simp only [Option.some.injEq, Prod.mk.injEq] at h
        rw [← h.2, heq]
        simpa using hd
      · simp only [Option.some.injEq, Prod.mk.injEq] at h
        rw [← h.2]; omega
    · simp only [Option.some.injEq, Prod.mk.injEq] at h
      rw [← h.2]; exact hd

/-- What follows an occurrence is shorter than the text that it starts. -/
theorem occurrence?_length {cs table rest : List Char}
    (h : occurrence? cs = some (table, rest)) : rest.length < cs.length := by
  unfold occurrence? at h
  simp only [Option.bind_eq_bind, Option.bind_eq_some_iff] at h
  obtain ⟨after, hk, gap, hb, ht⟩ := h
  have h1 : after.length < cs.length := by
    rcases hf : afterKeyword? ['f', 'r', 'o', 'm'] cs with _ | r
    · rw [hf] at hk
      exact length_afterKeyword?_lt (by simpa using hk)
    · rw [hf] at hk
      simp only [Option.orElse_eq_orElse, Option.orElse_some, Option.some.injEq] at hk
      exact hk ▸ length_afterKeyword?_lt hf
  have h2 : gap.length ≤ after.length := by
    unfold afterBlanks? at hb
    split at hb
    · simp at hb
    · simp only [Option.some.injEq] at hb
      exact hb ▸ length_dropWhile_le isBlank after
  have h3 := length_tableText?_le ht
  omega

/-- The references of a text, in order. `inWord` says that the character before
it belongs to a word, so that no keyword can start at once. A table text
directly followed by a parenthesis is the name of a function and no reference. -/
def scan (inWord : Bool) : List Char → List Reference
  | [] => []
  | c :: cs =>
    if inWord then scan (isWord c) cs
    else
      match h : occurrence? (c :: cs) with
      | none => scan (isWord c) cs
      | some (table, rest) =>
        have : rest.length < (c :: cs).length := occurrence?_length h
        if rest.head? = some '(' then scan false rest.tail
        else referenceTo table rest :: scan false rest
termination_by cs => cs.length
decreasing_by
  · simp
  · simp
  · rw [List.length_tail]; omega
  · exact this

/-- The references of a text of SQL, in order. -/
def references (sql : String) : List Reference := scan false sql.toList

/-- The tables by the names that qualify their columns; of several references
with one name the last counts. -/
def tablesByName (refs : List Reference) : OrderedMap String String :=
  .ofEntries (refs.map fun r => (r.name, r.table))

end QueryDesk.Completion
