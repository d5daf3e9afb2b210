import QueryDesk.Completion.Context
import QueryDesk.Proofs.Text.Lines
import QueryDesk.Proofs.Text.Suffix

/-!
# The word at a cursor

The stretch that an accepted candidate replaces is computed on the line of the
cursor and then moved to offsets of the whole text.  On the text it is the word
that ends at the cursor: word characters only, with no word character before it.
No line feed is a word character, so that a stretch that begins with a line is
as long to the left as one that begins within it.

A cursor cuts its text into four parts (`CutAt`): all before its line, the line up
to the word, the word, and all behind it.

## Main results

* `toList_linePrefix`, `toList_partialWord`, `toList_precedingToken` — the texts of
  a context are read off the line of its cursor.
* `exists_cutAt` — a cursor cuts its text.
* `contextAt_range` — the stretch of a context is a word that ends at its cursor.
-/

namespace QueryDesk.Completion

open Text

/-- A word of a text that is as long as it can be to the left, by the offsets of
its ends. -/
structure WordSpan (text : List Char) (start stop : Nat) : Prop where
  le : start ≤ stop
  /-- Both ends are on one line. -/
  line : ∃ row line, (lines text)[row]? = some line ∧ lineOffset (lines text) row ≤ start ∧
    stop ≤ lineOffset (lines text) row + line.length
  word : ∀ c ∈ (text.take stop).drop start, isWord c = true
  longest : ∀ c ∈ (text.take start).getLast?, isWord c = false

/-- The offset of a cursor, or of the nearest place of the text. -/
def cursorOffset (sql : String) (cursor : Cursor) : Nat :=
  let rows := lines sql.toList
  let row := clamp cursor.line (rows.length - 1)
  lineOffset rows row + clamp cursor.column (rows.getD row []).length

/-- A part of a text is where the lengths of the parts before it say. -/
theorem slice_of_parts {before front word back text : List Char}
    (htext : text = before ++ (front ++ (word ++ back))) :
    (text.take (before.length + front.length + word.length)).drop
      (before.length + front.length) = word := by
  have hstop : text.take (before.length + front.length + word.length) =
      before ++ front ++ word := by
    rw [htext, ← List.append_assoc, ← List.append_assoc, ← List.length_append,
      ← List.length_append, List.take_left]
  rw [hstop, ← List.length_append, List.drop_left]

/-- A text whose parts are known has a word where the parts say. -/
theorem wordSpan_of_parts {before front word back : List Char} {row : Nat} {line : List Char}
    {text : List Char} (htext : text = before ++ (front ++ (word ++ back)))
    (hline : (lines text)[row]? = some line)
    (hbefore : before.length = lineOffset (lines text) row)
    (hlength : front.length + word.length ≤ line.length)
    (hfeed : ∀ c ∈ before.getLast?, c = '\n') (hword : ∀ c ∈ word, isWord c = true)
    (hfront : ∀ c ∈ front.getLast?, isWord c = false) :
    WordSpan text (before.length + front.length) (before.length + front.length + word.length) := by
  have hstart : text.take (before.length + front.length) = before ++ front := by
    rw [htext, ← List.append_assoc, ← List.length_append, List.take_left]
  refine ⟨Nat.le_add_right _ _, ⟨row, line, hline, by omega, by omega⟩, ?_, ?_⟩
  · rw [slice_of_parts htext]
    exact hword
  · rw [hstart, List.getLast?_append]
    cases hlast : front.getLast? with
    | some c =>
        intro c' hc'
        exact hfront c' (hlast ▸ hc')
    | none =>
        intro c hc
        rw [hfeed c hc]
        decide

/-! ## The line of a cursor -/

/-- The line of a cursor is one of the text. -/
theorem exists_line (sql : String) (cursor : Cursor) :
    ∃ line, (lines sql.toList)[(contextAt sql cursor).range.line]? = some line := by
  have hrows : 0 < (lines sql.toList).length :=
    List.length_pos_iff.mpr (lines_ne_nil sql.toList)
  have hrow : clamp cursor.line ((lines sql.toList).length - 1) < (lines sql.toList).length := by
    unfold clamp
    omega
  exact ⟨_, List.getElem?_eq_getElem hrow⟩

section Line

variable {sql : String} {cursor : Cursor} {line : List Char}

theorem getD_line (hline : (lines sql.toList)[(contextAt sql cursor).range.line]? = some line) :
    (lines sql.toList).getD (clamp cursor.line ((lines sql.toList).length - 1)) [] = line := by
  rw [List.getD_eq_getElem?_getD]
  exact congrArg (·.getD []) hline

/-- The text before a cursor on its line. -/
theorem toList_linePrefix
    (hline : (lines sql.toList)[(contextAt sql cursor).range.line]? = some line) :
    (contextAt sql cursor).linePrefix.toList = line.take (clamp cursor.column line.length) := by
  simp only [contextAt, getD_line hline, String.toList_ofList]

theorem toList_partialWord (sql : String) (cursor : Cursor) :
    (contextAt sql cursor).partialWord.toList =
      suffixWhile isWord (contextAt sql cursor).linePrefix.toList := by
  simp only [contextAt, String.toList_ofList]

theorem toList_precedingToken (sql : String) (cursor : Cursor) :
    (contextAt sql cursor).precedingToken.toList =
      suffixWhile (!isBlank ·) (contextAt sql cursor).linePrefix.toList := by
  simp only [contextAt, String.toList_ofList]

/-- The stretch of a context by the offset of its line and the columns on it. -/
theorem range_eq (hline : (lines sql.toList)[(contextAt sql cursor).range.line]? = some line) :
    (contextAt sql cursor).range.start =
        lineOffset (lines sql.toList) (contextAt sql cursor).range.line +
          (clamp cursor.column line.length - (contextAt sql cursor).partialWord.toList.length) ∧
      (contextAt sql cursor).range.stop =
        lineOffset (lines sql.toList) (contextAt sql cursor).range.line +
          clamp cursor.column line.length := by
  simp only [contextAt, getD_line hline, String.toList_ofList, and_self]

end Line

/-! ## The text around a cursor -/

/-- What leads up to the word at a cursor: its line before the stretch of the word. -/
def lead (sql : String) (cursor : Cursor) : List Char :=
  let rows := lines sql.toList
  let range := (contextAt sql cursor).range
  (rows.getD range.line []).take (range.start - lineOffset rows range.line)

/-- The part of the line before the word, and the word, are as long as the column says. -/
theorem length_cut {sql : String} {cursor : Cursor} {line front : List Char}
    (hline : (lines sql.toList)[(contextAt sql cursor).range.line]? = some line)
    (hfront : front ++ (contextAt sql cursor).partialWord.toList =
      (contextAt sql cursor).linePrefix.toList) :
    front.length + (contextAt sql cursor).partialWord.toList.length =
      clamp cursor.column line.length := by
  have hcolumn : clamp cursor.column line.length ≤ line.length := Nat.min_le_right _ _
  rw [← List.length_append, hfront, toList_linePrefix hline, List.length_take,
    Nat.min_eq_left hcolumn]

/-- **What leads up to the word is the line up to the cursor without the word.** -/
theorem lead_eq (sql : String) (cursor : Cursor) :
    lead sql cursor = dropSuffixWhile isWord (contextAt sql cursor).linePrefix.toList := by
  obtain ⟨line, hline⟩ := exists_line sql cursor
  have hparts := dropSuffixWhile_append_suffixWhile isWord (contextAt sql cursor).linePrefix.toList
  rw [← toList_partialWord] at hparts
  generalize dropSuffixWhile isWord (contextAt sql cursor).linePrefix.toList = front at hparts ⊢
  have hlength := length_cut hline hparts
  have hcount : (contextAt sql cursor).range.start -
      lineOffset (lines sql.toList) (contextAt sql cursor).range.line = front.length := by
    rw [(range_eq hline).1]
    omega
  have hgetD : (lines sql.toList).getD (contextAt sql cursor).range.line [] = line :=
    getD_line hline
  calc lead sql cursor
      = line.take front.length := by simp only [lead, hcount, hgetD]
    _ = (line.take (clamp cursor.column line.length)).take front.length := by
        rw [List.take_take, Nat.min_eq_left (by omega)]
    _ = front := by rw [← toList_linePrefix hline, ← hparts, List.take_left]

theorem lead_append_partialWord (sql : String) (cursor : Cursor) :
    lead sql cursor ++ (contextAt sql cursor).partialWord.toList =
      (contextAt sql cursor).linePrefix.toList := by
  rw [lead_eq, toList_partialWord, dropSuffixWhile_append_suffixWhile]

/-- A cursor cuts its text: `before` is all before its line, and `behind` all behind it. -/
structure CutAt (sql : String) (cursor : Cursor) (before behind : List Char) : Prop where
  text : sql.toList =
    before ++ (lead sql cursor ++ ((contextAt sql cursor).partialWord.toList ++ behind))
  offset : before.length = lineOffset (lines sql.toList) (contextAt sql cursor).range.line
  feed : ∀ c ∈ before.getLast?, c = '\n'
  start : (contextAt sql cursor).range.start = before.length + (lead sql cursor).length
  stop : (contextAt sql cursor).range.stop = before.length + (lead sql cursor).length +
    (contextAt sql cursor).partialWord.toList.length

/-- **A cursor cuts its text.** -/
theorem exists_cutAt (sql : String) (cursor : Cursor) :
    ∃ before behind, CutAt sql cursor before behind := by
  obtain ⟨line, hline⟩ := exists_line sql cursor
  obtain ⟨before, after, htext, hbefore, hfeed, -⟩ := split_at_line hline
  obtain ⟨hstart, hstop⟩ := range_eq hline
  have hlength := length_cut hline (lead_append_partialWord sql cursor)
  refine ⟨before, line.drop (clamp cursor.column line.length) ++ after, ?_, hbefore, hfeed, ?_, ?_⟩
  · rw [← List.append_assoc (lead sql cursor), lead_append_partialWord, toList_linePrefix hline,
      ← List.append_assoc (line.take _), List.take_append_drop, htext]
  · rw [hstart, hbefore]
    omega
  · rw [hstop, hbefore]
    omega

/-- **The stretch of a context is a word that ends at its cursor.** -/
theorem contextAt_range (sql : String) (cursor : Cursor) :
    WordSpan sql.toList (contextAt sql cursor).range.start (contextAt sql cursor).range.stop ∧
      (contextAt sql cursor).range.stop = cursorOffset sql cursor := by
  refine ⟨?_, rfl⟩
  obtain ⟨line, hline⟩ := exists_line sql cursor
  obtain ⟨before, behind, hcut⟩ := exists_cutAt sql cursor
  have hcolumn : clamp cursor.column line.length ≤ line.length := Nat.min_le_right _ _
  have hlength := length_cut hline (lead_append_partialWord sql cursor)
  rw [hcut.start, hcut.stop]
  refine wordSpan_of_parts hcut.text hline hcut.offset (by omega) hcut.feed ?_ ?_
  · rw [toList_partialWord]
    exact fun c hc => mem_suffixWhile hc
  · rw [lead_eq]
    exact getLast?_dropSuffixWhile isWord _

end QueryDesk.Completion
