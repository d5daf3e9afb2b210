import QueryDesk.Proofs.Completion.WordRange

/-!
# Where a cursor is

A cursor may name any row and any column, below zero or beyond the text.  It stands
for the nearest place of the text: the row is brought between the first and the last
one, and the column between the ends of that row.  What a context says of positions
is then said of this place, and what it says of words is read off the line up to it.
That the line is all that counts needs no care, since neither a word nor a text
without blanks goes over a line feed.

## Main results

* `exists_nearest`, `describes_of_nearest` — every cursor has a nearest place, and its
  context is about it.
* `contextAt_describes` — what the context of a cursor says of its nearest place.
* `offsets_and_places` — places and offsets of a text go over into each other.
-/

namespace QueryDesk.Completion

open Text

/-- A place of a text: a row, the line in it, the offset at which the line starts, and
a column of the line. -/
structure Place where
  row : Nat
  line : List Char
  offset : Nat
  column : Nat

/-- The place of a text that is nearest to a cursor. -/
structure Nearest (sql : String) (cursor : Cursor) (place : Place) : Prop where
  row : (place.row : Int) = min (max cursor.line 0) ((sql.toList.splitOn '\n').length - 1)
  line : (sql.toList.splitOn '\n')[place.row]? = some place.line
  offset : place.offset = (((sql.toList.splitOn '\n').take place.row).map (·.length + 1)).sum
  column : (place.column : Int) = min (max cursor.column 0) place.line.length

/-- What a context says of a place of a text. -/
structure Describes (context : Context) (sql : String) (place : Place) : Prop where
  row : context.range.line = place.row
  /-- The stretch lies within the line and ends at the place. -/
  start_ge : place.offset ≤ context.range.start
  start_le : context.range.start ≤ context.range.stop
  stop : context.range.stop = place.offset + place.column
  stop_le : context.range.stop ≤ place.offset + place.line.length
  /-- The columns of the stretch are those of the word at the place. -/
  columns : wordRange? place.line place.column =
    some ((context.range.start : Int) - place.offset, (context.range.stop : Int) - place.offset)
  /-- The stretch holds the word that is being typed. -/
  slice : (sql.toList.take context.range.stop).drop context.range.start =
    context.partialWord.toList
  linePrefix : context.linePrefix.toList = place.line.take place.column
  partialWord : LongestTail isWord context.partialWord.toList context.linePrefix.toList
  precedingToken :
    LongestTail (!isBlank ·) context.precedingToken.toList context.linePrefix.toList
  /-- The token is the last word of the line up to the place, unless that ends with a blank. -/
  lastWord : ∀ c ∈ context.linePrefix.toList.getLast?, isBlank c = false →
    (words context.linePrefix.toList).getLast? = some context.precedingToken.toList
  tail : context.partialWord.toList <:+ context.precedingToken.toList

theorem clamp_eq (n : Int) (limit : Nat) : (clamp n limit : Int) = min (max n 0) limit := by
  unfold clamp
  omega

/-- Every cursor has a nearest place. -/
theorem exists_nearest (sql : String) (cursor : Cursor) : ∃ place, Nearest sql cursor place := by
  obtain ⟨line, hline⟩ := exists_line sql cursor
  refine ⟨⟨(contextAt sql cursor).range.line, line,
    lineOffset (lines sql.toList) (contextAt sql cursor).range.line,
    clamp cursor.column line.length⟩, ?_, ?_, ?_, clamp_eq _ _⟩
  · have hrows : 0 < (lines sql.toList).length := List.length_pos_iff.mpr (lines_ne_nil _)
    have hrow := clamp_eq cursor.line ((lines sql.toList).length - 1)
    rw [← lines_eq_splitOn]
    change (clamp cursor.line ((lines sql.toList).length - 1) : Int) = _
    omega
  · rw [← lines_eq_splitOn]
    exact hline
  · rw [← lines_eq_splitOn]
    exact lineOffset_eq_sum _ _

/-! ## The words of a context -/

theorem not_isBlank_of_isWord (c : Char) (h : isWord c = true) : (!isBlank c) = true := by
  rw [isBlank_eq_false_of_isWord h]
  rfl

section Words

variable (sql : String) (cursor : Cursor)

theorem longestTail_partialWord :
    LongestTail isWord (contextAt sql cursor).partialWord.toList
      (contextAt sql cursor).linePrefix.toList := by
  rw [toList_partialWord]
  exact longestTail_suffixWhile _ _

theorem longestTail_precedingToken :
    LongestTail (!isBlank ·) (contextAt sql cursor).precedingToken.toList
      (contextAt sql cursor).linePrefix.toList := by
  rw [toList_precedingToken]
  exact longestTail_suffixWhile _ _

/-- The word being typed is read off the token as well as off the line. -/
theorem toList_partialWord_of_token :
    (contextAt sql cursor).partialWord.toList =
      suffixWhile isWord (contextAt sql cursor).precedingToken.toList := by
  rw [toList_partialWord, toList_precedingToken, suffixWhile_suffixWhile not_isBlank_of_isWord]

theorem partialWord_isSuffix :
    (contextAt sql cursor).partialWord.toList <:+ (contextAt sql cursor).precedingToken.toList := by
  rw [toList_partialWord_of_token]
  exact suffixWhile_isSuffix _ _

/-- The stretch of a context holds the word being typed. -/
theorem slice_range :
    (sql.toList.take (contextAt sql cursor).range.stop).drop (contextAt sql cursor).range.start =
      (contextAt sql cursor).partialWord.toList := by
  obtain ⟨before, behind, hcut⟩ := exists_cutAt sql cursor
  rw [hcut.start, hcut.stop]
  exact slice_of_parts hcut.text

end Words

/-- The word that ends at a column within a line. -/
theorem wordRange?_eq {line : List Char} {column : Nat} (h : column ≤ line.length) :
    wordRange? line column =
      some ((column : Int) - (suffixWhile isWord (line.take column)).length, (column : Int)) := by
  unfold wordRange?
  by_cases hzero : column = 0
  · subst hzero
    rfl
  · rw [if_neg (by omega), if_neg (by omega), Int.toNat_natCast]

/-! ## The nearest place -/

/-- **The context of a cursor is about its nearest place.** -/
theorem describes_of_nearest {sql : String} {cursor : Cursor} {place : Place}
    (h : Nearest sql cursor place) : Describes (contextAt sql cursor) sql place := by
  obtain ⟨row, line, offset, column⟩ := place
  obtain ⟨hrow, hline, hoffset, hcolumn⟩ := h
  simp only [← lines_eq_splitOn] at hrow hline hoffset hcolumn
  rw [← lineOffset_eq_sum] at hoffset
  have hrows : 0 < (lines sql.toList).length := List.length_pos_iff.mpr (lines_ne_nil _)
  -- The row and the column are those that the context is computed from.
  obtain rfl : (contextAt sql cursor).range.line = row := by
    have hclamp := clamp_eq cursor.line ((lines sql.toList).length - 1)
    change clamp cursor.line ((lines sql.toList).length - 1) = row
    omega
  obtain rfl : clamp cursor.column line.length = column := by
    have hclamp := clamp_eq cursor.column line.length
    omega
  have hcolumn' : clamp cursor.column line.length ≤ line.length := Nat.min_le_right _ _
  have hupTo := toList_linePrefix hline
  have hlength := length_cut hline (lead_append_partialWord sql cursor)
  obtain ⟨hstart, hstop⟩ := range_eq hline
  exact {
    row := rfl
    start_ge := by simp only; omega
    start_le := by omega
    stop := by simp only; omega
    stop_le := by simp only; omega
    columns := by
      have hword := toList_partialWord sql cursor
      rw [hupTo] at hword
      simp only [wordRange?_eq hcolumn', ← hword, Option.some.injEq, Prod.mk.injEq]
      omega
    slice := slice_range sql cursor
    linePrefix := hupTo
    partialWord := longestTail_partialWord sql cursor
    precedingToken := longestTail_precedingToken sql cursor
    lastWord := fun c hlast hc => by
      rw [toList_precedingToken]
      exact getLast?_words hlast hc
    tail := partialWord_isSuffix sql cursor }

/-- **What a context says of its cursor.** -/
theorem contextAt_describes (sql : String) (cursor : Cursor) :
    ∃ place, Nearest sql cursor place ∧ Describes (contextAt sql cursor) sql place := by
  obtain ⟨place, hplace⟩ := exists_nearest sql cursor
  exact ⟨place, hplace, describes_of_nearest hplace⟩

/-! ## Places and offsets

A place has an offset, at which the stretch of its context stops, and an offset has a
place.  The two ways are computed apart, one by counting lines off and the other by
adding them up. -/

/-- A cursor within the text is at its nearest place. -/
theorem nearest_of_place {sql : String} {row column : Nat} {line : List Char}
    (hline : (sql.toList.splitOn '\n')[row]? = some line) (hcolumn : column ≤ line.length) :
    Nearest sql ⟨row, column⟩
      ⟨row, line, (((sql.toList.splitOn '\n').take row).map (·.length + 1)).sum, column⟩ := by
  obtain ⟨hrow, -⟩ := List.getElem?_eq_some_iff.mp hline
  refine ⟨?_, hline, rfl, ?_⟩
  · change (row : Int) = min (max (row : Int) 0) ((sql.toList.splitOn '\n').length - 1)
    omega
  · change (column : Int) = min (max (column : Int) 0) line.length
    omega

/-- The stretch of the context at a place of the text stops at the offset of the place. -/
theorem stop_of_place {sql : String} {row column : Nat} {line : List Char}
    (hline : (lines sql.toList)[row]? = some line) (hcolumn : column ≤ line.length) :
    (contextAt sql ⟨row, column⟩).range.stop = lineOffset (lines sql.toList) row + column := by
  rw [lines_eq_splitOn] at hline
  rw [(describes_of_nearest (nearest_of_place hline hcolumn)).stop, lineOffset_eq_sum,
    lines_eq_splitOn]

/-- The offset at which the stretch of a context stops is that of the nearest place. -/
theorem location_stop_of_nearest {sql : String} {cursor : Cursor} {place : Place}
    (h : Nearest sql cursor place) :
    location sql.toList (contextAt sql cursor).range.stop = (place.row, (place.column : Int)) := by
  have hcolumn : place.column ≤ place.line.length := by
    have hnearest := h.column
    omega
  have hline : (lines sql.toList)[place.row]? = some place.line := by
    rw [lines_eq_splitOn]
    exact h.line
  have hoffset : place.offset = lineOffset (lines sql.toList) place.row := by
    rw [h.offset, lineOffset_eq_sum, lines_eq_splitOn]
  rw [(describes_of_nearest h).stop, hoffset, location_lineOffset hline hcolumn]

/-- **Places and offsets of a text go over into each other.**  Every offset of the text
has a place in one of its lines, and the context at that place stops at the offset; the
offset at which the context of any cursor stops has the nearest place of that cursor; and
an offset beyond the text has the end of the last line. -/
theorem offsets_and_places (sql : String) :
    (∀ offset : Nat, offset ≤ sql.toList.length →
      ∃ (row column : Nat) (line : List Char),
        location sql.toList offset = (row, (column : Int)) ∧
          (sql.toList.splitOn '\n')[row]? = some line ∧ column ≤ line.length ∧
          (contextAt sql ⟨row, column⟩).range.stop = offset) ∧
      (∀ cursor, ∃ place, Nearest sql cursor place ∧
        location sql.toList (contextAt sql cursor).range.stop =
          (place.row, (place.column : Int))) ∧
      ∀ offset : Int, sql.toList.length < offset →
        ∃ last, (sql.toList.splitOn '\n').getLast? = some last ∧
          location sql.toList offset =
            ((sql.toList.splitOn '\n').length - 1, (last.length : Int)) := by
  refine ⟨?_, ?_, ?_⟩
  · intro offset hoffset
    obtain ⟨row, column, line, hlocation, hline, hcolumn, hback⟩ := location_eq hoffset
    refine ⟨row, column, line, hlocation, ?_, hcolumn, ?_⟩
    · rw [← lines_eq_splitOn]
      exact hline
    · rw [stop_of_place hline hcolumn, hback]
  · intro cursor
    obtain ⟨place, hplace⟩ := exists_nearest sql cursor
    exact ⟨place, hplace, location_stop_of_nearest hplace⟩
  · intro offset hoffset
    rw [← lines_eq_splitOn]
    exact location_beyond hoffset

/-- An empty line between two others has one place, and its offset is that of the line
feed that ends it; an offset beyond a final line feed is in the empty line behind it. -/
theorem offsets_and_places_empty_line :
    let sql := "a\n\nb\n"
    (2 ≤ sql.toList.length ∧ location sql.toList (2 : Nat) = (1, 0) ∧
      (contextAt sql ⟨1, 0⟩).range.stop = 2) ∧
      (sql.toList.length : Int) < 9 ∧ location sql.toList 9 = (3, 0) := by
  intro sql
  have hlength : sql.toList.length = 5 := by decide
  have hplace : location sql.toList (2 : Nat) = (1, 0) := by decide
  obtain ⟨hinside, -, hbeyond⟩ := offsets_and_places sql
  obtain ⟨row, column, line, hlocation, hline, hcolumn, hstop⟩ := hinside 2 (by omega)
  obtain ⟨hrow, hzero⟩ := Prod.mk.inj (hlocation.symm.trans hplace)
  obtain rfl : column = 0 := by omega
  subst hrow
  have hlines : sql.toList.splitOn '\n' = [['a'], [], ['b'], []] := by
    rw [← lines_eq_splitOn]
    decide
  obtain ⟨last, hlast, hend⟩ := hbeyond 9 (by omega)
  rw [hlines] at hlast hend
  cases hlast
  exact ⟨⟨by omega, hplace, hstop⟩, by omega, hend⟩

end QueryDesk.Completion
