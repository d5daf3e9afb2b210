import Mathlib.Algebra.GroupWithZero.Nat
import QueryDesk.Text.Lines

/-!
# Offsets and lines

A text is its lines with a line feed between any two of them, so each line is a
stretch of the text that starts at the offset of its row.  Going from an offset
to a row and a column and back gives the offset again, as long as it lies in the
text, and so does going from a row and a column of the text to the offset and back.

## Main results

* `lines_eq_splitOn`, `lineOffset_eq_sum` — the lines of a text and where they start.
* `split_at_line` — a line within the text.
* `location_eq` — the place of an offset is one of the text and leads back.
* `location_lineOffset` — the offset of a place of the text leads back.
* `location_beyond` — the place of any other offset.
-/

namespace QueryDesk.Text

/-! ## Rows -/

@[simp] theorem lineOffset_zero (ls : List (List Char)) : lineOffset ls 0 = 0 := rfl

/-- The rows below start behind the first line and its line feed. -/
theorem lineOffset_cons_succ (l : List Char) (ls : List (List Char)) (row : Nat) :
    lineOffset (l :: ls) (row + 1) = l.length + 1 + lineOffset ls row := by
  have hfrom : ∀ (xs : List (List Char)) (n : Nat),
      xs.foldl (fun n l => n + (l.length + 1)) n =
        n + xs.foldl (fun n l => n + (l.length + 1)) 0 := by
    intro xs
    induction xs with
    | nil => intro n; rfl
    | cons x xs ih =>
        intro n
        rw [List.foldl_cons, List.foldl_cons, ih (n + (x.length + 1)), ih (0 + (x.length + 1))]
        omega
  rw [lineOffset, List.take_succ_cons, List.foldl_cons, hfrom, Nat.zero_add]
  rfl

theorem lines_lineFeed (cs : List Char) : lines ('\n' :: cs) = [] :: lines cs := by
  rw [lines, if_pos rfl]

/-- Another character than a line feed goes to the front of the first line. -/
theorem lines_cons {c : Char} (h : c ≠ '\n') (cs : List Char) :
    ∃ l ls, lines cs = l :: ls ∧ lines (c :: cs) = (c :: l) :: ls := by
  rw [lines, if_neg h]
  cases hlines : lines cs with
  | nil => exact absurd hlines (lines_ne_nil cs)
  | cons l ls => exact ⟨l, ls, rfl, rfl⟩

/-- The lines of a text are its parts between the line feeds. -/
theorem lines_eq_splitOn (cs : List Char) : lines cs = cs.splitOn '\n' := by
  induction cs with
  | nil => simp [lines, List.splitOn]
  | cons c cs ih =>
      rw [List.splitOn, List.splitOnP_cons_eq_if_modifyHead]
      change lines (c :: cs) =
        if (c == '\n') = true then [] :: cs.splitOn '\n' else (cs.splitOn '\n').modifyHead (c :: ·)
      rw [← ih]
      by_cases hc : c = '\n'
      · subst hc
        rw [lines_lineFeed]
        rfl
      · obtain ⟨l, ls, hlines, hcons⟩ := lines_cons hc cs
        rw [if_neg (by simpa using hc), hcons, hlines]
        rfl

/-- A row starts behind the rows above it and their line feeds. -/
theorem lineOffset_eq_sum (ls : List (List Char)) (row : Nat) :
    lineOffset ls row = ((ls.take row).map (·.length + 1)).sum := by
  induction ls generalizing row with
  | nil => simp [lineOffset]
  | cons l ls ih =>
      cases row with
      | zero => rfl
      | succ row =>
          rw [lineOffset_cons_succ, ih, List.take_succ_cons, List.map_cons, List.sum_cons]

/-- **A line within the text**: it starts at the offset of its row, and there are
line feeds on both sides, unless the text begins or ends there. -/
theorem split_at_line {cs line : List Char} {row : Nat} (h : (lines cs)[row]? = some line) :
    ∃ before after, cs = before ++ (line ++ after) ∧
      before.length = lineOffset (lines cs) row ∧ (∀ c ∈ before.getLast?, c = '\n') ∧
      ∀ c ∈ after.head?, c = '\n' := by
  induction cs generalizing row line with
  | nil =>
      cases row with
      | zero =>
          obtain rfl : [] = line := by simpa [lines] using h
          exact ⟨[], [], by simp⟩
      | succ row => simp [lines] at h
  | cons c cs ih =>
      by_cases hc : c = '\n'
      · subst hc
        rw [lines_lineFeed] at h ⊢
        cases row with
        | zero =>
            obtain rfl : [] = line := by simpa using h
            exact ⟨[], '\n' :: cs, by simp⟩
        | succ row =>
            obtain ⟨before, after, hcs, hlength, hbefore, hafter⟩ := ih (by simpa using h)
            refine ⟨'\n' :: before, after, by rw [hcs]; rfl, ?_, ?_, hafter⟩
            · rw [List.length_cons, lineOffset_cons_succ, hlength, List.length_nil]
              omega
            · cases before with
              | nil => simp
              | cons b before =>
                  rw [List.getLast?_cons_cons]
                  exact hbefore
      · obtain ⟨l, ls, hlines, hcons⟩ := lines_cons hc cs
        rw [hcons] at h ⊢
        cases row with
        | zero =>
            obtain rfl : c :: l = line := by simpa using h
            have hfirst : (lines cs)[0]? = some l := by
              rw [hlines]
              rfl
            obtain ⟨before, after, hcs, hlength, -, hafter⟩ := ih hfirst
            obtain rfl : before = [] := List.length_eq_zero_iff.mp hlength
            exact ⟨[], after, by rw [hcs]; rfl, rfl, by simp, hafter⟩
        | succ row =>
            have hrow : (lines cs)[row + 1]? = some line := by
              rw [hlines]
              simpa using h
            obtain ⟨before, after, hcs, hlength, hbefore, hafter⟩ := ih hrow
            rw [hlines, lineOffset_cons_succ] at hlength
            refine ⟨c :: before, after, by rw [hcs]; rfl, ?_, ?_, hafter⟩
            · rw [List.length_cons, lineOffset_cons_succ, hlength, List.length_cons]
              omega
            · cases before with
              | nil =>
                  rw [List.length_nil] at hlength
                  omega
              | cons b before =>
                  rw [List.getLast?_cons_cons]
                  exact hbefore

/-- The lines with their line feeds are one longer than the text. -/
theorem lineOffset_length (cs : List Char) :
    lineOffset (lines cs) (lines cs).length = cs.length + 1 := by
  induction cs with
  | nil => rfl
  | cons c cs ih =>
      by_cases hc : c = '\n'
      · subst hc
        rw [lines_lineFeed, List.length_cons, lineOffset_cons_succ, ih, List.length_nil,
          List.length_cons]
        omega
      · obtain ⟨l, ls, hlines, hcons⟩ := lines_cons hc cs
        rw [hlines, List.length_cons, lineOffset_cons_succ] at ih
        rw [hcons, List.length_cons, lineOffset_cons_succ, List.length_cons, List.length_cons]
        omega

/-! ## Offsets -/

theorem locationFrom_eq {ls : List (List Char)} {offset : Nat} (row : Nat)
    (h : offset < lineOffset ls ls.length) :
    ∃ (i column : Nat) (line : List Char), locationFrom row offset ls = (row + i, (column : Int)) ∧
      ls[i]? = some line ∧ column ≤ line.length ∧ lineOffset ls i + column = offset := by
  induction ls generalizing row offset with
  | nil => exact absurd h (Nat.not_lt_zero _)
  | cons l ls ih =>
      rw [List.length_cons, lineOffset_cons_succ] at h
      cases ls with
      | nil =>
          have hle : offset ≤ l.length := by
            rw [List.length_nil, lineOffset_zero] at h
            omega
          refine ⟨0, offset, l, ?_, rfl, hle, by simp⟩
          rw [locationFrom, if_pos (by omega)]
          rfl
      | cons l' ls =>
          by_cases hle : offset ≤ l.length
          · refine ⟨0, offset, l, ?_, rfl, hle, by simp⟩
            rw [locationFrom, if_pos (by omega)]
            rfl
          · have hrest : offset - (l.length + 1) < lineOffset (l' :: ls) (l' :: ls).length := by
              omega
            obtain ⟨i, column, line, hlocation, hline, hcolumn, hoffset⟩ := ih (row + 1) hrest
            refine ⟨i + 1, column, line, ?_, by simpa using hline, hcolumn, ?_⟩
            · have hcast : (offset : Int) - (l.length + 1) = (offset - (l.length + 1) : Nat) := by
                omega
              rw [locationFrom, if_neg (by omega), hcast, hlocation, Nat.add_assoc,
                Nat.add_comm 1 i]
            · rw [lineOffset_cons_succ]
              omega

/-- **The place of an offset of the text** is a row of it and a column of that
row, and leads back to the offset. -/
theorem location_eq {cs : List Char} {offset : Nat} (h : offset ≤ cs.length) :
    ∃ (row column : Nat) (line : List Char), location cs offset = (row, (column : Int)) ∧
      (lines cs)[row]? = some line ∧ column ≤ line.length ∧
      lineOffset (lines cs) row + column = offset := by
  have hlt : offset < lineOffset (lines cs) (lines cs).length := by
    rw [lineOffset_length]
    omega
  obtain ⟨i, column, line, hlocation, hrest⟩ := locationFrom_eq 0 hlt
  exact ⟨i, column, line, by rw [location, hlocation, Nat.zero_add], hrest⟩

theorem locationFrom_lineOffset {ls : List (List Char)} {i column : Nat} {line : List Char}
    (row : Nat) (hline : ls[i]? = some line) (hcolumn : column ≤ line.length) :
    locationFrom row ((lineOffset ls i + column : Nat) : Int) ls = (row + i, (column : Int)) := by
  induction ls generalizing row i with
  | nil => simp at hline
  | cons l ls ih =>
      cases i with
      | zero =>
          obtain rfl : l = line := by simpa using hline
          cases ls <;> simp [locationFrom, hcolumn]
      | succ i =>
          cases ls with
          | nil => simp at hline
          | cons l' ls =>
              have hrest := ih (row + 1) (by simpa using hline)
              rw [lineOffset_cons_succ, locationFrom, if_neg (by omega)]
              have hcast : ((l.length + 1 + lineOffset (l' :: ls) i + column : Nat) : Int) -
                  (l.length + 1) = (lineOffset (l' :: ls) i + column : Nat) := by
                omega
              rw [hcast, hrest, Nat.add_assoc, Nat.add_comm 1 i]

/-- **The offset of a place of the text** leads back to the place.  The place behind the
last character of a line is none of the next line, since the line feed lies between. -/
theorem location_lineOffset {cs line : List Char} {row column : Nat}
    (hline : (lines cs)[row]? = some line) (hcolumn : column ≤ line.length) :
    location cs ((lineOffset (lines cs) row + column : Nat) : Int) = (row, (column : Int)) := by
  rw [location, locationFrom_lineOffset 0 hline hcolumn, Nat.zero_add]

theorem locationFrom_beyond {ls : List (List Char)} {offset : Int} (row : Nat) (hne : ls ≠ [])
    (h : (lineOffset ls ls.length : Int) ≤ offset) :
    ∃ last, ls.getLast? = some last ∧
      locationFrom row offset ls = (row + (ls.length - 1), (last.length : Int)) := by
  induction ls generalizing row offset with
  | nil => exact absurd rfl hne
  | cons l ls ih =>
      rw [List.length_cons, lineOffset_cons_succ] at h
      cases ls with
      | nil =>
          rw [locationFrom, if_neg (by omega)]
          exact ⟨l, rfl, rfl⟩
      | cons l' ls =>
          have hrest : (lineOffset (l' :: ls) (l' :: ls).length : Int) ≤
              offset - (l.length + 1) := by
            omega
          obtain ⟨last, hlast, hlocation⟩ := ih (row + 1) (List.cons_ne_nil l' ls) hrest
          refine ⟨last, by rw [List.getLast?_cons_cons, hlast], ?_⟩
          rw [locationFrom, if_neg (by omega), hlocation]
          simp only [List.length_cons, Prod.mk.injEq, and_true]
          omega

/-- **An offset beyond the text** is the end of its last line. -/
theorem location_beyond {cs : List Char} {offset : Int} (h : (cs.length : Int) < offset) :
    ∃ last, (lines cs).getLast? = some last ∧
      location cs offset = ((lines cs).length - 1, (last.length : Int)) := by
  have hle : (lineOffset (lines cs) (lines cs).length : Int) ≤ offset := by
    rw [lineOffset_length]
    omega
  obtain ⟨last, hlast, hlocation⟩ := locationFrom_beyond 0 (lines_ne_nil cs) hle
  exact ⟨last, hlast, by rw [location, hlocation, Nat.zero_add]⟩

end QueryDesk.Text
