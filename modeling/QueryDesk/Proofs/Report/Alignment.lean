import Mathlib.Algebra.GroupWithZero.Nat
import Mathlib.Algebra.Order.BigOperators.Group.List
import Mathlib.Algebra.Order.Group.Nat
import QueryDesk.Proofs.Report.Rendering

/-!
# Whether the columns of a table stand in line

The widths of the columns are settled before the first line is written, from the
names and the first hundred rows.  A line is then put together field by field, and
nobody looks at its length again: the table is in line because each field is as wide
as its column.  A field that is cut keeps two characters fewer than its column has
and ends in two points, which takes a column of two characters at least.  Where a
narrower column meets a longer cell the field spills over, and the line with it.
That cell can only stand behind the rows that settled the widths.

All this is said of texts.  A row with a cell that has none ends the table; among the
rows that settle the widths it keeps the table from being begun.

## Main results

* `settled_widths` — the widths of a table, and which texts settle them.
* `drop_sideBySide` — where a field begins, by the widths of those before it.
* `shows_fitted`, `lt_length_fitted` — a field shows its cell, or it spills.
* `rows_lined_up` — the lines of a table.
* `print_breaks_off_iff` — which results are not printed to their end.
* `narrow_column_spills` — a cell that spills over its column.
-/

namespace QueryDesk.Report

open Execution (Result)

/-! ## The widths of the columns -/

/-- The texts that settle the width of a column: its name, and its cells in the
first rows. -/
def settling (columns : List String) (sample : List (List String)) (j : Nat) : List String :=
  columns[j]?.toList ++ sample.filterMap fun texts => texts[j]?

/-- A width is that of the longest of some texts, or the greatest there is. -/
structure WidthOf (texts : List String) (w : Nat) : Prop where
  within : ∀ t ∈ texts, min t.length widthLimit ≤ w
  attained : ∃ t ∈ texts, w = min t.length widthLimit

theorem WidthOf.le {texts : List String} {w : Nat} (h : WidthOf texts w) : w ≤ widthLimit := by
  obtain ⟨t, -, rfl⟩ := h.attained
  exact Nat.min_le_right ..

theorem widthOf_singleton (t : String) : WidthOf [t] (min t.length widthLimit) :=
  ⟨fun s hs => by rw [List.mem_singleton.mp hs], t, List.mem_singleton_self t, rfl⟩

/-- One more text makes a column wider if it is longer. -/
theorem WidthOf.concat {texts : List String} {w : Nat} (h : WidthOf texts w) (t : String) :
    WidthOf (texts ++ [t]) (min widthLimit (max w t.length)) := by
  have hle := h.le
  refine ⟨fun s hs => ?_, ?_⟩
  · rcases List.mem_append.mp hs with hold | hnew
    · have hwithin := h.within s hold
      omega
    · rw [List.mem_singleton.mp hnew]
      omega
  · rcases Nat.le_total t.length w with hshort | hlong
    · obtain ⟨s, hs, hw⟩ := h.attained
      exact ⟨s, List.mem_append_left _ hs, by omega⟩
    · exact ⟨t, List.mem_append_right _ (List.mem_singleton_self t), by omega⟩

/-- The widths of all columns are settled by the texts of some rows. -/
structure Settled (columns : List String) (sample : List (List String)) (ws : List Nat) :
    Prop where
  length : ws.length = columns.length
  width : ∀ j w, ws[j]? = some w → WidthOf (settling columns sample j) w

/-- The widths after the texts of one more row. -/
def widerBy (ws : List Nat) (texts : List String) : List Nat :=
  List.zipWith (fun w text => min widthLimit (max w text.length)) ws texts

theorem settled_names (columns : List String) :
    Settled columns [] (columns.map fun c => min c.length widthLimit) := by
  refine ⟨List.length_map .., fun j w hw => ?_⟩
  obtain ⟨c, hc, rfl⟩ : ∃ c, columns[j]? = some c ∧ min c.length widthLimit = w := by
    simpa using hw
  rw [settling, hc]
  exact widthOf_singleton c

/-- One more row settles the widths together with those before it. -/
theorem Settled.concat {columns : List String} {sample : List (List String)} {ws : List Nat}
    (h : Settled columns sample ws) {texts : List String} (hrow : texts.length = columns.length) :
    Settled columns (sample ++ [texts]) (widerBy ws texts) := by
  refine ⟨?_, fun j w hw => ?_⟩
  · rw [widerBy, List.length_zipWith, hrow, h.length, Nat.min_self]
  · obtain ⟨w₀, t, hw₀, ht, rfl⟩ := List.getElem?_zipWith_eq_some.mp hw
    have htexts : settling columns (sample ++ [texts]) j = settling columns sample j ++ [t] := by
      simp [settling, ht]
    rw [htexts]
    exact (h.width j w₀ hw₀).concat t

variable (room : Nat)

/-- A row with a cell for each column is taken into account by its texts. -/
theorem widened_eq {ws : List Nat} {row : List Value} (h : row.length = ws.length) :
    widened room ws row = ((row.mapM (Value.cell room)).map (widerBy ws)).mapError .cell := by
  induction ws generalizing row with
  | nil =>
      obtain rfl := List.length_eq_zero_iff.mp h
      rfl
  | cons w ws ih =>
      obtain ⟨v, vs, rfl⟩ := List.exists_cons_of_length_eq_add_one h
      rw [widened, ih (by simpa using h), List.mapM_cons]
      cases v.cell room with
      | error e => rfl
      | ok text => cases vs.mapM (Value.cell room) <;> rfl

/-- The widths are settled by the texts of the first rows, unless one of them has a cell
without a text. -/
theorem Settled.foldlM {columns : List String} {sample : List (List String)} {ws : List Nat}
    {rows : List (List Value)} (h : Settled columns sample ws)
    (hrows : ∀ row ∈ rows, row.length = columns.length) :
    (∃ e, rows.mapM (·.mapM (Value.cell room)) = .error e ∧
        rows.foldlM (widened room) ws = .error (.cell e)) ∨
      ∃ texts ws', rows.mapM (·.mapM (Value.cell room)) = .ok texts ∧
        rows.foldlM (widened room) ws = .ok ws' ∧ Settled columns (sample ++ texts) ws' := by
  induction rows generalizing sample ws with
  | nil => exact .inr ⟨[], ws, rfl, rfl, by rwa [List.append_nil]⟩
  | cons row rows ih =>
      obtain ⟨hrow, hrows⟩ := List.forall_mem_cons.mp hrows
      have hwidened := widened_eq room (hrow.trans h.length.symm)
      rw [List.mapM_cons, List.foldlM_cons, hwidened]
      cases htexts : row.mapM (Value.cell room) with
      | error e => exact .inl ⟨e, rfl, rfl⟩
      | ok texts =>
          have hlength : texts.length = columns.length :=
            (mapM_eq_ok_iff.mp htexts).length_eq.symm.trans hrow
          rcases ih (h.concat hlength) hrows with ⟨e, hmap, hfold⟩ | ⟨more, ws', hmap, hfold, hs⟩
          · exact .inl ⟨e, by rw [hmap]; rfl, hfold⟩
          · rw [List.append_assoc] at hs
            exact .inr ⟨texts :: more, ws', by rw [hmap]; rfl, hfold, hs⟩

/-- **The widths of a table** whose rows have a cell for each column: the names and the
first rows settle them, unless one of these has a cell without a text. -/
theorem settled_widths {r : Result} (h : ∀ row ∈ r.rows, row.length = r.columns.length) :
    (∃ e, (r.rows.take sampleSize).mapM (·.mapM (Value.cell room)) = .error e ∧
        widths room r = .error (.cell e)) ∨
      ∃ texts ws, (r.rows.take sampleSize).mapM (·.mapM (Value.cell room)) = .ok texts ∧
        widths room r = .ok ws ∧ Settled r.columns texts ws := by
  have hrows : ∀ row ∈ r.rows.take sampleSize, row.length = r.columns.length := fun row hrow =>
    h row (List.mem_of_mem_take hrow)
  have hfold := (settled_names r.columns).foldlM room hrows
  simp only [List.nil_append] at hfold
  exact hfold

/-! ## Fields -/

/-- A field of a width shows a text. -/
inductive Shows (w : Nat) (text : List Char) : List Char → Prop where
  /-- All of it, with blanks behind it. -/
  | whole (blanks : Nat) (h : text.length + blanks = w) :
      Shows w text (text ++ List.replicate blanks ' ')
  /-- Its beginning, as it is too long, and two points. -/
  | cut {kept : List Char} (hlong : w < text.length) (hkept : kept <+: text)
      (h : kept.length + 2 = w) : Shows w text (kept ++ ['.', '.'])

theorem Shows.length {w : Nat} {text field : List Char} (h : Shows w text field) :
    field.length = w := by
  cases h with
  | whole blanks h => rw [List.length_append, List.length_replicate, h]
  | cut hlong hkept h => rw [List.length_append, ← h]; rfl

/-- A text that is longer than a column of less than two characters spills. -/
def Spills (w : Nat) (text : List Char) : Prop := w < 2 ∧ w < text.length

theorem padded_of_le {w : Nat} {cs : List Char} (h : w ≤ cs.length) : padded w cs = cs := by
  rw [padded, Nat.sub_eq_zero_of_le h, List.replicate_zero, List.append_nil]

theorem length_padded {w : Nat} {cs : List Char} (h : cs.length ≤ w) : (padded w cs).length = w := by
  rw [padded, List.length_append, List.length_replicate]
  omega

/-- **A field shows its text** unless the text spills. -/
theorem shows_fitted {w : Nat} {text : List Char} (h : ¬ Spills w text) :
    Shows w text (fitted w text) := by
  unfold fitted
  split
  · rename_i hlong
    have hw : 2 ≤ w := by
      by_contra hnarrow
      exact h ⟨Nat.lt_of_not_le hnarrow, hlong⟩
    have hkept : (text.take (w - 2)).length + 2 = w := by
      rw [List.length_take]
      omega
    rw [if_pos hw, padded_of_le (by rw [List.length_append]; exact hkept.ge)]
    exact .cut hlong (List.take_prefix ..) hkept
  · rename_i hshort
    exact .whole (w - text.length) (by omega)

/-- **A text that spills makes its field too wide.** -/
theorem lt_length_fitted {w : Nat} {text : List Char} (h : Spills w text) :
    w < (fitted w text).length := by
  obtain ⟨hnarrow, hlong⟩ := h
  have hkept : w < (text.take (text.length - (2 - w)) ++ ['.', '.']).length := by
    rw [List.length_append, List.length_take, List.length_cons, List.length_cons, List.length_nil]
    omega
  rw [fitted, if_pos hlong, if_neg (by omega), padded_of_le hkept.le]
  exact hkept

theorem le_length_fitted (w : Nat) (text : List Char) : w ≤ (fitted w text).length := by
  by_cases hspills : Spills w text
  · exact (lt_length_fitted hspills).le
  · exact (shows_fitted hspills).length.ge

/-! ## Lines -/

/-- What stands between two fields. -/
def separator : List Char := [' ', '|', ' ']

/-- Where a column begins in a line. -/
def columnStart (ws : List Nat) (j : Nat) : Nat := (ws.take j).sum + 3 * j

/-- Where a column ends in a line. -/
def columnEnd (ws : List Nat) (j : Nat) : Nat := (ws.take (j + 1)).sum + 3 * j

/-- A line is as long as its columns need, with the separators where these end. -/
structure Spaced (ws : List Nat) (line : List Char) : Prop where
  length : line.length = ws.sum + 3 * (ws.length - 1)
  separators : ∀ j, j + 1 < ws.length → (line.drop (columnEnd ws j)).take 3 = separator

theorem sideBySide_cons (c d : List Char) (cells : List (List Char)) :
    sideBySide (c :: d :: cells) = c ++ (separator ++ sideBySide (d :: cells)) := by
  rw [sideBySide, List.intercalate_cons_cons, List.append_assoc]
  rfl

theorem length_sideBySide (cells : List (List Char)) :
    (sideBySide cells).length = (cells.map List.length).sum + 3 * (cells.length - 1) := by
  induction cells with
  | nil => rfl
  | cons c cells ih =>
      cases cells with
      | nil => simp [sideBySide]
      | cons d cells =>
          rw [sideBySide_cons, List.length_append, List.length_append, ih]
          simp only [separator, List.map_cons, List.sum_cons, List.length_cons, List.length_nil]
          omega

/-- **Where a field begins**, by the widths of those before it. -/
theorem drop_sideBySide {cells : List (List Char)} {j : Nat} (h : j < cells.length) :
    (sideBySide cells).drop (columnStart (cells.map List.length) j) = sideBySide (cells.drop j) := by
  induction j generalizing cells with
  | zero => rfl
  | succ j ih =>
      obtain ⟨c, d, rest, rfl⟩ : ∃ c d rest, cells = c :: d :: rest := by
        match cells, h with
        | c :: d :: rest, _ => exact ⟨c, d, rest, rfl⟩
      have hstart : columnStart ((c :: d :: rest).map List.length) (j + 1) =
          c.length + (separator.length + columnStart ((d :: rest).map List.length) j) := by
        simp only [columnStart, separator, List.map_cons, List.take_succ_cons, List.sum_cons,
          List.length_cons, List.length_nil]
        omega
      rw [hstart, sideBySide_cons, List.drop_length_add_append, List.drop_length_add_append]
      exact ih (by simpa using h)

/-- A field stands where its column begins. -/
theorem field_sideBySide {cells : List (List Char)} {j : Nat} {field : List Char}
    (h : cells[j]? = some field) :
    ((sideBySide cells).drop (columnStart (cells.map List.length) j)).take field.length =
      field := by
  obtain ⟨hj, hfield⟩ := List.getElem?_eq_some_iff.mp h
  rw [drop_sideBySide hj, List.drop_eq_getElem_cons hj, hfield]
  cases cells.drop (j + 1) with
  | nil => simp [sideBySide]
  | cons d rest => rw [sideBySide_cons, List.take_left]

/-- **Texts side by side are spaced** by their lengths. -/
theorem spaced_sideBySide (cells : List (List Char)) :
    Spaced (cells.map List.length) (sideBySide cells) := by
  refine ⟨by rw [length_sideBySide, List.length_map], fun j hj => ?_⟩
  rw [List.length_map] at hj
  have hbefore : j < cells.length := by omega
  have hend : columnEnd (cells.map List.length) j =
      columnStart (cells.map List.length) j + cells[j].length := by
    simp only [columnEnd, columnStart]
    rw [List.sum_take_succ _ j (by simpa using hbefore), List.getElem_map]
    omega
  rw [hend, ← List.drop_drop, drop_sideBySide hbefore, List.drop_eq_getElem_cons hbefore,
    List.drop_eq_getElem_cons hj, sideBySide_cons, List.drop_left]
  have hwidth : separator.length = 3 := rfl
  rw [← hwidth, List.take_left]

/-! ## Tables -/

/-- The fields of a row, by its texts. -/
def fields (ws : List Nat) (texts : List String) : List (List Char) :=
  (texts.zip ws).map fun (text, w) => fitted w text.toList

/-- A row with a cell for each column has a line if its cells have texts. -/
theorem rowLine_eq {ws : List Nat} {row : List Value} (h : row.length = ws.length) :
    rowLine room ws row =
      ((row.mapM (Value.cell room)).map fun texts => sideBySide (fields ws texts)).mapError
        .cell := by
  have hfields : rowFields room ws row =
      ((row.mapM (Value.cell room)).map (fields ws)).mapError .cell := by
    induction row generalizing ws with
    | nil =>
        rw [rowFields]
        cases ws with
        | nil => rfl
        | cons w ws => cases h
    | cons v vs ih =>
        obtain ⟨w, ws, rfl⟩ := List.exists_cons_of_length_eq_add_one h.symm
        rw [rowFields, List.mapM_cons]
        cases v.cell room with
        | error e => rfl
        | ok text =>
            have hlength : vs.length = ws.length := by simpa using h
            have htail := ih hlength
            simp only [Except.mapError, bind, Except.bind, htail]
            cases vs.mapM (Value.cell room) <;> rfl
  rw [rowLine, hfields]
  cases row.mapM (Value.cell room) <;> rfl

/-- A row spills if one of its texts does. -/
def RowSpills (ws : List Nat) (texts : List String) : Prop :=
  ∃ (j w : Nat) (t : String), ws[j]? = some w ∧ texts[j]? = some t ∧ Spills w t.toList

/-- A line shows the texts of a row, each in its column. -/
structure LinedUp (ws : List Nat) (texts : List String) (line : List Char) : Prop where
  spaced : Spaced ws line
  cells : ∀ j w t, ws[j]? = some w → texts[j]? = some t →
    Shows w t.toList ((line.drop (columnStart ws j)).take w)

section Rows

variable {ws : List Nat} {texts : List String}

theorem mem_zip_iff {t : String} {w : Nat} :
    (t, w) ∈ texts.zip ws ↔ ∃ j : Nat, ws[j]? = some w ∧ texts[j]? = some t := by
  simp only [List.mem_iff_getElem?, List.getElem?_zip_eq_some, and_comm]

/-- **A row that does not spill is lined up.** -/
theorem linedUp_of_not_spills (h : texts.length = ws.length) (hfits : ¬ RowSpills ws texts) :
    LinedUp ws texts (sideBySide (fields ws texts)) := by
  have hshows : ∀ t w, (t, w) ∈ texts.zip ws → Shows w t.toList (fitted w t.toList) := by
    intro t w hmem
    obtain ⟨j, hw, ht⟩ := mem_zip_iff.mp hmem
    apply shows_fitted
    intro hspills
    exact hfits ⟨j, w, t, hw, ht, hspills⟩
  have hlengths : (fields ws texts).map List.length = ws := by
    calc (fields ws texts).map List.length
        = (texts.zip ws).map Prod.snd := by
          rw [fields, List.map_map]
          exact List.map_congr_left fun p hp => (hshows p.1 p.2 hp).length
      _ = ws := List.map_snd_zip h.ge
  refine ⟨?_, fun j w t hw ht => ?_⟩
  · have hspaced := spaced_sideBySide (fields ws texts)
    rwa [hlengths] at hspaced
  · have hshown := hshows t w (mem_zip_iff.mpr ⟨j, hw, ht⟩)
    have hfield : (fields ws texts)[j]? = some (fitted w t.toList) := by
      have hpair : (texts.zip ws)[j]? = some (t, w) := List.getElem?_zip_eq_some.mpr ⟨ht, hw⟩
      rw [fields, List.getElem?_map, hpair]
      rfl
    have htaken := field_sideBySide hfield
    rw [hlengths, hshown.length] at htaken
    rwa [htaken]

/-- **A row that spills has too long a line.** -/
theorem lt_length_of_spills (h : texts.length = ws.length) (hspills : RowSpills ws texts) :
    ws.sum + 3 * (ws.length - 1) < (sideBySide (fields ws texts)).length := by
  obtain ⟨j, w, t, hw, ht, htext⟩ := hspills
  have hsum : ((texts.zip ws).map Prod.snd).sum < ((fields ws texts).map List.length).sum := by
    rw [fields, List.map_map]
    apply List.sum_lt_sum
    · intro p _
      exact le_length_fitted p.2 p.1.toList
    · exact ⟨(t, w), mem_zip_iff.mpr ⟨j, hw, ht⟩, lt_length_fitted htext⟩
  have hcount : (fields ws texts).length = ws.length := by
    rw [fields, List.length_map, List.length_zip, h, Nat.min_self]
  rw [List.map_snd_zip h.ge] at hsum
  rw [length_sideBySide, hcount]
  omega

/-- A row that settled the widths does not spill. -/
theorem Settled.not_spills {columns : List String} {sample : List (List String)}
    (h : Settled columns sample ws) (hrow : texts ∈ sample) : ¬ RowSpills ws texts := by
  rintro ⟨j, w, t, hw, ht, hnarrow, hlong⟩
  have hmem : t ∈ settling columns sample j := by
    apply List.mem_append_right
    exact List.mem_filterMap.mpr ⟨texts, hrow, ht⟩
  have hwithin := (h.width j w hw).within t hmem
  rw [String.length_toList] at hlong
  have hlimit : widthLimit = 50 := rfl
  omega

end Rows

/-- The line of column names is spaced by the widths, as the lines below it are. -/
theorem spaced_headerLine {columns : List String} {ws : List Nat}
    (h : ws.length = columns.length) : Spaced ws (headerLine ws columns) := by
  let names := (columns.zip ws).map fun p => padded p.2 (p.1.toList.take p.2)
  have hlengths : names.map List.length = ws := by
    calc names.map List.length
        = (columns.zip ws).map Prod.snd := by
          rw [List.map_map]
          exact List.map_congr_left fun p _ => length_padded (List.length_take_le ..)
      _ = ws := List.map_snd_zip h.le
  have hspaced := spaced_sideBySide names
  rwa [hlengths] at hspaced

/-- Some lines, each with its end. -/
def written (lines : List (List Char)) : String := String.ofList (lines.flatMap (· ++ ['\n']))

/-- What is printed of a result: the names, a line of dashes and a line for each row up
to one with a cell that has no text. `ws` are the widths of the columns. -/
structure Tabulated (room : Nat) (r : Result) (texts : List (List String))
    (failure : Option Unshown) (ws : List Nat) (header : List Char) (lines : List (List Char)) :
    Prop where
  rendered : Reaches (·.mapM (Value.cell room)) r.rows texts failure
  printed : table room r =
    let out := written (header :: List.replicate header.length '-' :: lines)
    { out := if failure = none then out ++ countLine r else out, failure := failure.map .cell }
  settled : Settled r.columns (texts.take sampleSize) ws
  spaced : Spaced ws header
  count : lines.length = texts.length
  complete : (∀ row ∈ r.rows, ∀ v ∈ row, ∃ t, v.cell room = .ok t) →
    failure = none ∧ lines.length = r.rows.length
  fits : ∀ (i : Nat) row line, texts[i]? = some row → lines[i]? = some line → ¬ RowSpills ws row →
    line.length = header.length ∧ LinedUp ws row line
  spills : ∀ (i : Nat) row line, texts[i]? = some row → lines[i]? = some line → RowSpills ws row →
    header.length < line.length ∧ sampleSize ≤ i

/-- **The lines of a table** whose rows have a cell for each column.  The widths are
settled by the names and the first hundred rows; if one of these has a cell without a
text, nothing is printed.  Otherwise the rows up to such a cell have lines, or all of them.

The line of a row has the length of the line of names, the separators at the same
places, and each cell in its column, as a whole or cut, unless a cell of the row is
longer than a column of less than two characters.  Then the line is longer than the
line of names.  This befalls no row of the first hundred. -/
theorem rows_lined_up (room : Nat) (r : Result)
    (h : ∀ row ∈ r.rows, row.length = r.columns.length) :
    (∃ e, (r.rows.take sampleSize).mapM (·.mapM (Value.cell room)) = .error e ∧
        table room r = { failure := some (.cell e) }) ∨
      ∃ texts failure ws header lines, Tabulated room r texts failure ws header lines := by
  rcases settled_widths room h with
    ⟨e, hsample, hwidths⟩ | ⟨sample, ws, hsample, hwidths, hsettled⟩
  · refine .inl ⟨e, hsample, ?_⟩
    simp only [table, tableLines, hwidths]
    rfl
  right
  have hrendered := reaches_upTo (fun row => row.mapM (Value.cell room)) r.rows
  obtain ⟨texts, failure, hup⟩ : ∃ texts failure,
      upTo (fun row => row.mapM (Value.cell room)) r.rows = (texts, failure) := ⟨_, _, rfl⟩
  rw [hup] at hrendered
  have hheader : Spaced ws (headerLine ws r.columns) := spaced_headerLine hsettled.length
  let line (row : List String) := sideBySide (fields ws row)
  have hlines : upTo (rowLine room ws) r.rows = (texts.map line, failure.map .cell) := by
    have hmap : upTo (rowLine room ws) r.rows =
        ((upTo (fun row => row.mapM (Value.cell room)) r.rows).1.map line,
          (upTo (fun row => row.mapM (Value.cell room)) r.rows).2.map .cell) :=
      upTo_map fun row hrow => rowLine_eq room ((h row hrow).trans hsettled.length.symm)
    rw [hmap, hup]
  have hwidth : ∀ {i : Nat} {row}, texts[i]? = some row → row.length = ws.length := by
    intro i row hrow
    obtain ⟨cells, hcells, hmap⟩ := hrendered.at hrow
    rw [← (mapM_eq_ok_iff.mp hmap).length_eq, h cells (List.mem_of_getElem? hcells),
      hsettled.length]
  have hline : ∀ {i : Nat} {row l}, texts[i]? = some row → (texts.map line)[i]? = some l →
      line row = l := by
    intro i row l hrow hl
    simpa [hrow] using hl
  have hsettled' : Settled r.columns (texts.take sampleSize) ws := by
    have htaken := take_upTo hsample
    rw [hup] at htaken
    rwa [htaken]
  refine ⟨texts, failure, ws, headerLine ws r.columns, texts.map line, hrendered, ?_, hsettled',
    hheader, List.length_map .., fun hshown => ?_, ?_, ?_⟩
  · simp only [table, tableLines, hwidths, hlines, written]
    cases failure <;> rfl
  · have hnone : failure = none := by
      have hcomplete := upTo_mapM_eq_none_iff.mpr hshown
      rwa [hup] at hcomplete
    rw [List.length_map]
    exact ⟨hnone, hrendered.length_eq_iff.mpr hnone⟩
  · intro i row l hrow hat hfits
    obtain rfl := hline hrow hat
    have hlined := linedUp_of_not_spills (hwidth hrow) hfits
    exact ⟨hlined.spaced.length.trans hheader.length.symm, hlined⟩
  · intro i row l hrow hat hspills
    obtain rfl := hline hrow hat
    refine ⟨hheader.length ▸ lt_length_of_spills (hwidth hrow) hspills, ?_⟩
    by_contra hearly
    have htaken : (texts.take sampleSize)[i]? = some row := by
      rw [List.getElem?_take_of_lt (Nat.lt_of_not_le hearly), hrow]
    exact hsettled'.not_spills (List.mem_of_getElem? htaken) hspills

/-- A table with a text that is too long for any column. -/
theorem rows_lined_up_long_text :
    let room : Room := {}
    let r : Result :=
      { columns := ["id", "note"]
        rows := [[.int 1, .text (String.ofList (List.replicate 51 'x'))], [.int 10, .null]] }
    (∀ row ∈ r.rows, row.length = r.columns.length) ∧
      ∃ texts failure ws header lines, Tabulated room.shown r texts failure ws header lines := by
  intro room r
  have hrows : ∀ row ∈ r.rows, row.length = r.columns.length := by decide
  refine ⟨hrows, (rows_lined_up room.shown r hrows).resolve_left ?_⟩
  rintro ⟨e, herror, -⟩
  have hnone : (r.rows.take sampleSize).mapM (·.mapM (Value.cell room.shown)) =
      .ok [["1", String.ofList (List.replicate 51 'x')], ["10", "NULL"]] := by decide +kernel
  rw [hnone] at herror
  cases herror

/-- **A cell spills over a narrow column** if it stands behind the rows that settled the
width: its line has three characters below a line of names with one. -/
theorem narrow_column_spills :
    let room : Room := {}
    let r : Result :=
      { columns := ["n"], rows := List.replicate 100 [.text "a"] ++ [[.text "bc"]] }
    (∀ row ∈ r.rows, row.length = r.columns.length) ∧
      tableLines room.shown r =
        (['n'] :: ['-'] :: (List.replicate 100 ['a'] ++ [['b', '.', '.']]), none) := by
  decide +kernel

/-! ## Results that break off -/

/-- A row breaks a table off if it has more cells than there are columns, or one without
a text. -/
def Breaks (room columns : Nat) (row : List Value) : Prop :=
  columns < row.length ∨ ∃ v ∈ row, ∃ e, v.cell room = .error e

theorem widened_cases (ws : List Nat) (row : List Value) :
    (Breaks room ws.length row ∧ ∃ e, widened room ws row = .error e) ∨
      ¬ Breaks room ws.length row ∧
        ∃ ws', widened room ws row = .ok ws' ∧ ws'.length = ws.length := by
  induction row generalizing ws with
  | nil => exact .inr ⟨by simp [Breaks], ws, by rw [widened], rfl⟩
  | cons v vs ih =>
      cases ws with
      | nil => exact .inl ⟨.inl (by simp), .extraCell, rfl⟩
      | cons w ws =>
          rw [widened]
          cases hv : v.cell room with
          | error e => exact .inl ⟨.inr ⟨v, List.mem_cons_self, e, hv⟩, .cell e, rfl⟩
          | ok text =>
              have hbreaks : Breaks room (w :: ws).length (v :: vs) ↔
                  Breaks room ws.length vs := by
                simp [Breaks, hv]
              rw [hbreaks]
              rcases ih ws with ⟨hbreak, e, he⟩ | ⟨hno, ws', hws', hlength⟩
              · exact .inl ⟨hbreak, e, by rw [he]; rfl⟩
              · refine .inr ⟨hno, min widthLimit (max w text.length) :: ws', by rw [hws']; rfl, ?_⟩
                rw [List.length_cons, List.length_cons, hlength]

theorem foldlM_widened_cases (ws : List Nat) (rows : List (List Value)) :
    ((∃ row ∈ rows, Breaks room ws.length row) ∧ ∃ e, rows.foldlM (widened room) ws = .error e) ∨
      (∀ row ∈ rows, ¬ Breaks room ws.length row) ∧
        ∃ ws', rows.foldlM (widened room) ws = .ok ws' ∧ ws'.length = ws.length := by
  induction rows generalizing ws with
  | nil => exact .inr ⟨by simp, ws, rfl, rfl⟩
  | cons row rows ih =>
      rw [List.foldlM_cons]
      rcases widened_cases room ws row with ⟨hbreak, e, he⟩ | ⟨hno, ws₁, hws₁, hlength⟩
      · exact .inl ⟨⟨row, List.mem_cons_self, hbreak⟩, e, by rw [he]; rfl⟩
      · have hrest := ih ws₁
        rw [hlength] at hrest
        rw [hws₁]
        rcases hrest with ⟨⟨row', hrow', hbreak⟩, he⟩ | ⟨hnone, ws₂, hws₂, hlength'⟩
        · exact .inl ⟨⟨row', List.mem_cons_of_mem _ hrow', hbreak⟩, he⟩
        · exact .inr ⟨List.forall_mem_cons.mpr ⟨hno, hnone⟩, ws₂, hws₂, hlength'⟩

theorem rowFields_error_iff {ws : List Nat} {row : List Value} :
    (∃ e, rowFields room ws row = .error e) ↔ Breaks room ws.length row := by
  induction row generalizing ws with
  | nil => simp [rowFields, Breaks]
  | cons v vs ih =>
      rw [rowFields]
      cases hv : v.cell room with
      | error e => simp [Breaks, hv, bind, Except.bind, Except.mapError]
      | ok text =>
          cases ws with
          | nil => simp [Breaks, bind, Except.bind, Except.mapError]
          | cons w ws =>
              have hbreaks : Breaks room (w :: ws).length (v :: vs) ↔
                  Breaks room ws.length vs := by
                simp [Breaks, hv]
              rw [hbreaks, ← ih]
              simp only [Except.mapError, bind, Except.bind]
              cases rowFields room ws vs <;> simp [pure, Except.pure]

theorem rowLine_error_iff {ws : List Nat} {row : List Value} :
    (∃ e, rowLine room ws row = .error e) ↔ Breaks room ws.length row := by
  rw [← rowFields_error_iff, rowLine]
  cases rowFields room ws row <;> simp [Except.map]

/-- **A table breaks off** exactly at a row that does it. -/
theorem tableLines_breaks_off_iff {r : Result} :
    (tableLines room r).2 ≠ none ↔ ∃ row ∈ r.rows, Breaks room r.columns.length row := by
  have hfold := foldlM_widened_cases room (r.columns.map fun c => min c.length widthLimit)
    (r.rows.take sampleSize)
  rw [List.length_map] at hfold
  unfold tableLines
  rcases hfold with ⟨⟨row, hrow, hbreak⟩, e, he⟩ | ⟨-, ws, hws, hlength⟩
  · have hwidths : widths room r = .error e := he
    simp only [hwidths, ne_eq, reduceCtorEq, not_false_eq_true, true_iff]
    exact ⟨row, List.mem_of_mem_take hrow, hbreak⟩
  · have hwidths : widths room r = .ok ws := hws
    simp only [hwidths]
    rw [upTo_failure_iff]
    simp only [rowLine_error_iff, hlength]

/-- What keeps a result from being printed to its end in a format. -/
def Unprinted (room : Room) (r : Result) : Format → Prop
  | .table => ∃ row ∈ r.rows, Breaks room.shown r.columns.length row
  | .csv => ∃ row ∈ r.rows, ∃ v ∈ row, ∃ e, v.cell room.shown = .error e
  | .json => ∃ o, Json.obstacle? false room.printed
      (.list (r.rows.map (rowObject r.columns))) = some o

/-- **What is printed is all there**, unless something in its format keeps it from that. -/
theorem print_breaks_off_iff {room : Room} {format : Format} {r : Result} :
    (print room format r).failure ≠ none ↔ r.columns ≠ [] ∧ Unprinted room r format := by
  unfold print
  split
  next hrows =>
      have hnone : r.columns = [] := by simpa [Result.returnsRows] using hrows
      simp [hnone]
  next hrows =>
      have hsome : r.columns ≠ [] := by simpa [Result.returnsRows] using hrows
      simp only [hsome, ne_eq, not_false_eq_true, true_and]
      cases format with
      | table => exact tableLines_breaks_off_iff room.shown
      | csv =>
          simp only [Unprinted, csv, Option.map_eq_none_iff]
          rw [← ne_eq, upTo_failure_iff]
          simp only [csvRecord_error_iff]
      | json =>
          simp only [Unprinted, json]
          cases Json.obstacle? false room.printed (.list (r.rows.map (rowObject r.columns))) <;>
            simp

end QueryDesk.Report
