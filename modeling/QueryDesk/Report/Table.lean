import QueryDesk.Execution.Result
import QueryDesk.Json.Writer

/-!
# Results as tables

Columns side by side, each as wide as the widest of its cells among the first
hundred rows, but not wider than fifty characters. A cell that does not fit is
cut and ends in two points.

A table breaks off at a cell that has no text or no column. It is printed up to the
row before; but a table whose widths cannot be settled is not begun.
-/

namespace QueryDesk.Report

open Execution (Result)

/-- The greatest width of a column. -/
def widthLimit : Nat := 50

/-- The number of rows that decide the widths. -/
def sampleSize : Nat := 100

/-- A text with blanks behind it up to a width. -/
def padded (width : Nat) (cs : List Char) : List Char :=
  cs ++ List.replicate (width - cs.length) ' '

/-- A cell in a column: padded, or cut so that two points end it. In a column
of less than two characters the cut leaves out as many characters at the end
as are missing to two. -/
def fitted (width : Nat) (cs : List Char) : List Char :=
  if width < cs.length then
    let kept := if 2 ≤ width then width - 2 else cs.length - (2 - width)
    padded width (cs.take kept ++ ['.', '.'])
  else padded width cs

/-- What breaks the printing of a result off. -/
inductive Break where
  /-- A row has more cells than the result has columns. -/
  | extraCell
  /-- A cell has no text. -/
  | cell (e : Unshown)
  /-- A document of the cells cannot be written. -/
  | document (o : Json.Obstacle)
  deriving DecidableEq, Repr

/-- What is made of the items of a list up to the first that fails, and that failure. -/
def upTo {α β ε : Type} (f : α → Except ε β) : List α → List β × Option ε
  | [] => ([], none)
  | a :: as =>
    match f a with
    | .error e => ([], some e)
    | .ok b =>
      let (bs, e) := upTo f as
      (b :: bs, e)

/-- The widths after one more row is taken into account. A row with more cells
than there are columns has no place. -/
def widened (room : Nat) : List Nat → List Value → Except Break (List Nat)
  | ws, [] => .ok ws
  | [], _ :: _ => .error .extraCell
  | w :: ws, v :: vs => do
    let text ← (v.cell room).mapError .cell
    pure (min widthLimit (max w text.length) :: (← widened room ws vs))

/-- The widths of the columns of a result. -/
def widths (room : Nat) (r : Result) : Except Break (List Nat) :=
  (r.rows.take sampleSize).foldlM (widened room) (r.columns.map fun c => min c.length widthLimit)

/-- Texts side by side. -/
def sideBySide (cells : List (List Char)) : List Char := [' ', '|', ' '].intercalate cells

/-- The line of column names. -/
def headerLine (ws : List Nat) (columns : List String) : List Char :=
  sideBySide ((columns.zip ws).map fun (c, w) => padded w (c.toList.take w))

/-- The fields of a row. A cell is rendered before its column is looked up. -/
def rowFields (room : Nat) : List Nat → List Value → Except Break (List (List Char))
  | _, [] => .ok []
  | ws, v :: vs => do
    let text ← (v.cell room).mapError .cell
    match ws with
    | [] => .error .extraCell
    | w :: ws => pure (fitted w text.toList :: (← rowFields room ws vs))

/-- The line of a row, which ends at its last cell. -/
def rowLine (room : Nat) (ws : List Nat) (row : List Value) : Except Break (List Char) :=
  (rowFields room ws row).map sideBySide

/-- The lines of a table, and what breaks it off. -/
def tableLines (room : Nat) (r : Result) : List (List Char) × Option Break :=
  match widths room r with
  | .error e => ([], some e)
  | .ok ws =>
    let header := headerLine ws r.columns
    let (lines, e) := upTo (rowLine room ws) r.rows
    (header :: List.replicate header.length '-' :: lines, e)

end QueryDesk.Report
