import QueryDesk.Report.Csv
import QueryDesk.Report.Table
import QueryDesk.Room

/-!
# Printing a result

A result in one of three formats. The number of rows is told below a table and
on the other channel for the formats that other programs read. It is not told where
the printing breaks off: tables and records are there up to the row that does it,
and of a document nothing is.
-/

namespace QueryDesk.Report

open Execution (Result)

/-- The formats. -/
inductive Format where
  | table
  | csv
  | json
  deriving DecidableEq, Repr

/-- What is printed, on the two channels. -/
structure Printout where
  out : String := ""
  err : String := ""
  /-- What broke it off, if it is not all there. -/
  failure : Option Break := none
  deriving DecidableEq, Repr

/-- The line that tells the number of rows, with an empty one before it. -/
def countLine (r : Result) : String :=
  if r.truncated then "\n(" ++ toString r.rowCount ++ " rows shown, results truncated)\n"
  else "\n(" ++ toString r.rowCount ++ " row(s) returned)\n"

/-- The table of a result. -/
def table (room : Nat) (r : Result) : Printout :=
  let (lines, failure) := tableLines room r
  let text := String.ofList (lines.flatMap (· ++ ['\n']))
  { out := if failure.isNone then text ++ countLine r else text, failure }

/-- The field of a cell. Nothing is an empty field. -/
def csvField (room : Nat) : Value → Except Unshown String
  | .null => .ok ""
  | v => v.cell room

/-- The record of a row. -/
def csvRecord (room : Nat) (row : List Value) : Except Unshown (List Char) := do
  pure (Csv.record ((← row.mapM (csvField room)).map String.toList))

/-- The records of a result, the column names first. -/
def csv (room : Nat) (r : Result) : Printout :=
  let (records, failure) := upTo (csvRecord room) r.rows
  { out := String.ofList (Csv.record (r.columns.map String.toList) ++ records.flatten)
    err := if failure.isNone then countLine r else ""
    failure := failure.map .cell }

/-- The object of a row: its cells by the names of their columns. -/
def rowObject (columns : List String) (row : List Value) : Value :=
  .object (OrderedMap.ofEntries (columns.zip row))

/-- The list of the objects of the rows. -/
def json (room : Nat) (r : Result) : Printout :=
  let document : Value := .list (r.rows.map (rowObject r.columns))
  match Json.obstacle? false room document with
  | some o => { failure := some (.document o) }
  | none => { out := Json.text document ++ "\n", err := countLine r }

/-- A result in a format. One without columns is told by the number of rows it changed. -/
def print (room : Room) (format : Format) (r : Result) : Printout :=
  if !r.returnsRows then
    { out := "Query executed successfully. Rows affected: " ++ toString r.affected ++ "\n" }
  else
    match format with
    | .table => table room.shown r
    | .csv => csv room.shown r
    | .json => json room.printed r

end QueryDesk.Report
