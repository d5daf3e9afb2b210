import QueryDesk.Text.Utf8
import QueryDesk.Value.Text

/-!
# Columns of one type

The cells of a column get a common type. The first cell that is not missing
settles it, but whole numbers make way for a real number if that is the first
other cell. Then every cell has to fit. A column whose cells do not fit one type
is shown as texts.
-/

namespace QueryDesk.Grid

open Decimal (Binary64)

/-- The types of columns. -/
inductive ColumnType where
  /-- Nothing but missing cells. -/
  | empty
  | bool
  | integer
  | real
  | text
  | binary
  deriving DecidableEq, Repr

namespace ColumnType

/-- The name of a type. -/
def name : ColumnType → String
  | empty => "null"
  | bool => "bool"
  | integer => "int64"
  | real => "double"
  | text => "string"
  | binary => "binary"

end ColumnType

/-- A column. -/
structure Column where
  type : ColumnType
  cells : List Value
  deriving Repr

/-- Why a cell does not become part of a column. -/
inductive Misfit where
  /-- It is of another type. -/
  | otherType
  /-- It is a whole number that is too large for a column of these. -/
  | tooLarge
  deriving DecidableEq, Repr

/-- The type that the cells of a column call for. `none` stands for a type that
columns do not have. -/
def inferred : List Value → Option ColumnType
  | [] => some .empty
  | .null :: cells => inferred cells
  | .int _ :: cells =>
    match cells.find? (fun | .null | .int _ => false | _ => true) with
    | some (.float _) => some .real
    | some (.list _) | some (.object _) => none
    | _ => some .integer
  | .bool _ :: _ => some .bool
  | .float _ :: _ => some .real
  | .text _ :: _ => some .text
  | .bytes _ :: _ => some .binary
  | _ => none

/-- Whether a whole number has 64 bits. -/
def isWord (n : Int) : Bool := -9223372036854775808 ≤ n && n ≤ 9223372036854775807

/-- Makes a cell fit a type. Among real numbers a truth value counts as one or
zero, and a whole number becomes a real one if it is small enough for that to be
exact whatever it is. -/
def fit (t : ColumnType) : Value → Except Misfit Value
  | .null => .ok .null
  | .bool b =>
    match t with
    | .bool => .ok (.bool b)
    | .real => .ok (.float (.ofRatio false b.toNat 1))
    | _ => .error .otherType
  | .int n =>
    match t with
    | .integer => if isWord n then .ok (.int n) else .error .tooLarge
    | .real =>
      if n.natAbs ≤ 9007199254740992 then .ok (.float (.ofRatio (n < 0) n.natAbs 1))
      else .error .otherType
    | _ => .error .otherType
  | .float x => if t = .real then .ok (.float x) else .error .otherType
  | .text s => if t = .text || t = .binary then .ok (.text s) else .error .otherType
  | .bytes bs => if t = .text || t = .binary then .ok (.bytes bs) else .error .otherType
  | _ => .error .otherType

/-- The bytes of a cell with text in it. -/
def asBytes : Value → Value
  | .text s => .bytes (Text.Utf8.encode s.toList)
  | v => v

/-- Whether a cell holds bytes. -/
def holdsBytes : Value → Bool
  | .bytes _ => true
  | _ => false

/-- Why rows do not make a table. -/
inductive TableError where
  /-- A row has no cell for a column. -/
  | missingCell
  | tooLarge
  /-- A cell that is to be a text has none. -/
  | unshown (e : Unshown)
  deriving DecidableEq, Repr

/-- A cell as text. A missing one stays missing. -/
def asText (room : Nat) : Value → Except TableError Value
  | .null => .ok .null
  | v => ((v.cell room).mapError .unshown).map .text

/-- The column of some cells. Texts among bytes are taken as their bytes. Fails
where the first cell that does not fit is a number too large, and where the cells
fit no type and one of them has no text. -/
def Column.ofCells (room : Nat) (cells : List Value) : Except TableError Column :=
  let texts := (cells.mapM (asText room)).map (Column.mk .text)
  match inferred cells with
  | none => texts
  | some t =>
    match cells.mapM (fit t) with
    | .error .tooLarge => .error .tooLarge
    | .error .otherType => texts
    | .ok cells =>
      if cells.any holdsBytes then .ok ⟨.binary, cells.map asBytes⟩ else .ok ⟨t, cells⟩

/-- The column at a place of the rows. -/
def columnAt (room : Nat) (rows : List (List Value)) (i : Nat) : Except TableError Column := do
  let cells ← rows.mapM fun row => match row[i]? with
    | some v => Except.ok v
    | none => Except.error .missingCell
  Column.ofCells room cells

/-- The columns of rows, as many as there are names. -/
def columnsOf (room : Nat) (names : List String) (rows : List (List Value)) :
    Except TableError (List Column) :=
  (List.range names.length).mapM (columnAt room rows)

/-- The widest that the contents of a column are shown. -/
def maxContentWidth : Nat := 60

/-- How a table is laid out on the screen. -/
structure Layout where
  rowCount : Nat
  /-- The labels above the columns, if there is a header. -/
  labels : Option (List String)
  /-- What stands for a missing cell. -/
  missing : String
  /-- Whether tags in cells are markup. -/
  markup : Bool
  maxWidth : Option Nat
  deriving DecidableEq, Repr

/-- The layout for a result. Without columns there is nothing to lay out. -/
def Layout.of (names : List String) (rows : List (List Value)) : Layout :=
  if names.isEmpty then ⟨0, none, "", true, none⟩
  else ⟨rows.length, some names, "NULL", false, some maxContentWidth⟩

end QueryDesk.Grid
