import QueryDesk.Room
import QueryDesk.Value.Text

/-!
# Tables as a schema source reports them

A table with the names of its columns, in order, and the reading of one from a
raw mapping.
-/

namespace QueryDesk.Schema

/-- A table with its columns. -/
structure TableInfo where
  name : String
  columns : List String
  deriving DecidableEq, Repr

/-- Why a mapping describes no table. -/
inductive TableInfo.Error where
  /-- It has no field `table_name`. -/
  | nameless
  /-- Its columns are a value that has no parts. -/
  | columnsWithoutParts (kind : String)
  /-- A name has no text. -/
  | unshown (e : Unshown)
  deriving DecidableEq, Repr

/-- The text of an error, as it stands in a log record. -/
def TableInfo.Error.message : TableInfo.Error → String
  | .nameless => "'table_name'"
  | .columnsWithoutParts kind => "'" ++ kind ++ "' object is not iterable"
  | .unshown e => e.message

/-- The text of a name that a source gives. -/
def readName (room : Room) (v : Value) : Except Unshown String := v.plain room.shown

/-- The columns of a mapping. An empty value stands for none. -/
def columnParts (columns : Value) : Except TableInfo.Error (List Value) :=
  if columns.isEmpty then .ok []
  else
    match columns.parts? with
    | some parts => .ok parts
    | none => .error (.columnsWithoutParts columns.kindName)

/-- Reads a table from a mapping with the fields `table_name` and `columns`. The name
is read first, then the columns are taken apart and read one by one. -/
def TableInfo.ofFields (room : Room) (fields : OrderedMap String Value) :
    Except TableInfo.Error TableInfo := do
  match fields.get? "table_name" with
  | none => .error .nameless
  | some name =>
    let name ← (readName room name).mapError .unshown
    let parts ← columnParts ((fields.get? "columns").getD .null)
    pure ⟨name, ← (parts.mapM (readName room)).mapError .unshown⟩

end QueryDesk.Schema
