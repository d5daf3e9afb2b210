import QueryDesk.Sqlite.Backend

/-!
# A driver with a script

A driver that answers statements from a script, one item for each, for use
where no database is at hand. It can also be given the tables of a database;
then it answers the statements on metadata from these.
-/

namespace QueryDesk.Sqlite

open Execution (Failure)

/-- The answer to one statement. -/
structure ScriptItem where
  /-- The failure of the statement itself. -/
  failure : Option Failure := none
  columns : List String := []
  rows : List (List Value) := []
  rowCount : Int := -1
  changes : Int := 0
  /-- The failure when rows are fetched. -/
  fetchFailure : Option Failure := none
  /-- The failure of the commits until the next statement. -/
  commitFailure : Option Failure := none
  deriving Repr

/-- What is known of a connection of the script. -/
structure ScriptConnection where
  totalChanges : Int := 0
  rows : List (List Value) := []
  fetchFailure : Option Failure := none
  commitFailure : Option Failure := none
  deriving Repr

/-- A script that is being played. -/
structure Script where
  items : List ScriptItem
  /-- The tables with their columns, if the metadata is answered from them. -/
  tables : Option (List Schema.TableInfo) := none
  /-- The connections, by their handles. -/
  connections : OrderedMap Nat ScriptConnection := []
  opened : Nat := 0
  deriving Repr

namespace Script

/-- The columns and rows that the tables give for a statement on metadata. What is
asked of a table that is not among them is left to the script. -/
def metadata? (s : Script) (sql : String) : Option (List String × List (List Value)) := do
  let tables ← s.tables
  if "SELECT name FROM sqlite_master WHERE".toList.isPrefixOf sql.toList then
    pure (["name"], tables.map fun t => [.text t.name])
  else
    let opening := "PRAGMA table_info(".toList
    if !opening.isPrefixOf sql.toList then none
    else
      let (name, rest) ← Text.Quoted.read? (sql.toList.drop opening.length)
      if rest ≠ [')'] then none
      else
        let table ← tables.find? fun t => t.name.toList = name
        pure (["cid", "name", "type", "notnull", "dflt_value", "pk"],
          table.columns.zipIdx.map fun (c, i) =>
            [.int i, .text c, .text "TEXT", .int 0, .null, .int 0])

/-- What is known of a connection. -/
def connection (s : Script) (h : Handle) : ScriptConnection := (s.connections.get? h).getD {}

/-- Plays the next item for a statement. -/
def execute (h : Handle) (sql : String) (s : Script) : Except Failure Cursor × Script :=
  let c := s.connection h
  match s.metadata? sql with
  | some (columns, rows) =>
    (.ok { columns, totalChanges := c.totalChanges },
      { s with connections := s.connections.put h { c with rows, fetchFailure := none } })
  | none =>
    match s.items with
    | [] => (.error (.make .operational (some "script exhausted")), s)
    | item :: items =>
      let c : ScriptConnection :=
        { totalChanges := c.totalChanges + item.changes, rows := item.rows
          fetchFailure := item.fetchFailure, commitFailure := item.commitFailure }
      let s := { s with items, connections := s.connections.put h c }
      match item.failure with
      | some f => (.error f, s)
      | none =>
        (.ok { columns := item.columns, rowCount := item.rowCount, totalChanges := c.totalChanges },
          s)

/-- Answers with a value unless there is a failure. -/
def orFailure {α : Type} (failure : Option Failure) (a : α) : Except Failure α :=
  match failure with
  | some f => .error f
  | none => .ok a

/-- The driver that plays a script. -/
def driver : Driver Script where
  connect _ s := (.ok s.opened,
    { s with opened := s.opened + 1, connections := s.connections.put s.opened {} })
  totalChanges h s := (s.connection h).totalChanges
  execute := execute
  fetchMany h n s :=
    let c := s.connection h
    (orFailure c.fetchFailure (c.rows.take n.toNat), s)
  fetchAll h s :=
    let c := s.connection h
    (orFailure c.fetchFailure c.rows, s)
  commit h s := (orFailure (s.connection h).commitFailure (), s)
  close _ s := s

end Script

end QueryDesk.Sqlite
