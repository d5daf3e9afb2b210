import QueryDesk.Execution.Coordinator
import QueryDesk.Schema.Loader
import QueryDesk.Sqlite.File
import QueryDesk.Sqlite.Identifier
import QueryDesk.Statement.Rows

/-!
# Database connections

Statements and metadata over the connections of a driver. A connection is
opened when it is first needed and kept until it is closed. The driver is a
parameter: any state with the calls of `Driver`, each of which may fail. Every
call that is made is written down. What tells statements that have rows from others
is a parameter too.
-/

namespace QueryDesk.Sqlite

open Execution (Failure FailureKind Result)
open Storage (FileSystem Surroundings)

/-- A connection of the driver. -/
abbrev Handle := Nat

/-- What a driver tells of a statement that it executed. -/
structure Cursor where
  /-- The columns, if the statement has rows. -/
  columns : List String := []
  /-- The number of changed rows, negative if it is not known. -/
  rowCount : Int := -1
  /-- The changes on the connection so far. -/
  totalChanges : Int := 0
  deriving DecidableEq, Repr

/-- A database driver over a state of type `δ`. -/
structure Driver (δ : Type) where
  connect : String → δ → Except Failure Handle × δ
  totalChanges : Handle → δ → Int
  execute : Handle → String → δ → Except Failure Cursor × δ
  /-- The rows of the last statement, at most as many as are asked for. -/
  fetchMany : Handle → Int → δ → Except Failure (List (List Value)) × δ
  fetchAll : Handle → δ → Except Failure (List (List Value)) × δ
  commit : Handle → δ → Except Failure Unit × δ
  close : Handle → δ → δ

/-- A call of the driver. -/
inductive Call where
  /-- A connection is opened, and has a handle unless that failed. -/
  | connect (path : String) (handle : Option Handle)
  | execute (handle : Handle) (sql : String)
  | fetchMany (handle : Handle) (count : Int)
  | fetchAll (handle : Handle)
  | commit (handle : Handle)
  | close (handle : Handle)
  deriving DecidableEq, Repr

/-- The connections that are open, the driver's state, and the calls so far. -/
structure Backend (δ : Type) where
  driver : δ
  connections : OrderedMap String Handle := []
  calls : List Call := []

/-- Something done with the connections, which may fail on the way. -/
abbrev Action (δ : Type) := ExceptT Failure (StateM (Backend δ))

/-- What connections are made and used with: where database files are looked for, and
how statements are told apart. -/
structure Site where
  files : FileSystem
  surroundings : Surroundings
  /-- Whether a statement is expected to have rows, unless it is not read at all. -/
  returnsRows : String → Except Statement.Excess Bool

/-- The failure that a path without a place amounts to. -/
def pathFailure (e : Storage.PathError) : Failure :=
  match e with
  | .noHome | .looping _ => ⟨.runtime, e.message, true⟩
  | .nulCharacter => ⟨.value, e.message, true⟩

/-- The failure that a statement which is not read amounts to. -/
def excessFailure (e : Statement.Excess) : Failure := ⟨.nesting, e.message, true⟩

/-- The failure that a refusal of the system over a path amounts to. -/
def systemFailure (path : String) (e : Storage.SystemError) : Failure :=
  ⟨.system, e.message (Storage.Path.ofString path), true⟩

/-- The first rows of a list; a negative number leaves out that many at the end. -/
def firstRows {α : Type} (n : Int) (xs : List α) : List α :=
  if 0 ≤ n then xs.take n.toNat else xs.take (xs.length - n.natAbs)

/-- The statement that lists the tables and views. -/
def tablesStatement : String :=
  "SELECT name FROM sqlite_master WHERE type IN ('table', 'view') " ++
    "AND name NOT LIKE 'sqlite_%' ORDER BY name"

/-- The statement that describes the columns of a table. -/
def columnsStatement (table : String) : String :=
  "PRAGMA table_info(" ++ quoteIdentifier table ++ ")"

namespace Backend

variable {δ : Type}

/-- Makes a call and writes it down, as it is known once it is answered. -/
def callingAs {α : Type} (call : Option α → Call) (f : δ → Except Failure α × δ) :
    Action δ α := do
  let b ← get
  let (answer, driver) := f b.driver
  set { b with driver, calls := b.calls ++ [call answer.toOption] }
  match answer with
  | .ok a => pure a
  | .error e => throw e

/-- Makes a call and writes it down. -/
def calling {α : Type} (call : Call) (f : δ → Except Failure α × δ) : Action δ α :=
  callingAs (fun _ => call) f

/-- The connection for a path, opened if it is not open. -/
def connection (driver : Driver δ) (site : Site) (id : String) : Action δ Handle := do
  match (← get).connections.get? id with
  | some h => pure h
  | none =>
    match databasePath site.files site.surroundings id with
    | .error e => throw (pathFailure e)
    | .ok path =>
      match databaseExists site.files path with
      | .error e => throw (systemFailure path e)
      | .ok false => throw (Failure.execution ("Database file not found: " ++ path))
      | .ok true =>
        let h ← callingAs (.connect path) (driver.connect path)
        modify fun b => { b with connections := b.connections.put id h }
        pure h

/-- Runs a statement that is expected to have rows. At most one row more than
the cap is fetched, to tell whether there are more. -/
def runQuery (driver : Driver δ) (h : Handle) (maxRows : Option Int) (sql : String) :
    Action δ Result := do
  let before := driver.totalChanges h (← get).driver
  let c ← calling (.execute h sql) (driver.execute h sql)
  if c.columns.isEmpty then
    calling (.commit h) (driver.commit h)
    let affected := if c.rowCount < 0 then c.totalChanges - before else c.rowCount
    pure { columns := [], rows := [], rowsAffected := some affected }
  else
    match maxRows with
    | some n =>
      let rows ← calling (.fetchMany h (n + 1)) (driver.fetchMany h (n + 1))
      let truncated := decide (n < rows.length)
      pure { columns := c.columns, rows := if truncated then firstRows n rows else rows, truncated }
    | none =>
      let rows ← calling (.fetchAll h) (driver.fetchAll h)
      pure { columns := c.columns, rows }

/-- Runs any other statement. It may have rows all the same, and then they are
all fetched. -/
def runOther (driver : Driver δ) (h : Handle) (sql : String) : Action δ Result := do
  let c ← calling (.execute h sql) (driver.execute h sql)
  if c.columns.isEmpty then
    calling (.commit h) (driver.commit h)
    pure { columns := [], rows := [], rowsAffected := some (max c.rowCount 0) }
  else
    let rows ← calling (.fetchAll h) (driver.fetchAll h)
    calling (.commit h) (driver.commit h)
    pure { columns := c.columns, rows, rowsAffected := some rows.length }

/-- A driver's error is a failed execution with the same text; other failures stay. -/
def driverFailure (f : Failure) : Failure :=
  if f.kind.isDriverError then Failure.execution f.text else f

/-- Runs one statement on a connection. -/
def execute (driver : Driver δ) (site : Site) (maxRows : Option Int) (id sql : String) :
    Action δ Result := do
  let h ← connection driver site id
  match site.returnsRows sql with
  | .error e => throw (excessFailure e)
  | .ok rows =>
    tryCatch (if rows then runQuery driver h maxRows sql else runOther driver h sql)
      fun f => throw (driverFailure f)

/-- The cell at a place of a row. -/
def cellAt (row : List Value) (i : Nat) : Action δ Value :=
  match row[i]? with
  | some v => pure v
  | none => throw ⟨.index, "tuple index out of range", true⟩

/-- The names of the tables and views, as the driver orders them. -/
def listTables (driver : Driver δ) (site : Site) (id : String) : Action δ (List Value) := do
  let h ← connection driver site id
  let _ ← calling (.execute h tablesStatement) (driver.execute h tablesStatement)
  let rows ← calling (.fetchAll h) (driver.fetchAll h)
  rows.mapM (cellAt · 0)

/-- The columns of a table, in order. -/
def columnsOf (driver : Driver δ) (h : Handle) (table : Value) : Action δ (List Value) := do
  match table with
  | .text name =>
    let sql := columnsStatement name
    let _ ← calling (.execute h sql) (driver.execute h sql)
    let rows ← calling (.fetchAll h) (driver.fetchAll h)
    rows.mapM (cellAt · 1)
  | .bytes _ => throw ⟨.type, "a bytes-like object is required, not 'str'", true⟩
  | v => throw ⟨.attribute, "'" ++ v.kindName ++ "' object has no attribute 'replace'", true⟩

/-- Every table with its columns. -/
def describe (driver : Driver δ) (site : Site) (id : String) :
    Action δ (List (Value × List Value)) := do
  let tables ← listTables driver site id
  let h ← connection driver site id
  tables.mapM fun t => do pure (t, ← columnsOf driver h t)

/-- A name in the schema. What is no text is told only by the driver's own report. -/
def nameOf : Value → String
  | .text name => name
  | _ => ""

/-- A table with its columns, as an item for the schema. -/
def report (table : Value × List Value) : Schema.Item :=
  .info ⟨nameOf table.1, table.2.map nameOf⟩

/-- Closes a connection, or all of them. One that is not open is passed over. -/
def close (driver : Driver δ) (id : Option String) (b : Backend δ) : Backend δ :=
  let ids := match id with
    | some id => [id]
    | none => b.connections.names
  ids.foldl (fun b id =>
    match b.connections.get? id with
    | none => b
    | some h =>
      { driver := driver.close h b.driver
        connections := b.connections.remove id
        calls := b.calls ++ [.close h] }) b

/-- What an action answers, and the connections after it. -/
def perform {α : Type} (b : Backend δ) (a : Action δ α) : Except Failure α × Backend δ :=
  a.run.run b

end Backend

end QueryDesk.Sqlite
