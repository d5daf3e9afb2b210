import QueryDesk.Execution.Failure
import QueryDesk.Log
import QueryDesk.Schema.Index

/-!
# Refreshing the schema

A refresh loads the names of the tables and their columns, one after the
other, and then publishes a new snapshot, unless another connection was
selected meanwhile. A part that fails contributes nothing and is reported.
-/

namespace QueryDesk.Schema

open Execution (Failure)

/-- A report of a table by a schema source. -/
inductive Item where
  | info (info : TableInfo)
  /-- A raw mapping, which need not describe a table. -/
  | mapping (fields : OrderedMap String Value)
  deriving Repr

/-- Where metadata comes from; each of the two sources may be absent. -/
structure Sources where
  lister : Option (String → Except Failure (List Value)) := none
  reporter : Option (String → Except Failure (List Item)) := none
  /-- How far values are followed where what the sources give is read. -/
  room : Room := .usual

/-- The part of the program that reports on refreshes. -/
def logSource : String := "querypad.domains.query.schema.loader"

/-- The name of a table that is listed. -/
def listedName (room : Room) (v : Value) : Except String String :=
  (readName room v).mapError Unshown.message

/-- The table that an item describes. -/
def Item.read (room : Room) : Item → Except String TableInfo
  | .info i => .ok i
  | .mapping fields => (TableInfo.ofFields room fields).mapError TableInfo.Error.message

/-- A loaded part, or nothing and a warning. -/
def contribution {α : Type} (connection part : String) (loaded : Except String (List α)) :
    List α × List Log.Record :=
  match loaded with
  | .ok xs => (xs, [])
  | .error text =>
    ([], [⟨.warning, logSource, Execution.metadataMessage connection part (some text), none⟩])

/-- The names that the lister gives. One without a text spoils the whole part. -/
def Sources.listed (s : Sources) (connection : String) : List String × List Log.Record :=
  contribution connection "table list" <|
    match s.lister with
    | none => .ok []
    | some list => do
      let names ← (list connection).mapError (·.text)
      names.mapM (listedName s.room)

/-- The tables that the schema source reports. One bad item spoils the whole part. -/
def Sources.reported (s : Sources) (connection : String) : List TableInfo × List Log.Record :=
  contribution connection "schema columns" <|
    match s.reporter with
    | none => .ok []
    | some report => do
      let items ← (report connection).mapError (·.text)
      items.mapM (Item.read s.room)

/-- The end of a refresh: the next snapshot, or the same one if the connection
is not selected any more. -/
def publish (snapshot : Index) (connection : String) (stillSelected : Bool)
    (listed : List String) (infos : List TableInfo) : Index × List Log.Record :=
  if !stillSelected then
    (snapshot, [⟨.debug, logSource, "Discarding stale schema snapshot for " ++ connection, none⟩])
  else
    let s := Index.build infos listed (snapshot.version + 1)
    (s, [⟨.debug, logSource,
      "Schema snapshot v" ++ toString s.version ++ " for " ++ connection ++ ": "
        ++ toString s.tableNames.length ++ " tables, " ++ toString s.tables.length
        ++ " with columns", none⟩])

/-- A refresh that nothing interrupts. -/
def refresh (sources : Sources) (snapshot : Index) (connection : String) (stillSelected : Bool) :
    Index × List Log.Record :=
  let (listed, logs) := sources.listed connection
  let (infos, logs') := sources.reported connection
  let (s, logs'') := publish snapshot connection stillSelected listed infos
  (s, logs ++ logs' ++ logs'')

/-- The empty snapshot after a given one. -/
def cleared (snapshot : Index) : Index := .empty (snapshot.version + 1)

end QueryDesk.Schema
