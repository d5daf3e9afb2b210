import QueryDesk.History.Ring
import QueryDesk.Storage.Document

/-!
# Query history across sessions

The queries that were run on each connection, oldest first, in one document. A
query that is run again moves to the end. Parts of the document that are no
queries are passed over, and parts that belong to other connections are kept
as they are.
-/

namespace QueryDesk.History

open Storage

/-- The history document, with the number of queries kept for a connection. -/
structure Store where
  document : Document
  /-- A negative number leaves out that many of the oldest queries instead. -/
  cap : Int
  deriving DecidableEq, Repr

/-- The number of queries kept unless another one is set. -/
def defaultCap : Int := 100

/-- A store whose cap is the default one where none is set or it is zero. -/
def Store.at (path : Path) (cap : Option Int) : Store :=
  let cap := cap.getD 0
  ⟨⟨path⟩, if cap = 0 then defaultCap else cap⟩

/-- The part of a list that a cap leaves. -/
def cut {α : Type} (cap : Int) (xs : List α) : List α :=
  if 0 ≤ cap then newest cap.toNat xs else xs.drop (-cap).toNat

/-- The queries of a connection in a document: the texts in its list that are
not blank. -/
def queriesOf (fields : Fields) (connection : String) : List String :=
  match fields.get? connection with
  | some (.list items) => items.filterMap fun
    | .text q => if Text.isBlankText q then none else some q
    | _ => none
  | _ => []

/-- A list of queries with one more at the end, in place of those that differ
from it by blanks at their ends at most. -/
def moveToEnd (queries : List String) (query : String) : List String :=
  queries.filter (fun q => Text.strip q ≠ query) ++ [query]

/-- The document after a query, without blanks at its ends, is recorded. -/
def recorded (cap : Int) (fields : Fields) (connection query : String) : Fields :=
  fields.put connection
    (.list ((cut cap (moveToEnd (queriesOf fields connection) query)).map .text))

/-- Why a change of the history failed. -/
inductive StoreError where
  | load (error : LoadError)
  | save (error : SaveError)
  deriving DecidableEq, Repr

/-- A change of the history: the file system after it, what it answers, and
the records that it makes. -/
structure Change (α : Type) where
  fileSystem : FileSystem
  answer : Except StoreError α
  logs : List Log.Record := []

namespace Store

/-- The queries of a connection, oldest first. -/
def load (store : Store) (fs : FileSystem) (s : Surroundings) (connection : String) :
    Except LoadError (List String × List Log.Record) := do
  let (fields, logs) ← store.document.load fs s
  pure (queriesOf fields connection, logs)

/-- Saves the fields of a document. -/
def put {α : Type} (store : Store) (fs : FileSystem) (s : Surroundings) (fields : Fields)
    (answer : α) (logs : List Log.Record) : Change α :=
  match store.document.save fs s (.object fields) with
  | (fs, .ok ()) => ⟨fs, .ok answer, logs⟩
  | (fs, .error e) => ⟨fs, .error (.save e), logs⟩

/-- Records a query as the newest of a connection; a blank one is ignored. -/
def save (store : Store) (fs : FileSystem) (s : Surroundings) (connection query : String) :
    Change Unit :=
  let query := Text.strip query
  if query = "" then ⟨fs, .ok (), []⟩
  else
    match store.document.load fs s with
    | .error e => ⟨fs, .error (.load e), []⟩
    | .ok (fields, logs) => store.put fs s (recorded store.cap fields connection query) () logs

/-- Forgets the queries of a connection and answers how many there were. A
connection whose field is absent or null leaves the file as it is. -/
def clear (store : Store) (fs : FileSystem) (s : Surroundings) (connection : String) :
    Change Nat :=
  match store.document.load fs s with
  | .error e => ⟨fs, .error (.load e), []⟩
  | .ok (fields, logs) =>
    let count := (queriesOf fields connection).length
    match fields.get? connection with
    | none | some .null => ⟨fs, .ok count, logs⟩
    | some _ => store.put fs s (fields.remove connection) count logs

end Store

end QueryDesk.History
