import QueryDesk.Storage.FileSystem

/-!
# Database files

A connection is named by the path of its database file, or by the word for a
database in memory, which names no file.
-/

namespace QueryDesk.Sqlite

open Storage

/-- The name of the database in memory. -/
def inMemory : String := ":memory:"

/-- The full path of a database. -/
def databasePath (fs : FileSystem) (s : Surroundings) (path : String) :
    Except PathError String :=
  if path = inMemory then .ok path
  else do
    let l ← fs.resolve s (← (Path.ofString path).expand s)
    pure l.text

/-- Whether a database that is named by its full path is there. -/
def databaseExists (fs : FileSystem) (fullPath : String) : Except SystemError Bool :=
  if fullPath = inMemory then .ok true else fs.isThere [] (Path.ofString fullPath)

end QueryDesk.Sqlite
