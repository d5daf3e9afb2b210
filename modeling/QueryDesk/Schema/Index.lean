import QueryDesk.Schema.Table

/-!
# Schema snapshots

A snapshot of the tables of a connection and their columns. It is never
changed: a refresh builds the next one, whose version is higher.

## Main results

* `columnsOf_build` — a table has the columns of its last report.
-/

namespace QueryDesk.Schema

/-- A snapshot. -/
structure Index where
  /-- The columns of the tables that the schema source reported. -/
  tables : OrderedMap String (List String) := []
  /-- The names that the table lister gave. -/
  listed : List String := []
  version : Int := 0
  deriving DecidableEq, Repr

namespace Index

/-- The snapshot without tables. -/
def empty (version : Int) : Index := { version }

/-- The snapshot of a list of reports and a list of names. Of several reports
of one table the last counts, at the place of the first. -/
def build (infos : List TableInfo) (listed : List String) (version : Int) : Index :=
  { tables := .ofEntries (infos.map fun i => (i.name, i.columns)), listed, version }

/-- The names of all tables: the listed ones, then those only known from reports. -/
def tableNames (s : Index) : List String :=
  s.listed ++ s.tables.names.filter (· ∉ s.listed)

/-- The columns of a table; an unknown one has none. -/
def columnsOf (s : Index) (table : String) : List String := (s.tables.get? table).getD []

/-- Every column with its table, in order. -/
def columns (s : Index) : List (String × String) :=
  s.tables.flatMap fun (t, cs) => cs.map (t, ·)

end Index

/-- The columns of the last report of a table. -/
def lastColumns (infos : List TableInfo) (table : String) : Option (List String) :=
  (infos.reverse.find? (·.name = table)).map (·.columns)

/-- A table has the columns of its last report. -/
theorem columnsOf_build (infos : List TableInfo) (listed : List String) (version : Int)
    (table : String) :
    (Index.build infos listed version).columnsOf table = (lastColumns infos table).getD [] := by
  simp [Index.columnsOf, Index.build, OrderedMap.ofEntries, List.foldl_map,
    OrderedMap.get?_foldl_put, lastColumns]

end QueryDesk.Schema
