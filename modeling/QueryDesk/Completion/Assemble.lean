import QueryDesk.Completion.Context
import QueryDesk.Completion.Reference
import QueryDesk.Schema.Index

/-!
# The candidates at a cursor

The static floor comes first. A qualified word adds the columns of the table
that its qualifier names, and an unqualified word after one of the table
keywords adds the names of the tables; the two never come together. A
candidate whose insert text was already offered is left out.
-/

namespace QueryDesk.Completion

/-- The keywords that are followed by the name of a table. -/
def tableKeywords : List String := ["from", "join", "update", "into"]

/-- The table whose columns a qualified word calls for. The qualifier must be
the exact name of a reference. -/
def qualifiedTable? (context : Context) (tables : OrderedMap String String) : Option String :=
  context.qualifier.bind tables.get?

/-- The columns for a qualified word. -/
def columnSuggestions (context : Context) (tables : OrderedMap String String)
    (schema : Option Schema.Index) : List Suggestion :=
  match qualifiedTable? context tables, schema with
  | some table, some schema => (schema.columnsOf table).map fun c => .ofWord .column c table
  | _, _ => []

/-- The tables for an unqualified word after one of the table keywords. -/
def tableSuggestions (context : Context) (schema : Option Schema.Index) : List Suggestion :=
  match context.qualifier, context.keywordBefore, schema with
  | none, some keyword, some schema =>
    if Text.lower keyword ∈ tableKeywords then schema.tableNames.map (.ofWord .table) else []
  | _, _, _ => []

/-- The candidates at a cursor, in the order in which they are offered. -/
def assemble (sql : String) (cursor : Cursor) (schema : Option Schema.Index)
    (floor : List Suggestion) : List Candidate :=
  let context := contextAt sql cursor
  let tables := tablesByName (references sql)
  let suggestions :=
    floor ++ columnSuggestions context tables schema ++ tableSuggestions context schema
  distinct (suggestions.map (·.at context.range))

end QueryDesk.Completion
