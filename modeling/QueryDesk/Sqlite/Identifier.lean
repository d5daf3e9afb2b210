import QueryDesk.Text.Quoted

/-!
# Identifiers in statements

A name stands in a statement between double quotes, so that no name, whatever
its characters, can end early or be taken for anything else.
-/

namespace QueryDesk.Sqlite

/-- A name as an identifier. -/
def quoteIdentifier (name : String) : String := String.ofList (Text.Quoted.quote name.toList)

/-- The identifier at the front of a statement and the text after it. -/
def readIdentifier? (statement : String) : Option (String × String) :=
  (Text.Quoted.read? statement.toList).map fun (name, rest) =>
    (String.ofList name, String.ofList rest)

end QueryDesk.Sqlite
