import QueryDesk.Value.Basic

/-!
# Results

What a statement gives back: rows under columns, or the number of rows that it
changed.
-/

namespace QueryDesk.Execution

/-- The result of a statement. -/
structure Result where
  columns : List String
  rows : List (List Value)
  /-- Whether there were more rows than these. -/
  truncated : Bool := false
  rowsAffected : Option Int := none
  deriving Repr, Inhabited

namespace Result

/-- The number of rows. -/
def rowCount (r : Result) : Nat := r.rows.length

/-- Whether the result is one of rows. -/
def returnsRows (r : Result) : Bool := !r.columns.isEmpty

/-- The number of changed rows, as it is told to the user. -/
def affected (r : Result) : Int := r.rowsAffected.getD 0

end Result

end QueryDesk.Execution
