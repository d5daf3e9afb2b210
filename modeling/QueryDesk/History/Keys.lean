import QueryDesk.History.Ring

/-!
# History keys

Two keys recall the history, unless the completion popup is showing: it uses
the same keys for its own selection and comes first.
-/

namespace QueryDesk.History

/-- The keys that go back and forth. -/
structure Keys where
  older : String := "up"
  newer : String := "down"
  deriving DecidableEq, Repr

/-- What became of a key. -/
inductive KeyOutcome where
  /-- It is left to others. -/
  | passed
  /-- It was taken; the text, if any, replaces the buffer. -/
  | taken (text : Option String)
  deriving DecidableEq, Repr

/-- Gives a key to the history. `text` is what the buffer shows. A key that is
set for both directions goes back. -/
def Keys.press (keys : Keys) (r : Ring) (key : String) (popup : Bool) (text : String) :
    Ring × KeyOutcome :=
  if popup then (r, .passed)
  else if key = keys.older then
    let (r, shown) := r.older text
    (r, .taken shown)
  else if key = keys.newer then
    let (r, shown) := r.newer
    (r, .taken shown)
  else (r, .passed)

end QueryDesk.History
