import QueryDesk.Text.Blank

/-!
# Query history of a session

The queries that were run, oldest first, and a cursor for recalling them. The
cursor counts back from the newest entry; while there is none, the buffer
shows what the user is writing, and that text is kept as the draft when
recalling begins.
-/

namespace QueryDesk.History

/-- The entries and the cursor. -/
structure Ring where
  entries : List String := []
  /-- The most entries that are kept; the oldest give way. -/
  cap : Option Nat := none
  /-- How far back from the newest entry the cursor is, while browsing. -/
  position : Option Nat := none
  /-- What the user was writing when browsing began. -/
  draft : String := ""
  deriving DecidableEq, Repr

/-- The last `n` of a list. -/
def newest {α : Type} (n : Nat) (xs : List α) : List α := xs.drop (xs.length - n)

namespace Ring

/-- Puts a query behind the entries, unless it is blank. -/
def push (r : Ring) (query : String) : Ring :=
  if Text.isBlankText query then r
  else
    let entries := r.entries ++ [query]
    match r.cap with
    | none => { r with entries }
    | some n => { r with entries := newest n entries }

/-- The ring without a cursor. -/
def settle (r : Ring) : Ring := { r with position := none, draft := "" }

/-- Replaces all entries and stops browsing. -/
def replace (r : Ring) (queries : List String) : Ring :=
  (queries.foldl push { r with entries := [] }).settle

/-- A ring that starts with some queries. -/
def ofList (queries : List String) (cap : Option Nat) : Ring := replace { cap } queries

/-- Adds a query and stops browsing; a blank one changes nothing. The answer
says whether it was added. -/
def submit (r : Ring) (query : String) : Ring × Bool :=
  if Text.isBlankText query then (r, false) else ((r.push query).settle, true)

/-- Whether an entry of the ring is shown. -/
def isBrowsing (r : Ring) : Bool := r.position.isSome

/-- The entry that is `i` back from the newest. -/
def back? (r : Ring) (i : Nat) : Option String := r.entries.reverse[i]?

/-- Goes one entry back and stays at the oldest. The answer is the text to
show; an empty ring has none. -/
def older (r : Ring) (text : String) : Ring × Option String :=
  if r.entries.isEmpty then (r, none)
  else
    match r.position with
    | none => ({ r with position := some 0, draft := text }, r.back? 0)
    | some i =>
      let j := min (i + 1) (r.entries.length - 1)
      ({ r with position := some j }, r.back? j)

/-- Goes one entry forth, and from the newest to the draft. The answer is the
text to show; a ring that is not browsing has none. -/
def newer (r : Ring) : Ring × Option String :=
  match r.position with
  | none => (r, none)
  | some 0 => (r.settle, some r.draft)
  | some (i + 1) => ({ r with position := some i }, r.back? i)

end Ring

end QueryDesk.History
