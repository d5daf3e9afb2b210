import QueryDesk.Completion.Candidate
import QueryDesk.Text.Case
import QueryDesk.Text.Markup

/-!
# The dropdown

The list of candidates that pops up below the cursor. It shows the candidates
whose labels begin with the word being typed, and one of them is selected.
-/

namespace QueryDesk.Editor

open Completion (Candidate)

/-- The most candidates that are shown when no word is being typed. -/
def shownAtMost : Nat := 50

/-- An item of the list: its marked-up text, and whether it is marked as selected. -/
structure Item where
  text : String
  marked : Bool := false
  deriving DecidableEq, Repr

/-- The list of candidates. -/
structure Dropdown where
  /-- The word being typed, in lower case. -/
  filter : String := ""
  /-- The candidates that are shown. -/
  filtered : List Candidate := []
  selected : Nat := 0
  visible : Bool := false
  items : List Item := []
  /-- The rows that were scrolled to, in order. -/
  scrolls : List Nat := []
  deriving Repr

namespace Dropdown

/-- The item of a candidate: its label, and its detail in dim letters. -/
def item (c : Candidate) : Item :=
  let detail :=
    if c.detail = "" then "" else " [dim]" ++ Text.Markup.escape c.detail ++ "[/]"
  ⟨" " ++ Text.Markup.escape c.label ++ detail ++ " ", false⟩

/-- Marks an item as selected or not. -/
def mark (marked : Bool) (i : Nat) (items : List Item) : List Item :=
  items.modify i fun item => { item with marked }

/-- The candidates whose labels begin with a word in lower case; without a word
only the first ones. -/
def matching (word : String) (candidates : List Candidate) : List Candidate :=
  if word = "" then candidates.take shownAtMost
  else candidates.filter fun c => word.toList.isPrefixOf (Text.lower c.label).toList

/-- Shows other candidates and selects the first one. -/
def setCandidates (d : Dropdown) (candidates : List Candidate) (word : String) : Dropdown :=
  let filter := Text.lower word
  let filtered := matching filter candidates
  { d with filter, filtered, selected := 0, items := mark true 0 (filtered.map item)
           scrolls := d.scrolls ++ [0] }

/-- Moves the selection, around both ends. -/
def move (d : Dropdown) (by_ : Int) : Dropdown :=
  if d.filtered.isEmpty then d
  else
    let selected := ((d.selected + by_) % d.filtered.length).toNat
    { d with selected, items := mark true selected (mark false d.selected d.items)
             scrolls := d.scrolls ++ [selected - 5] }

/-- The candidate that is selected. -/
def selection (d : Dropdown) : Option Candidate := d.filtered[d.selected]?

/-- Shows the list. -/
def show_ (d : Dropdown) : Dropdown := { d with visible := true }

/-- Hides the list. The next time its first candidate is selected. -/
def hide (d : Dropdown) : Dropdown := { d with visible := false, selected := 0 }

end Dropdown

end QueryDesk.Editor
