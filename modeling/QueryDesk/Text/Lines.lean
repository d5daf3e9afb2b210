/-!
# Lines of a text and positions in it

Lines are separated by `'\n'`, so a text always has at least one. A position
is either an offset into the text or a row and a column; `location` goes from
the first to the second and `lineOffset` gives the offset at which a row starts.
-/

namespace QueryDesk.Text

/-- The lines of a text; a final line feed leaves an empty last line. -/
def lines : List Char → List (List Char)
  | [] => [[]]
  | c :: cs =>
    if c = '\n' then [] :: lines cs
    else
      match lines cs with
      | [] => [[c]]
      | l :: ls => (c :: l) :: ls

/-- A text has at least one line. -/
theorem lines_ne_nil (cs : List Char) : lines cs ≠ [] := by
  induction cs with
  | nil => simp [lines]
  | cons c cs ih =>
    unfold lines
    split
    · simp
    · split <;> simp

/-- The offset at which row `row` starts. -/
def lineOffset (ls : List (List Char)) (row : Nat) : Nat :=
  (ls.take row).foldl (fun n l => n + (l.length + 1)) 0

/-- Walks down the lines with the offset counted from the current line. -/
def locationFrom (row : Nat) (offset : Int) : List (List Char) → Nat × Int
  | [] => (row, offset)
  | [l] => (row, if offset ≤ l.length then offset else l.length)
  | l :: l' :: ls =>
    if offset ≤ l.length then (row, offset)
    else locationFrom (row + 1) (offset - (l.length + 1)) (l' :: ls)

/-- The row and the column of an offset. The place before a line feed belongs
to the line it ends, an offset beyond the end is the end of the last line, and
a negative one is a negative column of the first. -/
def location (cs : List Char) (offset : Int) : Nat × Int := locationFrom 0 offset (lines cs)

end QueryDesk.Text
