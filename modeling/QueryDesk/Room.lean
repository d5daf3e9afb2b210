/-!
# Room on the stack

Whatever follows a value into its parts takes a piece of the stack for every
level, and gives up where the stack has no room for another one.  How many
levels that is depends on the place in the program: it is less the more calls
lead there.  So the room is not a constant but belongs to the place from which
something is read, written or shown.
-/

namespace QueryDesk

/-- How far values are followed at a place of the program. -/
structure Room where
  /-- The lists and objects that may lie in each other in a document that is read. -/
  read : Nat := 988
  /-- The lists and objects with contents that may lie in each other in a
  document that is printed. -/
  printed : Nat := 988
  /-- The values that may lie in each other in one that is shown as a text. -/
  shown : Nat := 992
  /-- A place from which not even two levels can be read is never reached, since
  the calls that lead to a reader take as much. -/
  ample : 2 ≤ read := by decide
  deriving DecidableEq, Repr

/-- The room in a program that was started from a command line. -/
def Room.usual : Room := {}

/-- The lists and objects with contents that may lie in each other in a document
that is written to a file.  The writer of files is reached by fewer calls than
the reader, and so has one level more at the same place. -/
def Room.written (r : Room) : Nat := r.read + 1

end QueryDesk
