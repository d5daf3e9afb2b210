import QueryDesk.Completion.Context
import QueryDesk.Text.Lines

/-!
# The buffer

The text that is edited, with its cursor. Every change of the text and every
move of the cursor is news, which is told once the change is complete.

The widget that holds the text is not part of the program, and two things are
assumed of it: a change is told only if the text is another one afterwards, and a
move only if the cursor is elsewhere; and a change is told before the move that it
brings about.
-/

namespace QueryDesk.Editor

open Completion (Cursor)

/-- What is told of a buffer. -/
inductive News where
  /-- The text is another one. -/
  | changed
  /-- The cursor is elsewhere. -/
  | moved
  deriving DecidableEq, Repr

/-- A text with a cursor. -/
structure Buffer where
  text : String := ""
  cursor : Cursor := ⟨0, 0⟩
  /-- What has not been told yet. -/
  news : List News := []
  deriving DecidableEq, Repr

/-- Something that is done to a buffer from within the program. -/
inductive BufferCall where
  | replace (text : String) (start stop : Cursor)
  | load (text : String)
  | moveTo (cursor : Cursor)
  | focus
  deriving DecidableEq, Repr

namespace Buffer

/-- Another text and cursor. The text is told first. -/
def set (b : Buffer) (text : String) (cursor : Cursor) : Buffer :=
  { text, cursor
    news := b.news ++ (if text = b.text then [] else [.changed])
      ++ (if cursor = b.cursor then [] else [.moved]) }

/-- The place of an offset. -/
def placeAt (text : String) (offset : Int) : Cursor :=
  let (row, column) := Text.location text.toList offset
  ⟨row, column⟩

/-- The offset of a place. -/
def offsetOf (text : String) (place : Cursor) : Nat :=
  Text.lineOffset (Text.lines text.toList) place.line.toNat + place.column.toNat

/-- The place behind the last character. -/
def finish (text : String) : Cursor := placeAt text text.length

/-- What a call does to a buffer. -/
def apply (b : Buffer) : BufferCall → Buffer
  | .replace inserted start stop =>
    let cs := b.text.toList
    let before := cs.take (offsetOf b.text start)
    let text := String.ofList (before ++ inserted.toList ++ cs.drop (offsetOf b.text stop))
    b.set text (placeAt text (before.length + inserted.length))
  | .load text => b.set text ⟨0, 0⟩
  | .moveTo cursor => b.set b.text cursor
  | .focus => b

/-- Whether a key goes to the buffer. While the popup is showing, the keys that
accept a candidate do not. -/
def takesKey (popup : Bool) (key : String) : Bool := !(popup && (key = "enter" || key = "tab"))

end Buffer

end QueryDesk.Editor
