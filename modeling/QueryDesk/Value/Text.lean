import QueryDesk.Decimal.Integer
import QueryDesk.Decimal.Shortest
import QueryDesk.Text.Printable
import QueryDesk.Value.Basic

/-!
# Values as text

A value standing alone is shown plainly, so that a text is shown as itself; a
value inside another one is shown so that it can be told apart, a text between
quotes.

Not every value can be shown. An integer of more than 4300 digits is refused, and
so are values that lie too deep in each other; how deep that is depends on the
place in the program, and `room` says it.
-/

namespace QueryDesk

/-- Why a value has no text. -/
inductive Unshown where
  /-- An integer has more digits than are accepted. -/
  | integerTooLong
  /-- The value lies deeper in other ones than is followed. -/
  | tooDeep
  deriving DecidableEq, Repr

/-- The text of the error that this is. -/
def Unshown.message : Unshown → String
  | .integerTooLong =>
    "Exceeds the limit (" ++ toString Decimal.digitLimit ++ " digits) for integer string "
      ++ "conversion; use sys.set_int_max_str_digits() to increase the limit"
  | .tooDeep => "maximum recursion depth exceeded while getting the repr of an object"

namespace Value

/-- A value as it is shown inside another one. `room` is how many values may lie in
each other there. -/
def shown : Nat → Value → Except Unshown String
  | 0, _ => .error .tooDeep
  | room + 1, v =>
    match v with
    | .null => .ok "None"
    | .bool b => .ok (if b then "True" else "False")
    | .int n =>
      if Decimal.tenPow Decimal.digitLimit ≤ n.natAbs then .error .integerTooLong
      else .ok (toString n)
    | .float x => .ok x.text
    | .text s => .ok (Text.shown s)
    | .bytes bs => .ok (Text.shownBytes bs)
    | .list items => do pure ("[" ++ ", ".intercalate (← items.mapM (shown room)) ++ "]")
    | .object fields => do
      let texts ← fields.mapM fun f => do pure (Text.shown f.1 ++ ": " ++ (← shown room f.2))
      pure ("\x7b" ++ ", ".intercalate texts ++ "\x7d")

/-- A value as it is shown alone. -/
def plain (room : Nat) : Value → Except Unshown String
  | .text s => .ok s
  | v => v.shown room

/-- A value as a cell of a plain-text output. Nothing is marked as such and
bytes are only counted. -/
def cell (room : Nat) : Value → Except Unshown String
  | .null => .ok "NULL"
  | .bytes bs => .ok ("<" ++ toString bs.length ++ " bytes>")
  | v => v.plain room

end Value

end QueryDesk
