import QueryDesk.Decimal.Integer
import QueryDesk.Decimal.Power
import QueryDesk.Decimal.Shortest
import QueryDesk.Text.Printable
import QueryDesk.Value.Text

/-!
# Writing documents

A document is written one item or field to a line, indented by two blanks for
each level. Everything beyond the printable ASCII characters is escaped, in
units of sixteen bits. Bytes, which the format lacks, are written as their
shown text; a strict writer, as a store has it, stops there. There are two other
obstacles: an integer of more than 4300 digits, and values that lie too deep in
each other. How deep that is depends on the place in the program from which a
document is written.
-/

namespace QueryDesk.Json

/-- A sixteen-bit unit as an escape. -/
def unitEscape (n : Nat) : List Char := '\\' :: 'u' :: Text.hexDigits 4 n

/-- A character inside a string. -/
def escape (c : Char) : List Char :=
  if c = '"' then ['\\', '"']
  else if c = '\\' then ['\\', '\\']
  else if c = '\n' then ['\\', 'n']
  else if c = '\r' then ['\\', 'r']
  else if c = '\t' then ['\\', 't']
  else if c = '\x0c' then ['\\', 'f']
  else if c = '\x08' then ['\\', 'b']
  else if 0x20 ≤ c.toNat && c.toNat ≤ 0x7E then [c]
  else if c.toNat < 0x10000 then unitEscape c.toNat
  else
    let n := c.toNat - 0x10000
    unitEscape (0xD800 + n / 0x400) ++ unitEscape (0xDC00 + n % 0x400)

/-- A string between its quotes. -/
def quoted (s : String) : List Char := '"' :: s.toList.flatMap escape ++ ['"']

/-- The text of a number with a fraction. The three values that are no numbers
have names of their own. -/
def floatText (x : Decimal.Binary64) : List Char :=
  match x.reading with
  | .nan => "NaN".toList
  | .infinite negative => (if negative then "-Infinity" else "Infinity").toList
  | .finite .. => x.text.toList

/-- The start of a line at a level. -/
def lineAt (level : Nat) : List Char := '\n' :: List.replicate (2 * level) ' '

mutual

/-- A value whose first line starts at `level`. -/
def write (level : Nat) : Value → List Char
  | .null => "null".toList
  | .bool b => (if b then "true" else "false").toList
  | .int n => (toString n).toList
  | .float x => floatText x
  | .text s => quoted s
  | .bytes bs => quoted (Text.shownBytes bs)
  | .list [] => ['[', ']']
  | .list (v :: vs) =>
    '[' :: lineAt (level + 1) ++ write (level + 1) v ++ writeItems (level + 1) vs
      ++ lineAt level ++ [']']
  | .object [] => ['\x7b', '\x7d']
  | .object ((k, v) :: fs) =>
    '\x7b' :: lineAt (level + 1) ++ quoted k ++ ':' :: ' ' :: write (level + 1) v
      ++ writeFields (level + 1) fs ++ lineAt level ++ ['\x7d']

/-- The further items of a list. -/
def writeItems (level : Nat) : List Value → List Char
  | [] => []
  | v :: vs => ',' :: lineAt level ++ write level v ++ writeItems level vs

/-- The further fields of an object. -/
def writeFields (level : Nat) : List (String × Value) → List Char
  | [] => []
  | (k, v) :: fs =>
    ',' :: lineAt level ++ quoted k ++ ':' :: ' ' :: write level v ++ writeFields level fs

end

/-- The text of a document. -/
def text (v : Value) : String := String.ofList (write 0 v)

/-- What keeps a value from being written. -/
inductive Obstacle where
  /-- The format has no bytes. -/
  | bytes
  /-- An integer has more digits than are accepted. -/
  | integerTooLong
  /-- Lists and objects lie deeper in each other than is followed. -/
  | tooDeep
  deriving DecidableEq, Repr

mutual

/-- The first obstacle that is met when a value is written. `room` is how many
lists and objects with contents may begin there, one in the other. A number with a
fraction takes as much as one of them. So do bytes, which a strict writer refuses
and another one writes as the text that stands for them, at the cost of one more. -/
def obstacle? (strict : Bool) (room : Nat) : Value → Option Obstacle
  | .bytes _ => if room < 2 then some .tooDeep else if strict then some .bytes else none
  | .float _ => if room = 0 then some .tooDeep else none
  | .int n => if Decimal.tenPow Decimal.digitLimit ≤ n.natAbs then some .integerTooLong else none
  | .list (v :: vs) =>
    match room with
    | 0 => some .tooDeep
    | room + 1 => (obstacle? strict room v).or (itemsObstacle? strict room vs)
  | .object ((_, v) :: fs) =>
    match room with
    | 0 => some .tooDeep
    | room + 1 => (obstacle? strict room v).or (fieldsObstacle? strict room fs)
  | _ => none

/-- The first obstacle among the items of a list. -/
def itemsObstacle? (strict : Bool) (room : Nat) : List Value → Option Obstacle
  | [] => none
  | v :: vs => (obstacle? strict room v).or (itemsObstacle? strict room vs)

/-- The first obstacle among the fields of an object. -/
def fieldsObstacle? (strict : Bool) (room : Nat) : List (String × Value) → Option Obstacle
  | [] => none
  | (_, v) :: fs => (obstacle? strict room v).or (fieldsObstacle? strict room fs)

end

end QueryDesk.Json
