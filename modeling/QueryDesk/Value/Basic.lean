import QueryDesk.Decimal.Binary64
import QueryDesk.OrderedMap

/-!
# Values

The data that a database hands over cell by cell and that a settings or
history document holds.
-/

namespace QueryDesk

/-- A cell of a result or a part of a document. -/
inductive Value where
  | null
  | bool (b : Bool)
  | int (n : Int)
  | float (x : Decimal.Binary64)
  | text (s : String)
  | bytes (bs : List UInt8)
  | list (items : List Value)
  | object (fields : List (String × Value))
  deriving Inhabited, Repr

namespace Value

/-- Whether a value is empty: nothing, false, zero, or a text, a row of bytes,
a list or an object without contents. -/
def isEmpty : Value → Bool
  | .null => true
  | .bool b => !b
  | .int n => n = 0
  | .float x => match x.reading with
    | .finite _ m _ => m = 0
    | _ => false
  | .text s => s.toList.isEmpty
  | .bytes bs => bs.isEmpty
  | .list items => items.isEmpty
  | .object fields => fields.isEmpty

/-- The whole number that a value amounts to. A truth value counts as one or zero. -/
def whole? : Value → Option Int
  | .bool b => some b.toNat
  | .int n => some n
  | .float x => match x.reading with
    | .finite negative m q =>
      let scale := Decimal.twoPow q.natAbs
      let signed (n : Nat) : Int := if negative then -n else n
      if 0 ≤ q then some (signed (m * scale))
      else if m % scale = 0 then some (signed (m / scale))
      else none
    | _ => none
  | _ => none

/-- Whether two values without parts are the same. Numbers are the same by what
they amount to, and what is no number is not even the same as itself. -/
def same (v w : Value) : Bool :=
  match v.whole?, w.whole? with
  | some m, some n => m = n
  | none, none =>
    match v, w with
    | .null, .null => true
    | .float x, .float y => x.reading ≠ .nan && x = y
    | .text s, .text t => s = t
    | .bytes s, .bytes t => s = t
    | _, _ => false
  | _, _ => false

/-- The name of the kind of a value, as messages give it. -/
def kindName : Value → String
  | .null => "NoneType"
  | .bool _ => "bool"
  | .int _ => "int"
  | .float _ => "float"
  | .text _ => "str"
  | .bytes _ => "bytes"
  | .list _ => "list"
  | .object _ => "dict"

/-- The parts of a value that is made of parts: the characters of a text, the
numbers of a row of bytes, the items of a list and the names of an object. -/
def parts? : Value → Option (List Value)
  | .text s => some (s.toList.map fun c => .text (String.singleton c))
  | .bytes bs => some (bs.map fun b => .int b.toNat)
  | .list items => some items
  | .object fields => some (fields.map fun f => .text f.1)
  | _ => none

end Value

end QueryDesk
