import QueryDesk.Decimal.Integer
import QueryDesk.Value.Basic

/-!
# Reading documents

A reader for documents as text: the usual grammar, with the names of the three
values that are no numbers besides. Of several fields of one name the last
counts, at the place of the first. An integer of more than 4300 digits is
refused with an error of its own, and so are lists and objects that lie too deep
in each other; how deep that is depends on the place in the program from which a
document is read. The first error from the left is the one that is reported.

A text is a row of characters, and half of a pair of sixteen-bit units is none.
An escape of such a half is read as the replacement character here, where a reader
whose texts may hold the half keeps it.
-/

namespace QueryDesk.Json

/-- Why a text is no document. -/
inductive ReadError where
  /-- The text does not follow the grammar. -/
  | malformed
  /-- An integer has more digits than are accepted. -/
  | integerTooLong
  /-- Lists and objects lie deeper in each other than is followed. -/
  | tooDeep
  deriving Repr, DecidableEq

/-- The characters that may stand between the parts of a document. -/
def isGap (c : Char) : Bool := c = ' ' || c = '\t' || c = '\n' || c = '\r'

/-- The text after leading gaps. -/
def skipGaps (cs : List Char) : List Char := cs.dropWhile isGap

/-- The value of a row of decimal digits. -/
def decimalValue (ds : List Char) : Nat :=
  ds.foldl (fun n d => 10 * n + (d.toNat - 0x30)) 0

/-- The value of a hexadecimal digit. -/
def hexValue? (c : Char) : Option Nat :=
  let n := c.toNat
  if 0x30 ≤ n && n ≤ 0x39 then some (n - 0x30)
  else if 0x41 ≤ n && n ≤ 0x46 then some (n - 0x41 + 10)
  else if 0x61 ≤ n && n ≤ 0x66 then some (n - 0x61 + 10)
  else none

/-- Four hexadecimal digits and the text after them. -/
def readUnit? : List Char → Option (Nat × List Char)
  | a :: b :: c :: d :: cs => do
    let w ← hexValue? a
    let x ← hexValue? b
    let y ← hexValue? c
    let z ← hexValue? d
    pure (((w * 16 + x) * 16 + y) * 16 + z, cs)
  | _ => none

/-- The character of a unit: its own, the one it makes with a following low
half, or the replacement character for a half that stands alone. -/
def joinUnit (n : Nat) (cs : List Char) : Char × List Char :=
  if 0xD800 ≤ n && n < 0xDC00 then
    match cs with
    | '\\' :: 'u' :: rest =>
      match readUnit? rest with
      | some (low, rest) =>
        if 0xDC00 ≤ low && low < 0xE000 then
          (Char.ofNat (0x10000 + (n - 0xD800) * 0x400 + (low - 0xDC00)), rest)
        else ('\uFFFD', cs)
      | none => ('\uFFFD', cs)
    | _ => ('\uFFFD', cs)
  else if 0xDC00 ≤ n && n < 0xE000 then ('\uFFFD', cs)
  else (Char.ofNat n, cs)

/-- The character that an escape stands for, and the text after it. -/
def readEscape? : List Char → Option (Char × List Char)
  | '"' :: cs => some ('"', cs)
  | '\\' :: cs => some ('\\', cs)
  | '/' :: cs => some ('/', cs)
  | 'b' :: cs => some ('\x08', cs)
  | 'f' :: cs => some ('\x0c', cs)
  | 'n' :: cs => some ('\n', cs)
  | 'r' :: cs => some ('\r', cs)
  | 't' :: cs => some ('\t', cs)
  | 'u' :: cs => (readUnit? cs).map fun (n, rest) => joinUnit n rest
  | _ => none

/-- The rest of a string after its opening quote, and the text after its
closing one. -/
def readString : Nat → List Char → Option (List Char × List Char)
  | 0, _ => none
  | _ + 1, [] => none
  | fuel + 1, c :: cs =>
    if c = '"' then some ([], cs)
    else if c = '\\' then do
      let (e, rest) ← readEscape? cs
      let (s, rest) ← readString fuel rest
      pure (e :: s, rest)
    else if c.toNat < 0x20 then none
    else do
      let (s, rest) ← readString fuel cs
      pure (c :: s, rest)

/-- The parts of a number: its sign, the digits before the point, those behind
it, and the exponent, the last two only if they are written. -/
structure Numeral where
  negative : Bool
  whole : List Char
  fraction : Option (List Char)
  exponent : Option (Bool × List Char)
  deriving Repr, DecidableEq

/-- The digits behind a point, if a point with a digit follows. -/
def readFraction : List Char → Option (List Char) × List Char
  | '.' :: d :: cs =>
    if d.isDigit then (some (d :: cs.takeWhile Char.isDigit), cs.dropWhile Char.isDigit)
    else (none, '.' :: d :: cs)
  | cs => (none, cs)

/-- An exponent, if a mark with a digit follows. -/
def readExponent (cs : List Char) : Option (Bool × List Char) × List Char :=
  match cs with
  | m :: rest =>
    if m = 'e' || m = 'E' then
      let (negative, ds) : Bool × List Char :=
        match rest with
        | '-' :: ds => (true, ds)
        | '+' :: ds => (false, ds)
        | ds => (false, ds)
      match ds with
      | d :: _ =>
        if d.isDigit then (some (negative, ds.takeWhile Char.isDigit), ds.dropWhile Char.isDigit)
        else (none, cs)
      | [] => (none, cs)
    else (none, cs)
  | [] => (none, cs)

/-- The number at the front of a text. A leading zero is a number of its own. -/
def readNumeral? (cs : List Char) : Option (Numeral × List Char) :=
  let (negative, body) : Bool × List Char :=
    match cs with
    | '-' :: rest => (true, rest)
    | _ => (false, cs)
  let whole : List Char := if body.head? = some '0' then ['0'] else body.takeWhile Char.isDigit
  if whole.isEmpty then none
  else
    let (fraction, rest) := readFraction (body.drop whole.length)
    let (exponent, rest) := readExponent rest
    some (⟨negative, whole, fraction, exponent⟩, rest)

/-- The value of a number: an integer if it has neither a fraction nor an
exponent. -/
def Numeral.value (n : Numeral) : Except ReadError Value :=
  match n.fraction, n.exponent with
  | none, none =>
    if Decimal.digitLimit < n.whole.length then .error .integerTooLong
    else
      let m : Int := decimalValue n.whole
      .ok (.int (if n.negative then -m else m))
  | fraction, exponent =>
    let behind := fraction.getD []
    let e : Int :=
      match exponent with
      | none => 0
      | some (negative, ds) => if negative then -(decimalValue ds : Int) else decimalValue ds
    .ok (.float (Decimal.Binary64.ofDecimal n.negative (decimalValue (n.whole ++ behind))
      (e - behind.length)))

/-- The text after a fixed word. -/
def afterWord? (word : String) (cs : List Char) : Option (List Char) :=
  if word.toList.isPrefixOf cs then some (cs.drop word.length) else none

/-- The words that stand for a value. -/
def wordValues : List (String × Value) := [
  ("null", .null), ("true", .bool true), ("false", .bool false),
  ("NaN", .float Decimal.Binary64.notANumber),
  ("Infinity", .float (Decimal.Binary64.infinity false)),
  ("-Infinity", .float (Decimal.Binary64.infinity true))]

/-- A word or a number at the front of a text. -/
def readScalar (cs : List Char) : Except ReadError (Value × List Char) :=
  match wordValues.findSome? fun (w, v) => (afterWord? w cs).map (v, ·) with
  | some r => .ok r
  | none =>
    match readNumeral? cs with
    | some (n, rest) => n.value.map (·, rest)
    | none => .error .malformed

mutual

/-- A value at the front of a text and the text after it. `room` is how many
lists and objects may begin there, one in the other. -/
def readValue : Nat → Nat → List Char → Except ReadError (Value × List Char)
  | 0, _, _ => .error .malformed
  | fuel + 1, room, cs =>
    match cs, room with
    | '"' :: rest, _ =>
      match readString (rest.length + 1) rest with
      | some (s, rest) => .ok (.text (String.ofList s), rest)
      | none => .error .malformed
    | '[' :: _, 0 | '\x7b' :: _, 0 => .error .tooDeep
    | '[' :: rest, room + 1 =>
      match skipGaps rest with
      | ']' :: rest => .ok (.list [], rest)
      | rest => do
        let (items, rest) ← readItems fuel room rest
        pure (.list items, rest)
    | '\x7b' :: rest, room + 1 =>
      match skipGaps rest with
      | '\x7d' :: rest => .ok (.object [], rest)
      | rest => do
        let (fields, rest) ← readFields fuel room [] rest
        pure (.object fields, rest)
    | _, _ => readScalar cs

/-- The items of a list, up to its closing bracket. -/
def readItems : Nat → Nat → List Char → Except ReadError (List Value × List Char)
  | 0, _, _ => .error .malformed
  | fuel + 1, room, cs => do
    let (v, rest) ← readValue fuel room cs
    match skipGaps rest with
    | ',' :: rest =>
      let (vs, rest) ← readItems fuel room (skipGaps rest)
      pure (v :: vs, rest)
    | ']' :: rest => pure ([v], rest)
    | _ => .error .malformed

/-- The fields of an object behind those already read, up to its closing brace. -/
def readFields : Nat → Nat → OrderedMap String Value → List Char →
    Except ReadError (OrderedMap String Value × List Char)
  | 0, _, _, _ => .error .malformed
  | fuel + 1, room, before, cs =>
    match cs with
    | '"' :: rest =>
      match readString (rest.length + 1) rest with
      | none => .error .malformed
      | some (name, rest) =>
        match skipGaps rest with
        | ':' :: rest => do
          let (v, rest) ← readValue fuel room (skipGaps rest)
          let fields := before.put (String.ofList name) v
          match skipGaps rest with
          | ',' :: rest => readFields fuel room fields (skipGaps rest)
          | '\x7d' :: rest => pure (fields, rest)
          | _ => .error .malformed
        | _ => .error .malformed
    | _ => .error .malformed

end

/-- The document that a text holds, with nothing but gaps around it. `room` is how
many lists and objects may lie in each other there. -/
def read (room : Nat) (text : String) : Except ReadError Value := do
  let cs := skipGaps text.toList
  let (v, rest) ← readValue (cs.length + 1) room cs
  if (skipGaps rest).isEmpty then pure v else .error .malformed

end QueryDesk.Json
