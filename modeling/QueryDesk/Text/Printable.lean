import QueryDesk.Text.Printable.Table

/-!
# Quoted texts for messages

A message shows a text between quotes in such a way that every character of
it can be told: quotes, backslashes, controls and characters without a printed
form are written as escapes.
-/

namespace QueryDesk.Text

/-- Whether a character is shown as itself inside a quoted text. -/
def isPrintable (c : Char) : Bool := !unprintableCodes.contains c.toNat

/-- The lower-case hexadecimal digits of `n`, with zeros in front up to `width`. -/
def hexDigits (width n : Nat) : List Char :=
  let ds := Nat.toDigits 16 n
  List.replicate (width - ds.length) '0' ++ ds

/-- One character of a text quoted by `quote`. -/
def escapeShown (quote c : Char) : List Char :=
  if c = quote || c = '\\' then ['\\', c]
  else if c = '\n' then ['\\', 'n']
  else if c = '\r' then ['\\', 'r']
  else if c = '\t' then ['\\', 't']
  else if isPrintable c then [c]
  else if c.toNat ≤ 0xFF then '\\' :: 'x' :: hexDigits 2 c.toNat
  else if c.toNat ≤ 0xFFFF then '\\' :: 'u' :: hexDigits 4 c.toNat
  else '\\' :: 'U' :: hexDigits 8 c.toNat

/-- The quote that a text is shown in: the single one, unless the text holds
that and no double one. -/
def shownQuote (cs : List Char) : Char :=
  if cs.contains '\'' && !cs.contains '"' then '"' else '\''

/-- A text between quotes, with escapes. -/
def shown (s : String) : String :=
  let q := shownQuote s.toList
  String.ofList (q :: s.toList.flatMap (escapeShown q) ++ [q])

/-- One byte of a byte text quoted by `quote`. -/
def escapeShownByte (quote : Char) (b : UInt8) : List Char :=
  let c := Char.ofNat b.toNat
  if c = quote || c = '\\' then ['\\', c]
  else if c = '\n' then ['\\', 'n']
  else if c = '\r' then ['\\', 'r']
  else if c = '\t' then ['\\', 't']
  else if 0x20 ≤ b.toNat && b.toNat < 0x7F then [c]
  else '\\' :: 'x' :: hexDigits 2 b.toNat

/-- A row of bytes as a quoted text marked by a leading `b`. -/
def shownBytes (bs : List UInt8) : String :=
  let q := shownQuote (bs.map fun b => Char.ofNat b.toNat)
  String.ofList ('b' :: q :: bs.flatMap (escapeShownByte q) ++ [q])

end QueryDesk.Text
