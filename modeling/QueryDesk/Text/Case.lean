import QueryDesk.Text.Case.Table

/-!
# Lower and upper case

The full mappings: one character may become several, and a capital sigma
becomes a final sigma where it ends a word, which its neighbours decide.
-/

namespace QueryDesk.Text

namespace CaseRow

/-- The image of a code point under a row that covers it. -/
def image? (r : CaseRow) (n : Nat) : Option Nat :=
  if r.first ≤ n && n ≤ r.last && (n - r.first) % r.step = 0 then some (n + r.offset).toNat
  else none

end CaseRow

/-- The image of a character under a table of single mappings and a table of expansions. -/
def mapCase (rows : List CaseRow) (expansions : List (Nat × List Nat)) (c : Char) : List Char :=
  match expansions.lookup c.toNat with
  | some ns => ns.map Char.ofNat
  | none =>
    match rows.findSome? (·.image? c.toNat) with
    | some n => [Char.ofNat n]
    | none => [c]

/-- Whether the nearest character that counts in a context has a case. -/
def meetsCased (context : List Char) : Bool :=
  match context.dropWhile fun c => caseIgnorableCodes.contains c.toNat with
  | c :: _ => casedCodes.contains c.toNat
  | [] => false

/-- The lower-case form of one character between what stands before it, read
backwards, and what follows it. -/
def lowerAt (before : List Char) (c : Char) (after : List Char) : List Char :=
  if c = 'Σ' then [if meetsCased before && !meetsCased after then 'ς' else 'σ']
  else mapCase lowerRows lowerExpansions c

/-- The lower-case form of a text that follows `before`, read backwards. -/
def lowerAfter (before : List Char) : List Char → List Char
  | [] => []
  | c :: cs => lowerAt before c cs ++ lowerAfter (c :: before) cs

/-- The lower-case form of a text. -/
def lower (s : String) : String := String.ofList (lowerAfter [] s.toList)

/-- The upper-case form of a text. -/
def upper (s : String) : String :=
  String.ofList (s.toList.flatMap (mapCase upperRows upperExpansions))

/-- The letters of the Latin keywords that a comparison without regard to case
accepts for a lower-case ASCII letter: the letter, its capital, and the two
dotted or dotless forms of `i`, the long `s` and the kelvin sign. -/
def foldsTo (c letter : Char) : Bool :=
  c = letter || c = letter.toUpper
    || (letter = 'i' && (c = 'İ' || c = 'ı'))
    || (letter = 's' && c = 'ſ')
    || (letter = 'k' && c = 'K')

end QueryDesk.Text
