import QueryDesk.Text.Word

/-!
# Integers as they are typed

The text of an integer that a person types: blanks around it, a sign, digits of
any script, and single underscores between the digits.
-/

namespace QueryDesk.Decimal

/-- The most digits that an integer may have. -/
def digitLimit : Nat := 4300

/-- The blanks that may stand around an integer: all but the four separators
that control characters stand for. -/
def isPadding (c : Char) : Bool := Text.isBlank c && !(0x1C ≤ c.toNat && c.toNat ≤ 0x1F)

/-- The digits of a text in which single underscores may stand between digits. -/
def groupedDigits? : List Char → Option (List Nat)
  | [] => none
  | [c] => (Text.decimalDigit? c).map ([·])
  | c :: '_' :: cs => do pure ((← Text.decimalDigit? c) :: (← groupedDigits? cs))
  | c :: cs => do pure ((← Text.decimalDigit? c) :: (← groupedDigits? cs))

/-- The number that digits write. -/
def ofDigits (ds : List Nat) : Nat := ds.foldl (10 * · + ·) 0

/-- The integer that a text writes, unless it has too many digits. -/
def typedInteger? (s : String) : Option Int := do
  let cs := Text.dropSuffixWhile isPadding (s.toList.dropWhile isPadding)
  let (negative, cs) := match cs with
    | '-' :: cs => (true, cs)
    | '+' :: cs => (false, cs)
    | cs => (false, cs)
  let ds ← groupedDigits? cs
  if digitLimit < ds.length then none
  else
    let n : Int := ofDigits ds
    pure (if negative then -n else n)

end QueryDesk.Decimal
