import QueryDesk.Decimal.Binary64

/-!
# Decimal texts with fixed places

A number with a given count of digits behind the point. The exact binary value
is rounded, and a half goes to the even neighbour.
-/

namespace QueryDesk.Decimal

/-- `n / 10 ^ places` written out. -/
def placed (places n : Nat) : List Char :=
  let ds := Nat.toDigits 10 n
  if places = 0 then ds
  else
    let padded := List.replicate (places + 1 - ds.length) '0' ++ ds
    padded.take (padded.length - places) ++ '.' :: padded.drop (padded.length - places)

/-- The text of a number with `places` digits behind the point. -/
def Binary64.fixed (places : Nat) (x : Binary64) : String :=
  match x.reading with
  | .nan => "nan"
  | .infinite negative => if negative then "-inf" else "inf"
  | .finite negative m q =>
    let n := roundDiv (m * tenPow places * twoPow q.toNat) (twoPow (-q).toNat)
    String.ofList ((if negative then ['-'] else []) ++ placed places n)

end QueryDesk.Decimal
