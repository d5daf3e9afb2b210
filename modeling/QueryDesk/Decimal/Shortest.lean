import QueryDesk.Decimal.Binary64

/-!
# Shortest decimal texts

The text of a double-width number has the fewest significant digits that read
back as that number, and of those the digits nearest to it. It is positional
from `0.0001` up to but not including `10 ^ 16` and always shows a point or an
exponent, so that it cannot be taken for an integer.
-/

namespace QueryDesk.Decimal

/-- A finite decimal `digits · 10 ^ exponent`. -/
structure Scaled where
  digits : Nat
  exponent : Int
  deriving Repr, DecidableEq

/-- The reals that round to `m · 2 ^ q`, in quarters of `2 ^ q`. -/
structure Interval where
  low : Nat
  mid : Nat
  high : Nat
  /-- The exponent of the quarter. -/
  quarter : Int
  closed : Bool

/-- The interval of `m · 2 ^ q`: half a unit to either side, but a quarter of
one below a power of two, where the spacing changes. -/
def Interval.around (m : Nat) (q : Int) : Interval :=
  { low := 4 * m - if m = twoPow 52 && -1074 < q then 1 else 2
    mid := 4 * m
    high := 4 * m + 2
    quarter := q - 2
    closed := m % 2 = 0 }

/-- How `c · 10 ^ k` is written over the denominator that it shares with the
multiples of `2 ^ quarter`. -/
def Interval.onGrid (i : Interval) (k : Int) (c : Nat) : Nat :=
  c * tenPow k.toNat * twoPow (-i.quarter).toNat

/-- How `n · 2 ^ quarter` is written over that same denominator. -/
def Interval.offGrid (i : Interval) (k : Int) (n : Nat) : Nat :=
  n * twoPow i.quarter.toNat * tenPow (-k).toNat

/-- Whether `c · 10 ^ k` rounds to the number. -/
def Interval.holds (i : Interval) (k : Int) (c : Nat) : Bool :=
  let x := i.onGrid k c
  let lo := i.offGrid k i.low
  let hi := i.offGrid k i.high
  (lo < x && x < hi) || (i.closed && (x = lo || x = hi))

/-- The neighbour of the number on the grid of `10 ^ k` that reads back, the
nearer one if both do, and of two equally near the even one. -/
def Interval.nearest? (i : Interval) (k : Int) : Option Nat :=
  let v := i.offGrid k i.mid
  let unit := i.onGrid k 1
  let c := v / unit
  let below := i.holds k c && 0 < c
  let above := i.holds k (c + 1)
  if below && above then some (roundDiv v unit)
  else if below then some c
  else if above then some (c + 1)
  else none

/-- The number of decimal digits of `n`. -/
def digitCount (n : Nat) : Nat := (Nat.toDigits 10 n).length

/-- The least `e` with `m · 2 ^ q < 10 ^ e`, for a positive value. -/
def magnitude (m : Nat) (q : Int) : Int :=
  let num := m * twoPow q.toNat
  let den := twoPow (-q).toNat
  if den ≤ num then digitCount (num / den) else 1 - (digitCount (den / num) : Int)

/-- Digits without their final zeros, the exponent raised to match. -/
def Scaled.normalFrom : Nat → Scaled → Scaled
  | 0, s => s
  | fuel + 1, s =>
    if s.digits % 10 = 0 && s.digits ≠ 0 then
      normalFrom fuel ⟨s.digits / 10, s.exponent + 1⟩
    else s

/-- The first of the grids with `count`, `count + 1`, … digits that has a
neighbour which reads back. -/
def shortestFrom (i : Interval) (e : Int) (count : Nat) : Nat → Scaled
  | 0 => ⟨0, 0⟩
  | tries + 1 =>
    match i.nearest? (e - count) with
    | some c => Scaled.normalFrom (count + 1) ⟨c, e - count⟩
    | none => shortestFrom i e (count + 1) tries

/-- The shortest decimal that reads back as `m · 2 ^ q`. Eighteen digits
always suffice. -/
def shortest (m : Nat) (q : Int) : Scaled :=
  shortestFrom (Interval.around m q) (magnitude m q) 1 18

/-- The text of a decimal whose point stands after `point` of its digits. -/
def Scaled.text (s : Scaled) : String :=
  let ds := Nat.toDigits 10 s.digits
  let point : Int := ds.length + s.exponent
  let positional : List Char :=
    if point ≤ 0 then '0' :: '.' :: List.replicate (-point).toNat '0' ++ ds
    else if point < ds.length then ds.take point.toNat ++ '.' :: ds.drop point.toNat
    else ds ++ List.replicate (point - ds.length).toNat '0' ++ ['.', '0']
  let scientific : List Char :=
    let x := (point - 1).natAbs
    let xs := Nat.toDigits 10 x
    ds.take 1 ++ (if ds.length ≤ 1 then [] else '.' :: ds.drop 1)
      ++ ['e', if point - 1 < 0 then '-' else '+'] ++ (if xs.length < 2 then '0' :: xs else xs)
  String.ofList (if -4 < point && point ≤ 16 then positional else scientific)

/-- The shortest text of a number. -/
def Binary64.text (x : Binary64) : String :=
  match x.reading with
  | .nan => "nan"
  | .infinite negative => if negative then "-inf" else "inf"
  | .finite negative m q =>
    (if negative then "-" else "") ++ (if m = 0 then "0.0" else (shortest m q).text)

end QueryDesk.Decimal
