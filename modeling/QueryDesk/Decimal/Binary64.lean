import QueryDesk.Decimal.Power

/-!
# Double-width binary numbers

A number of the double-width binary format, kept as its 64-bit word. All the
arithmetic here is exact: a word is read as `m · 2 ^ q`, and a quotient of
naturals is rounded to the nearest word, a tie going to the even one. No
machine floating-point operation is used, so every definition can be evaluated
and reasoned about.
-/

namespace QueryDesk.Decimal

/-- `n / d` rounded to the nearest natural, a half going to the even one. -/
def roundDiv (n d : Nat) : Nat :=
  let q := n / d
  let r := n % d
  if 2 * r < d then q else if d < 2 * r then q + 1 else q + q % 2

/-- A number of the double-width binary format. -/
structure Binary64 where
  bits : UInt64
  deriving DecidableEq, Repr, Inhabited

namespace Binary64

/-- What a word stands for. -/
inductive Reading where
  | nan
  | infinite (negative : Bool)
  /-- The value `m · 2 ^ q`, with its sign kept apart because zero has two. -/
  | finite (negative : Bool) (m : Nat) (q : Int)
  deriving Repr, DecidableEq

/-- Reads the sign, the exponent and the fraction of a word. -/
def reading (x : Binary64) : Reading :=
  let w := x.bits.toNat
  let negative : Bool := twoPow 63 ≤ w
  let e : Nat := w / twoPow 52 % twoPow 11
  let f : Nat := w % twoPow 52
  if e = 2047 then if f = 0 then .infinite negative else .nan
  else if e = 0 then .finite negative f (-1074)
  else .finite negative (twoPow 52 + f) ((e : Int) - 1075)

/-- The word with a sign and the 63 bits `w` below it. -/
def ofParts (negative : Bool) (w : Nat) : Binary64 :=
  ⟨UInt64.ofNat (if negative then twoPow 63 + w else w)⟩

/-- The word of an infinity. -/
def infinity (negative : Bool) : Binary64 := ofParts negative (2047 * twoPow 52)

/-- The word of what is no number. -/
def notANumber : Binary64 := ofParts false (2047 * twoPow 52 + twoPow 51)

/-- The word nearest to `num / den`; a value beyond the largest finite word is
infinite. -/
def ofRatio (negative : Bool) (num den : Nat) : Binary64 :=
  if num = 0 || den = 0 then ofParts negative 0
  else
    let t : Int := (num.log2 : Int) - den.log2
    let atLeast := if 0 ≤ t then den * twoPow t.toNat ≤ num else den ≤ num * twoPow (-t).toNat
    let e := max ((if atLeast then t else t - 1) - 52) (-1074)
    let m :=
      if 0 ≤ e then roundDiv num (den * twoPow e.toNat) else roundDiv (num * twoPow (-e).toNat) den
    let w := (e + 1074).toNat * twoPow 52 + m
    if 2047 * twoPow 52 ≤ w then infinity negative else ofParts negative w

/-- The word nearest to `m · 10 ^ e`. Exponents far outside the range of the
format are settled without computing the power. -/
def ofDecimal (negative : Bool) (m : Nat) (e : Int) : Binary64 :=
  if m = 0 then ofParts negative 0
  else if 400 < e then infinity negative
  else if 0 ≤ e then ofRatio negative (m * tenPow e.toNat) 1
  else if (m.log2 : Int) + 1 + 3 * e < -1200 then ofParts negative 0
  else ofRatio negative m (tenPow (-e).toNat)

end Binary64

end QueryDesk.Decimal
