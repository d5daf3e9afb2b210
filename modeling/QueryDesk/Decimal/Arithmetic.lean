import QueryDesk.Decimal.Binary64

/-!
# Sums and products of binary numbers

Every operation computes the exact result over the readings of its operands and
rounds once.
-/

namespace QueryDesk.Decimal.Binary64

/-- The word nearest to `n · 2 ^ q`. -/
def ofScaled (n : Int) (q : Int) : Binary64 :=
  ofRatio (n < 0) (n.natAbs * twoPow q.toNat) (twoPow (-q).toNat)

/-- A signed significand. -/
def signed (negative : Bool) (m : Nat) : Int := if negative then -m else m

/-- The word with the other sign. -/
def neg (x : Binary64) : Binary64 :=
  ⟨UInt64.ofNat ((x.bits.toNat + twoPow 63) % twoPow 64)⟩

/-- The sum of two numbers. Zeros keep their sign only if it is the same. -/
def add (x y : Binary64) : Binary64 :=
  match x.reading, y.reading with
  | .nan, _ => notANumber
  | _, .nan => notANumber
  | .infinite a, .infinite b => if a = b then infinity a else notANumber
  | .infinite a, _ => infinity a
  | _, .infinite b => infinity b
  | .finite a m q, .finite b n p =>
    let low := min q p
    let sum := signed a m * twoPow (q - low).toNat + signed b n * twoPow (p - low).toNat
    if sum = 0 then ofParts (a && b) 0 else ofScaled sum low

/-- The difference of two numbers. -/
def sub (x y : Binary64) : Binary64 := x.add y.neg

/-- A number taken `n` times. -/
def times (x : Binary64) (n : Nat) : Binary64 :=
  match x.reading with
  | .nan => notANumber
  | .infinite a => if n = 0 then notANumber else infinity a
  | .finite a m q => if m * n = 0 then ofParts a 0 else ofScaled (signed a (m * n)) q

end QueryDesk.Decimal.Binary64
