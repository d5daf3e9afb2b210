import QueryDesk.Decimal.Fixed

/-!
# Durations

A number of milliseconds for a reader: seconds with two places from one second
on, whole milliseconds from one on, and two places below that.
-/

namespace QueryDesk.Report

open Decimal

/-- A number of milliseconds. -/
inductive Milliseconds where
  | whole (n : Int)
  | real (x : Binary64)
  deriving Repr, DecidableEq

/-- Whether a number is at least a positive natural one. -/
def Milliseconds.reaches (limit : Nat) : Milliseconds → Bool
  | .whole n => (limit : Int) ≤ n
  | .real x =>
    match x.reading with
    | .nan => false
    | .infinite negative => !negative
    | .finite negative m q => !negative && limit * twoPow (-q).toNat ≤ m * twoPow q.toNat

/-- A thousandth of a number, rounded once. -/
def Milliseconds.thousandth : Milliseconds → Binary64
  | .whole n => .ofRatio (n < 0) n.natAbs 1000
  | .real x =>
    match x.reading with
    | .finite negative m q => .ofRatio negative (m * twoPow q.toNat) (1000 * twoPow (-q).toNat)
    | _ => x

/-- The number as a binary one. -/
def Milliseconds.binary : Milliseconds → Binary64
  | .whole n => .ofRatio (n < 0) n.natAbs 1
  | .real x => x

/-- A whole number beyond the range of binary ones has no text. -/
def Milliseconds.inRange (ms : Milliseconds) (x : Binary64) : Bool :=
  match ms, x.reading with
  | .whole _, .infinite _ => false
  | _, _ => true

/-- The text of a duration. -/
def duration? (ms : Milliseconds) : Option String :=
  let (x, places, unit) :=
    if ms.reaches 1000 then (ms.thousandth, 2, "s")
    else if ms.reaches 1 then (ms.binary, 0, "ms")
    else (ms.binary, 2, "ms")
  if ms.inRange x then some (x.fixed places ++ unit) else none

end QueryDesk.Report
