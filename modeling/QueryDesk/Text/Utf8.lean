/-!
# Texts as bytes

The eight-bit form of a text and the reading of it. The reader goes from left
to right; a byte that cannot go on a character ends the piece before it, and
such an ill-formed piece is reported as one. A strict reading accepts no
ill-formed piece, a lenient one shows each as the replacement character.

## Main results

* `length_next_le` — a step of the reader leaves no more than it was given.
-/

namespace QueryDesk.Text.Utf8

/-- The bytes of a text. -/
def encode (cs : List Char) : List UInt8 := cs.flatMap String.utf8EncodeChar

/-- What a first byte announces: its payload, the number of bytes that follow,
and the range of the first of them. The narrow ranges keep out overlong forms,
surrogates and values beyond the last code point. -/
def announced (b : UInt8) : Option (Nat × Nat × Nat × Nat) :=
  let n := b.toNat
  if n < 0x80 then some (n, 0, 0x80, 0xBF)
  else if n < 0xC2 then none
  else if n < 0xE0 then some (n % 0x20, 1, 0x80, 0xBF)
  else if n = 0xE0 then some (n % 0x10, 2, 0xA0, 0xBF)
  else if n = 0xED then some (n % 0x10, 2, 0x80, 0x9F)
  else if n < 0xF0 then some (n % 0x10, 2, 0x80, 0xBF)
  else if n = 0xF0 then some (n % 8, 3, 0x90, 0xBF)
  else if n < 0xF4 then some (n % 8, 3, 0x80, 0xBF)
  else if n = 0xF4 then some (n % 8, 3, 0x80, 0x8F)
  else none

/-- Goes on with a character of which `need` bytes are missing, the next of
them between `lo` and `hi`. The answer is its code point, or nothing when a
byte does not fit, and the bytes that were not used. -/
def goOn (value lo hi : Nat) : Nat → List UInt8 → Option Nat × List UInt8
  | 0, bs => (some value, bs)
  | _ + 1, [] => (none, [])
  | need + 1, b :: bs =>
    if lo ≤ b.toNat && b.toNat ≤ hi then goOn (value * 0x40 + b.toNat % 0x40) 0x80 0xBF need bs
    else (none, b :: bs)

/-- The character or ill-formed piece that starts with `b`, and the bytes after it. -/
def next (b : UInt8) (bs : List UInt8) : Option Char × List UInt8 :=
  match announced b with
  | none => (none, bs)
  | some (value, need, lo, hi) =>
    let (code, rest) := goOn value lo hi need bs
    (code.map Char.ofNat, rest)

theorem length_goOn_le (value lo hi need : Nat) (bs : List UInt8) :
    (goOn value lo hi need bs).2.length ≤ bs.length := by
  induction need generalizing value lo hi bs with
  | zero => simp [goOn]
  | succ need ih =>
    cases bs with
    | nil => simp [goOn]
    | cons b bs =>
      unfold goOn
      split
      · have := ih (value * 0x40 + b.toNat % 0x40) 0x80 0xBF bs
        simp only [List.length_cons]; omega
      · simp

theorem length_next_le (b : UInt8) (bs : List UInt8) : (next b bs).2.length ≤ bs.length := by
  unfold next
  split
  · simp
  · exact length_goOn_le ..

/-- The characters of a row of bytes, with nothing in the place of each
ill-formed piece. -/
def pieces : List UInt8 → List (Option Char)
  | [] => []
  | b :: bs => (next b bs).1 :: pieces (next b bs).2
termination_by bs => bs.length
decreasing_by
  have := length_next_le b bs
  simp only [List.length_cons]; omega

/-- The text of a row of bytes without ill-formed pieces. -/
def decode? (bs : List UInt8) : Option (List Char) := (pieces bs).mapM id

/-- The text of any row of bytes. -/
def decodeLossy (bs : List UInt8) : List Char := (pieces bs).map (·.getD '\uFFFD')

/-- A text whose lines all end in a line feed: a carriage return counts as a
line end, and so does one with a line feed after it. -/
def lineFeedsOnly : List Char → List Char
  | [] => []
  | '\r' :: '\n' :: cs => '\n' :: lineFeedsOnly cs
  | c :: cs => (if c = '\r' then '\n' else c) :: lineFeedsOnly cs

end QueryDesk.Text.Utf8
