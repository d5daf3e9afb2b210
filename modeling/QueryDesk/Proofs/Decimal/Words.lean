import Mathlib.Tactic.SplitIfs
import QueryDesk.Decimal.Binary64

/-!
# Words and what they stand for

The word of a finite number is its sign and, below it, the exponent over the
fraction.  A significand has 53 bits, the first of which is set unless the
exponent is the least one; the word leaves that bit out, or, which is the same,
adds the significand to an exponent that is one less.  So a finite number is
known by its sign and by `(q + 1074) · 2 ^ 52 + m`.

Of all the words that are no numbers only one is ever made.  A word is *regular*
if it is that one, or a finite number, or an infinity.

## Main results

* `reading_ofParts` — what a word below the infinities stands for.
* `Regular.cases_reading` — a regular word is known by what it stands for.
* `regular_of_reading` — all words but those that stand for no number are regular.
* `regular_ofDecimal` — rounding makes regular words only.
-/

namespace QueryDesk.Decimal

namespace Binary64

/-- Whether `m · 2 ^ q` is written as a finite word has it. -/
structure Canonical (m : Nat) (q : Int) : Prop where
  /-- The significand has at most 53 bits, -/
  small : m < twoPow 53
  least : -1074 ≤ q
  most : q ≤ 971
  /-- and no fewer, unless the exponent is the least one. -/
  leading : q = -1074 ∨ twoPow 52 ≤ m

/-- The bits of `m · 2 ^ q` below the sign. -/
def magnitudeBits (m : Nat) (q : Int) : Nat := (q + 1074).toNat * twoPow 52 + m

/-- The bits of the infinities below the sign. -/
def infinityBits : Nat := 2047 * twoPow 52

theorem Canonical.magnitudeBits_lt {m : Nat} {q : Int} (h : Canonical m q) :
    magnitudeBits m q < infinityBits := by
  obtain ⟨hsmall, hleast, hmost, -⟩ := h
  have htwo : twoPow 53 = 2 * twoPow 52 := by decide
  have hq : (q + 1074).toNat * twoPow 52 ≤ 2045 * twoPow 52 :=
    Nat.mul_le_mul_right _ (by omega)
  unfold magnitudeBits infinityBits
  omega

/-! ## Reading a word -/

theorem bits_ofParts (negative : Bool) {w : Nat} (hw : w ≤ infinityBits) :
    (ofParts negative w).bits.toNat = (if negative then twoPow 63 else 0) + w := by
  have hbound : infinityBits = 9218868437227405312 := by decide
  have htop : twoPow 63 = 9223372036854775808 := by decide
  unfold ofParts
  rw [UInt64.toNat_ofNat']
  cases negative with
  | false =>
      show w % 2 ^ 64 = 0 + w
      rw [Nat.mod_eq_of_lt (by omega), Nat.zero_add]
  | true =>
      show (twoPow 63 + w) % 2 ^ 64 = twoPow 63 + w
      exact Nat.mod_eq_of_lt (by omega)

/-- The three fields of a word. -/
theorem fields_ofParts (negative : Bool) {w : Nat} (hw : w ≤ infinityBits) :
    decide (twoPow 63 ≤ (ofParts negative w).bits.toNat) = negative ∧
      (ofParts negative w).bits.toNat / twoPow 52 % twoPow 11 = w / twoPow 52 ∧
      (ofParts negative w).bits.toNat % twoPow 52 = w % twoPow 52 := by
  have hbound : infinityBits = 9218868437227405312 := by decide
  have htop : twoPow 63 = 9223372036854775808 := by decide
  have hunit : twoPow 52 = 4503599627370496 := by decide
  have hrange : twoPow 11 = 2048 := by decide
  rw [bits_ofParts negative hw, hrange, hunit]
  cases negative with
  | false =>
      simp only [Bool.false_eq_true, if_false, decide_eq_false_iff_not]
      omega
  | true =>
      simp only [if_true, decide_eq_true_eq]
      omega

/-- **What a word below the infinities stands for.** -/
theorem reading_ofParts (negative : Bool) {w : Nat} (hw : w < infinityBits) :
    ∃ m q, Canonical m q ∧ magnitudeBits m q = w ∧
      (ofParts negative w).reading = .finite negative m q := by
  obtain ⟨hsign, hexponent, hfraction⟩ := fields_ofParts negative (Nat.le_of_lt hw)
  have hunit : twoPow 52 = 4503599627370496 := by decide
  have htwo : twoPow 53 = 9007199254740992 := by decide
  have hbound : infinityBits = 9218868437227405312 := by decide
  have hexponent_lt : w / twoPow 52 < 2047 := by
    rw [hunit]
    omega
  have hfraction_lt : w % twoPow 52 < twoPow 52 := Nat.mod_lt _ (twoPow_pos 52)
  have hw' : twoPow 52 * (w / twoPow 52) + w % twoPow 52 = w := Nat.div_add_mod w (twoPow 52)
  have hno : ¬ w / twoPow 52 = 2047 := by omega
  unfold reading
  simp only [hsign, hexponent, hfraction, hno, if_false]
  generalize w / twoPow 52 = e at hexponent_lt hw' ⊢
  generalize w % twoPow 52 = f at hfraction_lt hw' ⊢
  rw [hunit] at hfraction_lt hw'
  by_cases hzero : e = 0
  · rw [if_pos hzero]
    refine ⟨_, _, ⟨?_, Int.le_refl _, by omega, .inl rfl⟩, ?_, rfl⟩
    · omega
    · rw [magnitudeBits, hunit]
      omega
  · rw [if_neg hzero]
    refine ⟨_, _, ⟨?_, ?_, ?_, .inr (Nat.le_add_right _ _)⟩, ?_, rfl⟩
    · omega
    · omega
    · omega
    · have hq : ((e : Int) - 1075 + 1074).toNat = e - 1 := by omega
      rw [magnitudeBits, hq, hunit]
      omega

theorem reading_infinity (negative : Bool) : (infinity negative).reading = .infinite negative := by
  cases negative <;> decide

theorem reading_notANumber : notANumber.reading = .nan := by decide

/-! ## Regular words -/

/-- A word that is made of a number, or stands for none. -/
inductive Regular : Binary64 → Prop where
  | number (negative : Bool) {w : Nat} (hw : w ≤ infinityBits) : Regular (ofParts negative w)
  | notANumber : Regular notANumber

/-- **A regular word is known by what it stands for.** -/
theorem Regular.cases_reading {x : Binary64} (h : Regular x) :
    (∃ negative m q, Canonical m q ∧ x.reading = .finite negative m q ∧
      x = ofParts negative (magnitudeBits m q)) ∨
    (∃ negative, x.reading = .infinite negative ∧ x = infinity negative) ∨
    (x.reading = .nan ∧ x = Binary64.notANumber) := by
  cases h with
  | number negative hw =>
      rename_i w
      rcases Nat.lt_or_eq_of_le hw with hlt | rfl
      · obtain ⟨m, q, hcanonical, hbits, hreading⟩ := reading_ofParts negative hlt
        exact .inl ⟨negative, m, q, hcanonical, hreading, by rw [hbits]⟩
      · exact .inr (.inl ⟨negative, reading_infinity negative, rfl⟩)
  | notANumber => exact .inr (.inr ⟨reading_notANumber, rfl⟩)

/-- **A word that stands for a number or an infinity is regular.** -/
theorem regular_of_reading {x : Binary64} (h : x.reading ≠ .nan) : Regular x := by
  have hlt : x.bits.toNat < 18446744073709551616 := x.bits.toNat_lt
  have htop : twoPow 63 = 9223372036854775808 := by decide
  have hunit : twoPow 52 = 4503599627370496 := by decide
  have hrange : twoPow 11 = 2048 := by decide
  have hbound : infinityBits = 9218868437227405312 := by decide
  -- Nothing but the least fraction stands below the greatest exponent.
  have hfraction : x.bits.toNat / twoPow 52 % twoPow 11 = 2047 → x.bits.toNat % twoPow 52 = 0 := by
    intro hexponent
    refine Decidable.byContradiction fun hfraction => h ?_
    simp [reading, hexponent, hfraction]
  rw [hunit, hrange] at hfraction
  obtain ⟨negative, w, hw, hbits⟩ : ∃ negative : Bool, ∃ w, w ≤ infinityBits ∧
      (if negative then twoPow 63 else 0) + w = x.bits.toNat := by
    by_cases hsign : twoPow 63 ≤ x.bits.toNat
    · exact ⟨true, x.bits.toNat - twoPow 63, by omega, by simp only [if_true]; omega⟩
    · exact ⟨false, x.bits.toNat, by omega, by simp⟩
  have hx : x = ofParts negative w := by
    obtain ⟨bits⟩ := x
    exact congrArg mk (UInt64.toNat_inj.mp ((bits_ofParts negative hw).trans hbits).symm)
  exact hx ▸ .number negative hw

theorem regular_zero (negative : Bool) : Regular (ofParts negative 0) :=
  .number negative (Nat.zero_le _)

theorem regular_infinity (negative : Bool) : Regular (infinity negative) := by
  show Regular (ofParts negative infinityBits)
  exact .number negative (Nat.le_refl _)

theorem regular_ofRatio (negative : Bool) (num den : Nat) : Regular (ofRatio negative num den) := by
  unfold ofRatio
  split
  · exact regular_zero negative
  · extract_lets t atLeast e m w
    show Regular (if infinityBits ≤ w then infinity negative else ofParts negative w)
    by_cases hw : infinityBits ≤ w
    · rw [if_pos hw]
      exact regular_infinity negative
    · rw [if_neg hw]
      exact .number negative (Nat.le_of_not_le hw)

/-- **Rounding makes regular words only.** -/
theorem regular_ofDecimal (negative : Bool) (m : Nat) (e : Int) :
    Regular (ofDecimal negative m e) := by
  unfold ofDecimal
  split_ifs
  · exact regular_zero negative
  · exact regular_infinity negative
  · exact regular_ofRatio ..
  · exact regular_zero negative
  · exact regular_ofRatio ..

end Binary64

end QueryDesk.Decimal
