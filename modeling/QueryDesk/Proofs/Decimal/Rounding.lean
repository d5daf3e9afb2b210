import Mathlib.Algebra.Order.Field.Power
import Mathlib.Algebra.Order.Field.Rat
import Mathlib.Data.Int.Log
import Mathlib.Data.Rat.Floor
import Mathlib.Tactic.FieldSimp
import Mathlib.Tactic.Linarith
import Mathlib.Tactic.NormNum
import Mathlib.Tactic.Positivity
import Mathlib.Tactic.Ring
import QueryDesk.Decimal.Shortest
import QueryDesk.Proofs.Decimal.Words

/-!
# Rounding to the nearest word

The word nearest to a quotient is found by the exponent of the quotient first:
it decides the unit, and the quotient is rounded to a multiple of it.  Whether
the word comes out as that of `m · 2 ^ q` depends on the value alone: it does
just when the value lies in the interval around `m · 2 ^ q`.  There the unit is
`2 ^ q`, except just below a power of two, where the unit is half of that and the
quotient is rounded up to the power.

## Main results

* `ofRatio_eq` — a quotient in the interval of a number is rounded to it.
* `ofDecimal_eq` — and so is a decimal, however it is written.
* `Interval.holds_iff` — the test on a grid is about the value.
-/

namespace QueryDesk.Decimal

/-! ## Powers with signs -/

theorem cast_twoPow (k : Nat) : (twoPow k : ℚ) = 2 ^ k := Nat.cast_pow 2 k

theorem cast_tenPow (k : Nat) : (tenPow k : ℚ) = 10 ^ k := Nat.cast_pow 10 k

/-- A power is its positive part over its negative part. -/
theorem zpow_eq_div (b : ℚ) (k : Int) : b ^ k = b ^ k.toNat / b ^ (-k).toNat := by
  rcases Int.le_total 0 k with hk | hk
  · have hneg : (-k).toNat = 0 := by omega
    rw [hneg, pow_zero, div_one, ← zpow_natCast, Int.toNat_of_nonneg hk]
  · have hpos : k.toNat = 0 := by omega
    have hneg : (((-k).toNat : Nat) : Int) = -k := Int.toNat_of_nonneg (by omega)
    rw [hpos, pow_zero, ← zpow_natCast b (-k).toNat, hneg, zpow_neg, one_div, inv_inv]

theorem two_zpow_eq_div (k : Int) : (2 : ℚ) ^ k = twoPow k.toNat / twoPow (-k).toNat := by
  rw [cast_twoPow, cast_twoPow]
  exact zpow_eq_div _ k

theorem ten_zpow_eq_div (k : Int) : (10 : ℚ) ^ k = tenPow k.toNat / tenPow (-k).toNat := by
  rw [cast_tenPow, cast_tenPow]
  exact zpow_eq_div _ k

/-! ## Rounded quotients -/

/-- A quotient within a half of a natural is rounded to it, and so is one a half
away if the natural is even. -/
theorem roundDiv_eq {n d k : Nat} (hd : 0 < d) (hlow : 2 * (k * d) ≤ 2 * n + d)
    (hhigh : 2 * n ≤ 2 * (k * d) + d)
    (htie : 2 * (k * d) = 2 * n + d ∨ 2 * n = 2 * (k * d) + d → k % 2 = 0) :
    roundDiv n d = k := by
  have hdiv := Nat.div_add_mod n d
  have hmod := Nat.mod_lt n hd
  unfold roundDiv
  simp only
  generalize n / d = q at hdiv ⊢
  generalize n % d = r at hdiv hmod ⊢
  -- The natural is the floor of the quotient or the one after it.
  have hle : q ≤ k := by
    by_contra hlt
    have hstep : (k + 1) * d ≤ q * d := Nat.mul_le_mul_right d (by omega)
    rw [Nat.add_mul, Nat.one_mul] at hstep
    rw [Nat.mul_comm d q] at hdiv
    omega
  have hge : k ≤ q + 1 := by
    by_contra hlt
    have hstep : (q + 2) * d ≤ k * d := Nat.mul_le_mul_right d (by omega)
    rw [Nat.add_mul] at hstep
    rw [Nat.mul_comm d q] at hdiv
    omega
  rw [Nat.mul_comm d q] at hdiv
  rcases (by omega : k = q ∨ k = q + 1) with rfl | rfl
  · split_ifs <;> omega
  · rw [Nat.add_mul, Nat.one_mul] at hlow hhigh htie
    split_ifs <;> omega

/-- The same for the value of a quotient. -/
theorem roundDiv_eq_of_value {n d k : Nat} (hd : 0 < d) (hlow : (k : ℚ) - 1 / 2 ≤ n / d)
    (hhigh : (n : ℚ) / d ≤ k + 1 / 2)
    (htie : (n : ℚ) / d = k - 1 / 2 ∨ (n : ℚ) / d = k + 1 / 2 → k % 2 = 0) :
    roundDiv n d = k := by
  have hd' : (0 : ℚ) < d := Nat.cast_pos.mpr hd
  rw [le_div_iff₀ hd'] at hlow
  rw [div_le_iff₀ hd'] at hhigh
  rw [div_eq_iff hd'.ne', div_eq_iff hd'.ne'] at htie
  refine roundDiv_eq hd ?_ ?_ ?_
  · have h : (2 * (k * d) : ℚ) ≤ 2 * n + d := by linarith
    exact_mod_cast h
  · have h : (2 * n : ℚ) ≤ 2 * (k * d) + d := by linarith
    exact_mod_cast h
  · intro h
    apply htie
    rcases h with h | h
    · have h : (2 * (k * d) : ℚ) = 2 * n + d := by exact_mod_cast h
      exact .inl (by linarith)
    · have h : (2 * n : ℚ) = 2 * (k * d) + d := by exact_mod_cast h
      exact .inr (by linarith)

/-! ## Intervals -/

namespace Interval

/-- Whether a value lies in an interval. -/
def Contains (i : Interval) (r : ℚ) : Prop :=
  (i.low * 2 ^ i.quarter < r ∧ r < i.high * 2 ^ i.quarter) ∨
    (i.closed = true ∧ (r = i.low * 2 ^ i.quarter ∨ r = i.high * 2 ^ i.quarter))

/-- A number on the grid, and a multiple of the quarter, by their values. -/
theorem onGrid_value (i : Interval) (k : Int) (c n : Nat) :
    (i.onGrid k c < i.offGrid k n ↔ (c * 10 ^ k : ℚ) < n * 2 ^ i.quarter) ∧
      (i.offGrid k n < i.onGrid k c ↔ (n * 2 ^ i.quarter : ℚ) < c * 10 ^ k) := by
  have hten : (0 : ℚ) < tenPow (-k).toNat := Nat.cast_pos.mpr (tenPow_pos _)
  have htwo : (0 : ℚ) < twoPow (-i.quarter).toNat := Nat.cast_pos.mpr (twoPow_pos _)
  rw [ten_zpow_eq_div, two_zpow_eq_div, ← mul_div_assoc, ← mul_div_assoc,
    div_lt_div_iff₀ hten htwo, div_lt_div_iff₀ htwo hten]
  unfold onGrid offGrid
  constructor <;> norm_cast

theorem onGrid_eq_offGrid (i : Interval) (k : Int) (c n : Nat) :
    i.onGrid k c = i.offGrid k n ↔ (c * 10 ^ k : ℚ) = n * 2 ^ i.quarter := by
  obtain ⟨hlt, hgt⟩ := i.onGrid_value k c n
  rw [le_antisymm_iff, le_antisymm_iff, ← not_lt, ← not_lt, ← not_lt, ← not_lt, hlt, hgt]

/-- **The test on a grid is about the value.** -/
theorem holds_iff (i : Interval) (k : Int) (c : Nat) :
    i.holds k c = true ↔ i.Contains (c * 10 ^ k) := by
  unfold holds Contains
  simp only [Bool.or_eq_true, Bool.and_eq_true, decide_eq_true_eq, (i.onGrid_value k c _).1,
    (i.onGrid_value k c _).2, i.onGrid_eq_offGrid]

/-! The ends of the interval around a number. -/

theorem quarter_value (n : ℚ) (q : Int) : n * 2 ^ (q - 2) = n / 4 * 2 ^ q := by
  rw [zpow_sub₀ (by norm_num : (2 : ℚ) ≠ 0)]
  norm_num
  ring

theorem high_around (m : Nat) (q : Int) :
    ((around m q).high * 2 ^ (around m q).quarter : ℚ) = (m + 1 / 2) * 2 ^ q := by
  show ((4 * m + 2 : Nat) : ℚ) * 2 ^ (q - 2) = _
  rw [quarter_value]
  push_cast
  ring

theorem mid_around (m : Nat) (q : Int) :
    ((around m q).mid * 2 ^ (around m q).quarter : ℚ) = m * 2 ^ q := by
  show ((4 * m : Nat) : ℚ) * 2 ^ (q - 2) = _
  rw [quarter_value]
  push_cast
  ring

theorem low_around {m : Nat} (hm : 0 < m) (q : Int) :
    ((around m q).low * 2 ^ (around m q).quarter : ℚ) =
      (if m = twoPow 52 ∧ -1074 < q then (m : ℚ) - 1 / 4 else m - 1 / 2) * 2 ^ q := by
  show ((4 * m - (if m = twoPow 52 && decide (-1074 < q) then 1 else 2) : Nat) : ℚ) *
    2 ^ (q - 2) = _
  rw [quarter_value]
  by_cases hcase : m = twoPow 52 ∧ -1074 < q
  · rw [if_pos (by simpa using hcase), if_pos hcase, Nat.cast_sub (by omega)]
    push_cast
    ring
  · rw [if_neg (by simpa using hcase), if_neg hcase, Nat.cast_sub (by omega)]
    push_cast
    ring

end Interval

namespace Binary64

variable {m : Nat} {q : Int} {r : ℚ}

/-- What lies in the interval of a number, in units of its last bit: at most half
a unit away, a quarter below a power of two, and half a unit only if the
significand is even. -/
structure Near (m : Nat) (q : Int) (r : ℚ) : Prop where
  low : (m : ℚ) - 1 / 2 ≤ r / 2 ^ q
  high : r / 2 ^ q ≤ m + 1 / 2
  tie : r / 2 ^ q = m - 1 / 2 ∨ r / 2 ^ q = m + 1 / 2 → m % 2 = 0
  power : m = twoPow 52 → -1074 < q → (m : ℚ) - 1 / 4 ≤ r / 2 ^ q

/-- What lies in the interval of a number is near it. -/
theorem near_of_contains (hm : 0 < m) (h : (Interval.around m q).Contains r) : Near m q r := by
  have hunit : (0 : ℚ) < 2 ^ q := by positivity
  have htwo : twoPow 52 % 2 = 0 := by decide
  have hclosed : (Interval.around m q).closed = true → m % 2 = 0 := fun h => by
    simpa [Interval.around] using h
  have hlow := Interval.low_around hm q
  unfold Interval.Contains at h
  rw [Interval.high_around, hlow] at h
  simp only [← lt_div_iff₀ hunit, ← div_lt_iff₀ hunit, ← div_eq_iff hunit.ne'] at h
  by_cases hcase : m = twoPow 52 ∧ -1074 < q
  · rw [if_pos hcase] at h
    have heven : m % 2 = 0 := hcase.1 ▸ htwo
    rcases h with ⟨hl, hh⟩ | ⟨-, hl | hh⟩
    · exact ⟨by linarith, hh.le, fun _ => heven, fun _ _ => hl.le⟩
    · exact ⟨by linarith, by linarith, fun _ => heven, fun _ _ => hl.ge⟩
    · exact ⟨by linarith, hh.le, fun _ => heven, fun _ _ => by linarith⟩
  · rw [if_neg hcase] at h
    rcases h with ⟨hl, hh⟩ | ⟨hc, hl | hh⟩
    · refine ⟨hl.le, hh.le, ?_, fun hpow hq => absurd ⟨hpow, hq⟩ hcase⟩
      rintro (htie | htie)
      · exact absurd htie hl.ne'
      · exact absurd htie hh.ne
    · exact ⟨hl.ge, by linarith, fun _ => hclosed hc, fun hpow hq => absurd ⟨hpow, hq⟩ hcase⟩
    · exact ⟨by linarith, hh.le, fun _ => hclosed hc, fun hpow hq => absurd ⟨hpow, hq⟩ hcase⟩

/-! ## The nearest word -/

section Ratio

variable {num den : Nat}

/-- The test of an exponent is about the value of the quotient. -/
theorem atLeast_iff (hden : 0 < den) (t : Int) :
    (if 0 ≤ t then den * twoPow t.toNat ≤ num else den ≤ num * twoPow (-t).toNat) ↔
      (2 : ℚ) ^ t ≤ num / den := by
  have hden' : (0 : ℚ) < den := Nat.cast_pos.mpr hden
  have hpow : (0 : ℚ) < twoPow (-t).toNat := Nat.cast_pos.mpr (twoPow_pos _)
  rw [two_zpow_eq_div, div_le_div_iff₀ hpow hden']
  rcases Int.lt_or_le t 0 with ht | ht
  · have hzero : t.toNat = 0 := by omega
    rw [if_neg (by omega), hzero, twoPow_zero]
    norm_cast
    rw [Nat.one_mul]
  · have hzero : (-t).toNat = 0 := by omega
    rw [if_pos ht, hzero, twoPow_zero]
    norm_cast
    rw [Nat.mul_one, Nat.mul_comm]

/-- The exponents of two naturals leave two candidates for that of their quotient. -/
theorem quotient_bracket (hnum : 0 < num) (hden : 0 < den) :
    (2 : ℚ) ^ ((num.log2 : Int) - den.log2 - 1) ≤ num / den ∧
      (num : ℚ) / den < 2 ^ ((num.log2 : Int) - den.log2 + 1) := by
  have hden' : (0 : ℚ) < den := Nat.cast_pos.mpr hden
  have hnum_le : (2 : ℚ) ^ num.log2 ≤ num := by exact_mod_cast Nat.log2_self_le hnum.ne'
  have hnum_lt : (num : ℚ) < 2 ^ (num.log2 + 1) := by exact_mod_cast Nat.lt_log2_self
  have hden_le : (2 : ℚ) ^ den.log2 ≤ den := by exact_mod_cast Nat.log2_self_le hden.ne'
  have hden_lt : (den : ℚ) < 2 ^ (den.log2 + 1) := by exact_mod_cast Nat.lt_log2_self
  constructor
  · have hexp : (num.log2 : Int) - den.log2 - 1 = num.log2 - ((den.log2 + 1 : Nat) : Int) := by
      push_cast
      ring
    rw [hexp, zpow_sub₀ (by norm_num), zpow_natCast, zpow_natCast,
      div_le_div_iff₀ (by positivity) hden']
    exact mul_le_mul hnum_le hden_lt.le hden'.le (Nat.cast_nonneg _)
  · have hexp : (num.log2 : Int) - den.log2 + 1 = ((num.log2 + 1 : Nat) : Int) - den.log2 := by
      push_cast
      ring
    rw [hexp, zpow_sub₀ (by norm_num), zpow_natCast, zpow_natCast,
      div_lt_div_iff₀ hden' (by positivity)]
    exact mul_lt_mul hnum_lt hden_le (by positivity) (by positivity)

/-- **The exponent of a quotient** is the one that its value has. -/
theorem exponent_eq_log (hnum : 0 < num) (hden : 0 < den) :
    let t : Int := (num.log2 : Int) - den.log2
    (if (if 0 ≤ t then den * twoPow t.toNat ≤ num else den ≤ num * twoPow (-t).toNat) then t
      else t - 1) = Int.log 2 ((num : ℚ) / den) := by
  intro t
  have hpos : (0 : ℚ) < num / den := div_pos (Nat.cast_pos.mpr hnum) (Nat.cast_pos.mpr hden)
  obtain ⟨hlow, hhigh⟩ := quotient_bracket hnum hden
  have hlog : ∀ e : Int, (2 : ℚ) ^ e ≤ num / den → (num : ℚ) / den < 2 ^ (e + 1) →
      e = Int.log 2 ((num : ℚ) / den) := by
    intro e hle hlt
    have hle := (Int.zpow_le_iff_le_log (b := 2) (by decide) hpos).mp (by exact_mod_cast hle)
    have hlt := (Int.lt_zpow_iff_log_lt (b := 2) (by decide) hpos).mp (by exact_mod_cast hlt)
    omega
  by_cases h : (2 : ℚ) ^ t ≤ num / den
  · rw [if_pos ((atLeast_iff hden t).mpr h)]
    exact hlog t h hhigh
  · rw [if_neg fun hle => h ((atLeast_iff hden t).mp hle)]
    refine hlog (t - 1) hlow ?_
    rw [Int.sub_add_cancel]
    exact lt_of_not_ge h

/-- A quotient in a unit is rounded by its value. -/
theorem scaled_eq_of_value (hden : 0 < den) (e : Int) {k : Nat}
    (hlow : (k : ℚ) - 1 / 2 ≤ num / den / 2 ^ e) (hhigh : (num : ℚ) / den / 2 ^ e ≤ k + 1 / 2)
    (htie : (num : ℚ) / den / 2 ^ e = k - 1 / 2 ∨ (num : ℚ) / den / 2 ^ e = k + 1 / 2 →
      k % 2 = 0) :
    (if 0 ≤ e then roundDiv num (den * twoPow e.toNat)
      else roundDiv (num * twoPow (-e).toNat) den) = k := by
  rw [two_zpow_eq_div] at hlow hhigh htie
  rcases Int.lt_or_le e 0 with he | he
  · have hzero : e.toNat = 0 := by omega
    have hvalue : (num : ℚ) / den / (twoPow e.toNat / twoPow (-e).toNat) =
        (num * twoPow (-e).toNat : Nat) / den := by
      rw [hzero, twoPow_zero, Nat.cast_one, one_div, div_inv_eq_mul, Nat.cast_mul]
      ring
    rw [hvalue] at hlow hhigh htie
    rw [if_neg (by omega)]
    exact roundDiv_eq_of_value hden hlow hhigh htie
  · have hzero : (-e).toNat = 0 := by omega
    have hvalue : (num : ℚ) / den / (twoPow e.toNat / twoPow (-e).toNat) =
        num / (den * twoPow e.toNat : Nat) := by
      rw [hzero, twoPow_zero, Nat.cast_one, div_one, div_div, Nat.cast_mul]
    rw [hvalue] at hlow hhigh htie
    rw [if_pos he]
    exact roundDiv_eq_of_value (Nat.mul_pos hden (twoPow_pos _)) hlow hhigh htie

/-- A quotient that is rounded to a finite word in its own unit. -/
theorem ofRatio_eq_ofParts (negative : Bool) (hnum : 0 < num) (hden : 0 < den) {e : Int} {k : Nat}
    (he : max (Int.log 2 ((num : ℚ) / den) - 52) (-1074) = e)
    (hlow : (k : ℚ) - 1 / 2 ≤ num / den / 2 ^ e) (hhigh : (num : ℚ) / den / 2 ^ e ≤ k + 1 / 2)
    (htie : (num : ℚ) / den / 2 ^ e = k - 1 / 2 ∨ (num : ℚ) / den / 2 ^ e = k + 1 / 2 →
      k % 2 = 0)
    (hfinite : magnitudeBits k e < infinityBits) :
    ofRatio negative num den = ofParts negative (magnitudeBits k e) := by
  have hexponent := exponent_eq_log hnum hden
  simp only at hexponent
  unfold ofRatio
  rw [if_neg (by simp only [Bool.or_eq_true, decide_eq_true_eq]; omega)]
  simp only
  rw [hexponent, he, scaled_eq_of_value hden e hlow hhigh htie]
  exact if_neg (Nat.not_le.mpr hfinite)

end Ratio

/-! ### Below a power of two -/

/-- What is at least `2 ^ j` units is that far above the exponent of the unit. -/
theorem le_log_of_le (hr : 0 < r) {j : Nat} (h : (2 : ℚ) ^ j ≤ r / 2 ^ q) :
    q + j ≤ Int.log 2 r := by
  have hunit : (0 : ℚ) < 2 ^ q := by positivity
  refine (Int.zpow_le_iff_le_log (b := 2) (by decide) hr).mp ?_
  rw [le_div_iff₀ hunit, mul_comm, ← zpow_natCast, ← zpow_add₀ (by norm_num)] at h
  exact_mod_cast h

theorem log_lt_of_lt (hr : 0 < r) {j : Nat} (h : r / 2 ^ q < (2 : ℚ) ^ j) :
    Int.log 2 r < q + j := by
  have hunit : (0 : ℚ) < 2 ^ q := by positivity
  refine (Int.lt_zpow_iff_log_lt (b := 2) (by decide) hr).mp ?_
  rw [div_lt_iff₀ hunit, mul_comm, ← zpow_natCast, ← zpow_add₀ (by norm_num)] at h
  exact_mod_cast h

/-- The least number of an exponent has the bits of the number behind the greatest
one of the exponent before. -/
theorem magnitudeBits_power (hq : -1074 < q) :
    magnitudeBits (twoPow 53) (q - 1) = magnitudeBits (twoPow 52) q := by
  have hexp : (q + 1074).toNat = (q - 1 + 1074).toNat + 1 := by omega
  have htwo : twoPow 53 = twoPow 52 * 2 := twoPow_succ 52
  rw [magnitudeBits, magnitudeBits, hexp, Nat.add_mul, Nat.one_mul]
  omega

/-- What lies below a power of two and near it is as near to it in units half as
large. -/
theorem Near.below_power (h : Near (twoPow 52) q r) (hq : -1074 < q)
    (hbelow : r / 2 ^ q < 2 ^ 52) :
    (2 : ℚ) ^ 53 - 1 / 2 ≤ r / 2 ^ (q - 1) ∧ r / 2 ^ (q - 1) < 2 ^ 53 := by
  have hquarter := h.power rfl hq
  rw [cast_twoPow] at hquarter
  have hdouble : r / 2 ^ (q - 1) = 2 * (r / 2 ^ q) := by
    have hhalf : (2 : ℚ) ^ (q - 1) = 2 ^ q / 2 := by
      rw [zpow_sub₀ (by norm_num), zpow_one]
    rw [hhalf]
    field_simp
  rw [hdouble]
  norm_num at hquarter hbelow ⊢
  constructor
  · linarith
  · linarith

/-- **A quotient in the interval of a number is rounded to it.** -/
theorem ofRatio_eq (negative : Bool) {num den : Nat} (hcanonical : Canonical m q) (hm : 0 < m)
    (hden : 0 < den) (hnear : Near m q (num / den)) :
    ofRatio negative num den = ofParts negative (magnitudeBits m q) := by
  have hfinite := hcanonical.magnitudeBits_lt
  obtain ⟨hsmall, hleast, -, hleading⟩ := hcanonical
  have hunit : (0 : ℚ) < 2 ^ q := by positivity
  have hm' : (1 : ℚ) ≤ m := by exact_mod_cast hm
  have hpos : (0 : ℚ) < num / den := by
    have h : (0 : ℚ) < num / den / 2 ^ q := by linarith [hnear.low]
    exact (div_pos_iff_of_pos_right hunit).mp h
  have hnum : 0 < num := by
    have h := (div_pos_iff_of_pos_right (Nat.cast_pos.mpr hden)).mp hpos
    exact_mod_cast h
  have htop : Int.log 2 ((num : ℚ) / den) < q + 53 := by
    refine log_lt_of_lt (j := 53) hpos ?_
    have hsmall : (m : ℚ) + 1 ≤ 2 ^ 53 := by exact_mod_cast hsmall
    linarith [hnear.high]
  by_cases hnormal : (2 : ℚ) ^ 52 ≤ num / den / 2 ^ q
  · have hlog := le_log_of_le hpos hnormal
    exact ofRatio_eq_ofParts negative hnum hden (by omega) hnear.low hnear.high hnear.tie hfinite
  · have hbelow := lt_of_not_ge hnormal
    have hlog := log_lt_of_lt hpos hbelow
    by_cases hq : q = -1074
    · exact ofRatio_eq_ofParts negative hnum hden (by omega) hnear.low hnear.high hnear.tie
        hfinite
    · -- Only the power of two itself is that near to what lies below it.
      have hpow : m = twoPow 52 := by
        have hge : twoPow 52 ≤ m := hleading.resolve_left hq
        have hle : (m : ℚ) < 2 ^ 52 + 1 := by linarith [hnear.low]
        have hle : m < 2 ^ 52 + 1 := by exact_mod_cast hle
        have htwo : twoPow 52 = 2 ^ 52 := rfl
        omega
      subst hpow
      have hq' : -1074 < q := by omega
      obtain ⟨hlow, hhigh⟩ := hnear.below_power hq' hbelow
      have hlog' : q - 1 + (52 : Nat) ≤ Int.log 2 ((num : ℚ) / den) := by
        refine le_log_of_le hpos (le_trans ?_ hlow)
        norm_num
      have hcast : ((twoPow 53 : Nat) : ℚ) = 2 ^ 53 := cast_twoPow 53
      rw [← magnitudeBits_power hq'] at hfinite ⊢
      refine ofRatio_eq_ofParts negative hnum hden (by omega) ?_ ?_ (fun _ => by decide) hfinite
      · rwa [hcast]
      · rw [hcast]
        linarith

/-! ## Decimals -/

/-- What is near a finite number is below `2 ^ 1024`. -/
theorem Near.lt_top (h : Near m q r) (hcanonical : Canonical m q) : r < 2 ^ 1024 := by
  have hunit : (0 : ℚ) < 2 ^ q := by positivity
  have hsmall : (m : ℚ) + 1 ≤ 2 ^ 53 := by exact_mod_cast hcanonical.small
  have hvalue : r / 2 ^ q < 2 ^ 53 := by linarith [h.high]
  have hq : (2 : ℚ) ^ q ≤ 2 ^ (971 : Int) := zpow_le_zpow_right₀ (by norm_num) hcanonical.most
  calc r < 2 ^ 53 * 2 ^ q := (div_lt_iff₀ hunit).mp hvalue
    _ ≤ 2 ^ 53 * 2 ^ (971 : Int) := mul_le_mul_of_nonneg_left hq (by norm_num)
    _ = 2 ^ 1024 := by
      rw [← zpow_natCast, ← zpow_natCast, ← zpow_add₀ (by norm_num)]
      rfl

/-- What is near a positive number is at least half of the least one. -/
theorem Near.ge_bottom (h : Near m q r) (hcanonical : Canonical m q) (hm : 0 < m) :
    (2 : ℚ) ^ (-1075 : Int) ≤ r := by
  have hunit : (0 : ℚ) < 2 ^ q := by positivity
  have hm' : (1 : ℚ) ≤ m := by exact_mod_cast hm
  have hvalue : 1 / 2 ≤ r / 2 ^ q := by linarith [h.low]
  have hq : (2 : ℚ) ^ (-1074 : Int) ≤ 2 ^ q := zpow_le_zpow_right₀ (by norm_num) hcanonical.least
  calc (2 : ℚ) ^ (-1075 : Int) = 1 / 2 * 2 ^ (-1074 : Int) := by
        rw [show (-1075 : Int) = -1 + -1074 from rfl, zpow_add₀ (by norm_num), zpow_neg_one,
          one_div]
    _ ≤ 1 / 2 * 2 ^ q := mul_le_mul_of_nonneg_left hq (by norm_num)
    _ ≤ r := (le_div_iff₀ hunit).mp hvalue

/-- A decimal with a negative exponent is below a power of two that it shows. -/
theorem decimal_lt_two_zpow (c : Nat) {e : Int} (he : e ≤ 0) :
    (c * 10 ^ e : ℚ) < 2 ^ ((c.log2 : Int) + 1 + 3 * e) := by
  have hc : (c : ℚ) < 2 ^ ((c.log2 : Int) + 1) := by exact_mod_cast Nat.lt_log2_self
  have hten : (10 : ℚ) ^ e ≤ 2 ^ (3 * e) := by
    rw [zpow_mul]
    have hinv := zpow_le_zpow_left₀ (show 0 ≤ -e by omega) (by positivity)
      (by norm_num : (2 : ℚ) ^ (3 : Int) ≤ 10)
    rw [zpow_neg, zpow_neg] at hinv
    exact (inv_le_inv₀ (by positivity) (by positivity)).mp hinv
  calc (c * 10 ^ e : ℚ) ≤ c * 2 ^ (3 * e) := mul_le_mul_of_nonneg_left hten (Nat.cast_nonneg c)
    _ < 2 ^ ((c.log2 : Int) + 1) * 2 ^ (3 * e) := mul_lt_mul_of_pos_right hc (by positivity)
    _ = 2 ^ ((c.log2 : Int) + 1 + 3 * e) := (zpow_add₀ (by norm_num) _ _).symm

/-- **A decimal in the interval of a number is rounded to it**, however it is
written. -/
theorem ofDecimal_eq (negative : Bool) (hcanonical : Canonical m q) (hm : 0 < m) {c : Nat}
    {e : Int} (hnear : Near m q (c * 10 ^ e)) :
    ofDecimal negative c e = ofParts negative (magnitudeBits m q) := by
  have hbottom := hnear.ge_bottom hcanonical hm
  have hc : 0 < c := by
    rcases Nat.eq_zero_or_pos c with rfl | hc
    · have hpos : (0 : ℚ) < 2 ^ (-1075 : Int) := by positivity
      rw [Nat.cast_zero, zero_mul] at hbottom
      exact absurd hbottom (not_le.mpr hpos)
    · exact hc
  unfold ofDecimal
  rw [if_neg hc.ne']
  -- No exponent is so large that the value is not even looked at.
  have hlarge : ¬ 400 < e := by
    intro he
    have htop := hnear.lt_top hcanonical
    have hten : (10 : ℚ) ^ (400 : Int) ≤ c * 10 ^ e := by
      have hc' : (1 : ℚ) ≤ c := by exact_mod_cast hc
      calc (10 : ℚ) ^ (400 : Int) ≤ 10 ^ e := zpow_le_zpow_right₀ (by norm_num) he.le
        _ ≤ c * 10 ^ e := le_mul_of_one_le_left (by positivity) hc'
    have hpowers : (2 : ℚ) ^ 1024 < 10 ^ (400 : Int) := by
      calc (2 : ℚ) ^ 1024 = (2 ^ 8) ^ 128 := by rw [← pow_mul]
        _ < (10 ^ 3) ^ 128 := pow_lt_pow_left₀ (by norm_num) (by norm_num) (by decide)
        _ = 10 ^ (384 : Int) := by
          rw [← pow_mul]
          rfl
        _ ≤ 10 ^ (400 : Int) := zpow_le_zpow_right₀ (by norm_num) (by decide)
    exact absurd htop (not_lt.mpr (hpowers.le.trans hten))
  rw [if_neg hlarge]
  by_cases he : 0 ≤ e
  · rw [if_pos he]
    have hzero : (-e).toNat = 0 := by omega
    refine ofRatio_eq negative hcanonical hm Nat.one_pos ?_
    have hvalue : ((c * tenPow e.toNat : Nat) : ℚ) / (1 : Nat) = c * 10 ^ e := by
      rw [ten_zpow_eq_div, hzero, tenPow_zero, Nat.cast_one, div_one, div_one, Nat.cast_mul]
    rw [hvalue]
    exact hnear
  · rw [if_neg he]
    have hsmall : ¬ (c.log2 : Int) + 1 + 3 * e < -1200 := by
      intro hlt
      have hvalue := decimal_lt_two_zpow c (e := e) (by omega)
      have hpowers : (2 : ℚ) ^ ((c.log2 : Int) + 1 + 3 * e) ≤ 2 ^ (-1075 : Int) :=
        zpow_le_zpow_right₀ (by norm_num) (by omega)
      exact absurd (hvalue.trans_le hpowers) (not_lt.mpr hbottom)
    rw [if_neg hsmall]
    have hzero : e.toNat = 0 := by omega
    refine ofRatio_eq negative hcanonical hm (tenPow_pos _) ?_
    have hvalue : (c : ℚ) / tenPow (-e).toNat = c * 10 ^ e := by
      rw [ten_zpow_eq_div, hzero, tenPow_zero, Nat.cast_one, mul_one_div]
    rw [hvalue]
    exact hnear

end Binary64

end QueryDesk.Decimal
