import QueryDesk.Proofs.Decimal.Rounding

/-!
# Shortest decimals read back

The digits of a shortest decimal are found on the first grid that has a neighbour
of the number in its interval.  On a grid without one, the two multiples around
the number lie outside of the interval, so the unit of the grid is at least as
wide as the interval.  With seventeen digits the unit is a `10 ^ 16`-th of the
number at most, and less than that: the interval is at least a `2 ^ 53`-rd of the
number wide, and three quarters of a `2 ^ 52`-nd for a power of two.  So the search
ends within seventeen tries, and the final zeros that are taken off do not change
the value.

## Main results

* `Interval.nearest?_isSome` — a grid finer than the interval has a neighbour.
* `shortest_contains` — the shortest decimal of a number lies in its interval.
* `ofDecimal_of_shortest` — it reads back as the number, however it is written.
-/

namespace QueryDesk.Decimal

open Binary64 (Canonical)

/-- The value of a decimal. -/
def Scaled.value (s : Scaled) : ℚ := s.digits * 10 ^ s.exponent

/-! ## Neighbours on a grid -/

theorem roundDiv_eq_or (n d : Nat) : roundDiv n d = n / d ∨ roundDiv n d = n / d + 1 := by
  unfold roundDiv
  simp only
  rcases Nat.mod_two_eq_zero_or_one (n / d) with h | h
  · split_ifs <;> omega
  · split_ifs <;> omega

namespace Interval

variable {i : Interval} {k : Int}

/-- A neighbour that is found reads back, and is no zero. -/
theorem nearest?_eq_some {c : Nat} (h : i.nearest? k = some c) :
    0 < c ∧ i.Contains (c * 10 ^ k) := by
  rw [← i.holds_iff]
  unfold nearest? at h
  simp only [Bool.and_eq_true, decide_eq_true_eq] at h
  split at h
  · rename_i hboth
    rcases roundDiv_eq_or (i.offGrid k i.mid) (i.onGrid k 1) with hc | hc
    · rw [← Option.some.inj h, hc]
      exact ⟨hboth.1.2, hboth.1.1⟩
    · rw [← Option.some.inj h, hc]
      exact ⟨Nat.succ_pos _, hboth.2⟩
  · split at h
    · rename_i hbelow
      rw [← Option.some.inj h]
      exact ⟨hbelow.2, hbelow.1⟩
    · split at h
      · rename_i habove
        rw [← Option.some.inj h]
        exact ⟨Nat.succ_pos _, habove⟩
      · cases h

/-- The multiples of the unit of a grid around the middle. -/
theorem floor_bracket (i : Interval) (k : Int) :
    let c := i.offGrid k i.mid / i.onGrid k 1
    (c * 10 ^ k : ℚ) ≤ i.mid * 2 ^ i.quarter ∧
      (i.mid * 2 ^ i.quarter : ℚ) < (c + 1 : Nat) * 10 ^ k := by
  intro c
  have hunit : 0 < i.onGrid k 1 := by
    unfold onGrid
    exact Nat.mul_pos (Nat.mul_pos Nat.one_pos (tenPow_pos _)) (twoPow_pos _)
  have hgrid : ∀ n : Nat, i.onGrid k n = n * i.onGrid k 1 := by
    intro n
    unfold onGrid
    ring
  constructor
  · rw [← not_lt, ← (i.onGrid_value k c i.mid).2, not_lt, hgrid]
    exact Nat.div_mul_le_self _ _
  · rw [← (i.onGrid_value k (c + 1) i.mid).2, hgrid]
    exact (Nat.div_lt_iff_lt_mul hunit).mp (Nat.lt_succ_self _)

/-- **A grid finer than the interval has a neighbour that reads back**, if the
middle is at least one unit of it. -/
theorem nearest?_isSome (hlow : (i.low * 2 ^ i.quarter : ℚ) < i.mid * 2 ^ i.quarter)
    (hhigh : (i.mid * 2 ^ i.quarter : ℚ) < i.high * 2 ^ i.quarter)
    (hfloor : (10 ^ k : ℚ) ≤ i.mid * 2 ^ i.quarter)
    (hfine : (10 ^ k : ℚ) < i.high * 2 ^ i.quarter - i.low * 2 ^ i.quarter) :
    (i.nearest? k).isSome = true := by
  have hunit : (0 : ℚ) < 10 ^ k := by positivity
  obtain ⟨hbelow, habove⟩ := i.floor_bracket k
  unfold nearest?
  simp only
  generalize i.offGrid k i.mid / i.onGrid k 1 = c at hbelow habove ⊢
  have hc : 0 < c := by
    have h : (1 : ℚ) * 10 ^ k < (c + 1 : Nat) * 10 ^ k := by linarith
    have h : (1 : ℚ) < (c + 1 : Nat) := lt_of_mul_lt_mul_right h hunit.le
    have h : 1 < c + 1 := by exact_mod_cast h
    omega
  -- One of the two multiples is nearer than the end on its side.
  have hone : i.holds k c = true ∨ i.holds k (c + 1) = true := by
    rw [holds_iff, holds_iff]
    by_cases hfar : (i.low * 2 ^ i.quarter : ℚ) < c * 10 ^ k
    · exact .inl (.inl ⟨hfar, by linarith⟩)
    · refine .inr (.inl ⟨by linarith, ?_⟩)
      rw [Nat.cast_add, Nat.cast_one, add_mul, one_mul]
      linarith
  rcases hone with h | h
  · cases habove : i.holds k (c + 1) <;> simp [h, hc]
  · cases hbelow : i.holds k c <;> simp [h, hc]

end Interval

/-! ## The search -/

theorem Scaled.normalFrom_value (fuel : Nat) (s : Scaled) :
    (normalFrom fuel s).value = s.value ∧
      (0 < s.digits → 0 < (normalFrom fuel s).digits) := by
  induction fuel generalizing s with
  | zero => exact ⟨rfl, id⟩
  | succ fuel ih =>
      rw [normalFrom]
      split
      · rename_i hzero
        simp only [ne_eq, decide_not, Bool.and_eq_true, decide_eq_true_eq, Bool.not_eq_true',
          decide_eq_false_iff_not] at hzero
        have hdigits : s.digits = s.digits / 10 * 10 := by omega
        obtain ⟨hvalue, hpos⟩ := ih ⟨s.digits / 10, s.exponent + 1⟩
        refine ⟨?_, fun _ => hpos (show 0 < s.digits / 10 by omega)⟩
        have hcast : (s.digits : ℚ) = (s.digits / 10 : Nat) * 10 := by exact_mod_cast hdigits
        rw [hvalue, value, value, hcast, zpow_add₀ (by norm_num), zpow_one]
        ring
      · exact ⟨rfl, id⟩

/-- The search ends with a neighbour if one of the grids has one. -/
theorem shortestFrom_contains {i : Interval} {e : Int} {j tries : Nat}
    (hj : (i.nearest? (e - j)).isSome = true) {count : Nat} (hcount : count ≤ j)
    (htries : j < count + tries) :
    0 < (shortestFrom i e count tries).digits ∧
      i.Contains (shortestFrom i e count tries).value := by
  induction tries generalizing count with
  | zero => omega
  | succ tries ih =>
      rw [shortestFrom]
      cases hnearest : i.nearest? (e - count) with
      | some c =>
          obtain ⟨hc, hcontains⟩ := Interval.nearest?_eq_some hnearest
          obtain ⟨hvalue, hpos⟩ := Scaled.normalFrom_value (count + 1) ⟨c, e - count⟩
          refine ⟨hpos hc, ?_⟩
          rw [hvalue]
          exact hcontains
      | none =>
          have hne : count ≠ j := by
            rintro rfl
            rw [hnearest] at hj
            cases hj
          exact ih (by omega) (by omega)

/-! ## Seventeen digits -/

theorem digitCount_bracket {n : Nat} (hn : 0 < n) :
    10 ^ (digitCount n - 1) ≤ n ∧ n < 10 ^ digitCount n := by
  have hcount : 0 < digitCount n := List.length_pos_iff.mpr Nat.toDigits_ne_nil
  constructor
  · by_contra hlt
    rcases Nat.eq_zero_or_pos (digitCount n - 1) with hzero | hpos
    · rw [hzero, pow_zero] at hlt
      omega
    · have h := (Nat.length_toDigits_le_iff (b := 10) (by decide) hpos).mpr (not_le.mp hlt)
      have h : digitCount n ≤ digitCount n - 1 := h
      omega
  · exact (Nat.length_toDigits_le_iff (b := 10) (by decide) hcount).mp (Nat.le_refl _)

/-- The magnitude of a number is not too large. -/
theorem magnitude_le {m : Nat} (hm : 0 < m) (q : Int) :
    (10 : ℚ) ^ (magnitude m q - 1) ≤ m * 2 ^ q := by
  have hden : 0 < twoPow (-q).toNat := twoPow_pos _
  have hnum : 0 < m * twoPow q.toNat := Nat.mul_pos hm (twoPow_pos _)
  have hvalue : (m * 2 ^ q : ℚ) = (m * twoPow q.toNat : Nat) / twoPow (-q).toNat := by
    rw [two_zpow_eq_div, Nat.cast_mul, mul_div_assoc]
  rw [hvalue]
  unfold magnitude
  simp only
  generalize twoPow (-q).toNat = den at hden ⊢
  generalize m * twoPow q.toNat = num at hnum ⊢
  have hden' : (0 : ℚ) < den := Nat.cast_pos.mpr hden
  have hnum' : (0 : ℚ) < num := Nat.cast_pos.mpr hnum
  by_cases hle : den ≤ num
  · rw [if_pos hle]
    obtain ⟨hlow, -⟩ := digitCount_bracket (Nat.div_pos hle hden)
    have hcount : 0 < digitCount (num / den) := List.length_pos_iff.mpr Nat.toDigits_ne_nil
    have hexp : (digitCount (num / den) : Int) - 1 =
        ((digitCount (num / den) - 1 : Nat) : Int) := by omega
    rw [hexp, zpow_natCast, le_div_iff₀ hden']
    have h : 10 ^ (digitCount (num / den) - 1) * den ≤ num :=
      (Nat.mul_le_mul_right _ hlow).trans (Nat.div_mul_le_self _ _)
    exact_mod_cast h
  · rw [if_neg hle]
    obtain ⟨-, hhigh⟩ := digitCount_bracket (Nat.div_pos (Nat.le_of_not_le hle) hnum)
    have hexp : (1 : Int) - digitCount (den / num) - 1 = -(digitCount (den / num) : Int) := by omega
    rw [hexp, zpow_neg, zpow_natCast, inv_le_comm₀ (by positivity) (div_pos hnum' hden'),
      inv_div, div_le_iff₀ hnum']
    have h : den ≤ 10 ^ digitCount (den / num) * num := by
      exact ((Nat.div_lt_iff_lt_mul hnum).mp hhigh).le
    exact_mod_cast h

/-- **Seventeen digits suffice.** -/
theorem nearest?_seventeen {m : Nat} {q : Int} (hcanonical : Canonical m q) (hm : 0 < m) :
    ((Interval.around m q).nearest? (magnitude m q - 17)).isSome = true := by
  have hunit : (0 : ℚ) < 2 ^ q := by positivity
  have hsmall : (m : ℚ) < 2 ^ 53 := by exact_mod_cast hcanonical.small
  have hmagnitude : (10 : ℚ) ^ (magnitude m q - 17) * 10 ^ 16 ≤ m * 2 ^ q := by
    rw [← zpow_natCast, ← zpow_add₀ (by norm_num)]
    have hexp : magnitude m q - 17 + (16 : Nat) = magnitude m q - 1 := by
      push_cast
      ring
    rw [hexp]
    exact magnitude_le hm q
  have hlow := Interval.low_around hm q
  have hmid := Interval.mid_around m q
  have hhigh := Interval.high_around m q
  have hgrid : (0 : ℚ) < 10 ^ (magnitude m q - 17) := by positivity
  refine Interval.nearest?_isSome ?_ ?_ ?_ ?_
  · rw [hlow, hmid]
    split_ifs <;> linarith
  · rw [hmid, hhigh]
    linarith
  · rw [hmid]
    linarith
  · rw [hhigh, hlow]
    split_ifs with hcase
    · -- Below a power of two there is only a quarter, but the number is half as large.
      have hpow : (m : ℚ) = 2 ^ 52 := by
        rw [hcase.1]
        exact cast_twoPow 52
      rw [hpow] at hmagnitude ⊢
      norm_num at hmagnitude ⊢
      linarith
    · have h : (m : ℚ) * 2 ^ q < 2 ^ 53 * 2 ^ q := mul_lt_mul_of_pos_right hsmall hunit
      norm_num at h hmagnitude ⊢
      linarith

/-- **The shortest decimal of a number lies in its interval.** -/
theorem shortest_contains {m : Nat} {q : Int} (hcanonical : Canonical m q) (hm : 0 < m) :
    0 < (shortest m q).digits ∧ (Interval.around m q).Contains (shortest m q).value :=
  shortestFrom_contains (nearest?_seventeen hcanonical hm) (by decide) (by decide)

/-- **The shortest decimal of a number reads back as it**, however it is written. -/
theorem ofDecimal_of_shortest (negative : Bool) {m : Nat} {q : Int} (hcanonical : Canonical m q)
    (hm : 0 < m) {c : Nat} {e : Int} (hvalue : (c * 10 ^ e : ℚ) = (shortest m q).value) :
    Binary64.ofDecimal negative c e =
      Binary64.ofParts negative (Binary64.magnitudeBits m q) := by
  refine Binary64.ofDecimal_eq negative hcanonical hm ?_
  rw [hvalue]
  exact Binary64.near_of_contains hm (shortest_contains hcanonical hm).2

end QueryDesk.Decimal
