/-!
# Sets of code points

A property of characters that a standard fixes by enumeration is kept as an
ascending list of closed ranges of code points. The list is searched from the
left and the search stops at the first range that starts beyond the code
point, so a character of the low blocks is decided after a few comparisons.
-/

namespace QueryDesk.Text

/-- Closed ranges of code points, in ascending order and without overlap. -/
abbrev CodeSet := List (Nat × Nat)

namespace CodeSet

/-- Whether the code point `n` lies in one of the ranges. -/
def contains : CodeSet → Nat → Bool
  | [], _ => false
  | (lo, hi) :: rest, n => if n < lo then false else if n ≤ hi then true else contains rest n

/-- The code points of a set, in order. -/
def codes : CodeSet → List Nat
  | [] => []
  | (lo, hi) :: rest => List.range' lo (hi + 1 - lo) ++ codes rest

/-- A code point that is found is one of the enumerated ones. -/
theorem mem_codes_of_contains {s : CodeSet} {n : Nat} (h : s.contains n = true) : n ∈ s.codes := by
  induction s with
  | nil => simp [contains] at h
  | cons r rest ih =>
    obtain ⟨lo, hi⟩ := r
    unfold contains at h
    split at h
    · simp at h
    · split at h
      · simp only [codes, List.mem_append, List.mem_range'_1]
        left; omega
      · simp only [codes, List.mem_append]
        exact Or.inr (ih h)

end CodeSet

end QueryDesk.Text
