import Mathlib.Data.List.Dedup
import Mathlib.Data.List.Induction
import QueryDesk.History.Ring

/-!
# Moving to the end and cutting

A list that is kept short drops its oldest entry whenever a new one makes it too
long, and a query that is run again moves to the end.  An entry that was dropped
is out of the last `n` for good, unless it comes again and then as the newest;
so cutting at every step and cutting once at the end come to the same.  What is
cut at the end is the list of all queries in the order of their last occurrence.

## Main results

* `dedup_concat` — the last occurrences after one more query.
* `newest_moved` — cutting before a query is moved to the end changes nothing.
* `newest_dedup_append` — neither does it change what comes of any further queries.
-/

namespace QueryDesk.History

variable {α : Type}

/-! ## The newest entries -/

@[simp] theorem newest_nil (n : Nat) : newest n ([] : List α) = [] := List.drop_nil

theorem length_newest (n : Nat) (xs : List α) : (newest n xs).length = min n xs.length := by
  rw [newest, List.length_drop]
  omega

theorem newest_sublist (n : Nat) (xs : List α) : (newest n xs).Sublist xs := List.drop_sublist _ _

/-- Only what is too old is dropped. -/
theorem newest_append {n : Nat} (xs : List α) {ys : List α} (h : n ≤ ys.length) :
    newest n (xs ++ ys) = newest n ys := by
  have hdrop : (xs ++ ys).length - n = xs.length + (ys.length - n) := by
    rw [List.length_append]
    omega
  rw [newest, newest, hdrop, List.drop_length_add_append]

theorem newest_of_length_le {n : Nat} {xs : List α} (h : xs.length ≤ n) : newest n xs = xs := by
  rw [newest, Nat.sub_eq_zero_of_le h, List.drop_zero]

/-- A list that is short enough is kept whole, and a longer one is an older part
and `n` newest entries. -/
theorem newest_cases (n : Nat) (xs : List α) :
    newest n xs = xs ∨ (newest n xs).length = n ∧ xs = xs.take (xs.length - n) ++ newest n xs := by
  by_cases h : xs.length ≤ n
  · exact .inl (newest_of_length_le h)
  · right
    refine ⟨by rw [length_newest]; omega, ?_⟩
    rw [newest, List.take_append_drop]

/-- Cutting once more before others come changes nothing. -/
theorem newest_newest_append (n : Nat) (xs ys : List α) :
    newest n (newest n xs ++ ys) = newest n (xs ++ ys) := by
  rcases newest_cases n xs with hall | ⟨hlength, hsplit⟩
  · rw [hall]
  · have hroom : n ≤ (newest n xs ++ ys).length := by
      rw [List.length_append]
      omega
    conv_rhs => rw [hsplit, List.append_assoc, newest_append _ hroom]

theorem newest_map {β : Type} (n : Nat) (f : α → β) (xs : List α) :
    newest n (xs.map f) = (newest n xs).map f := by
  rw [newest, newest, List.length_map, List.map_drop]

/-- The newest entries with one more are one fewer of the older ones and that one. -/
theorem newest_concat (n : Nat) (xs : List α) (x : α) :
    newest (n + 1) (xs ++ [x]) = newest n xs ++ [x] := by
  have hdrop : (xs ++ [x]).length - (n + 1) = xs.length - n := by
    rw [List.length_append, List.length_singleton]
    omega
  rw [newest, newest, hdrop, List.drop_append_of_le_length (by omega)]

@[simp] theorem newest_zero (xs : List α) : newest 0 xs = [] := List.drop_length

theorem mem_newest_succ {n : Nat} {xs : List α} {x : α} (hx : x ∈ newest n xs) :
    x ∈ newest (n + 1) xs := by
  have hsplit : newest n xs = (newest (n + 1) xs).drop (xs.length - n - (xs.length - (n + 1))) := by
    rw [newest, newest, List.drop_drop]
    congr 1
    omega
  rw [hsplit] at hx
  exact List.mem_of_mem_drop hx

/-- An entry comes nearer to the end when others are left out. -/
theorem mem_newest_filter {n : Nat} {p : α → Bool} {xs : List α} {x : α}
    (hx : x ∈ newest n xs) (hp : p x = true) : x ∈ newest n (xs.filter p) := by
  induction xs using List.reverseRecOn generalizing n with
  | nil =>
      rw [newest_nil] at hx
      cases hx
  | append_singleton xs y ih =>
      cases n with
      | zero =>
          rw [newest_zero] at hx
          cases hx
      | succ n =>
          rw [newest_concat, List.mem_append, List.mem_singleton] at hx
          rw [List.filter_append]
          rcases hx with hx | rfl
          · have hbefore := ih hx
            by_cases hy : p y = true
            · rw [List.filter_cons_of_pos hy, List.filter_nil, newest_concat]
              exact List.mem_append_left _ hbefore
            · rw [List.filter_cons_of_neg hy, List.filter_nil, List.append_nil]
              exact mem_newest_succ hbefore
          · rw [List.filter_cons_of_pos hp, List.filter_nil, newest_concat]
            exact List.mem_append_right _ (List.mem_singleton_self x)

/-! ## One more query -/

variable [DecidableEq α]

/-- **The last occurrences after one more query**: it moves to the end. -/
theorem dedup_concat (xs : List α) (q : α) :
    (xs ++ [q]).dedup = xs.dedup.filter (· ≠ q) ++ [q] := by
  induction xs with
  | nil => simp
  | cons x xs ih =>
      rw [List.cons_append]
      by_cases hx : x ∈ xs
      · rw [List.dedup_cons_of_mem (List.mem_append_left _ hx), List.dedup_cons_of_mem hx, ih]
      · rw [List.dedup_cons_of_notMem hx]
        by_cases hq : x = q
        · subst hq
          rw [List.dedup_cons_of_mem (by simp), ih]
          simp
        · rw [List.dedup_cons_of_notMem (by simp [hx, hq]), ih]
          simp [hq]

/-- Taking one entry out of a list without repetitions makes it shorter by one at most. -/
theorem length_le_filter_ne {xs : List α} (h : xs.Nodup) (q : α) :
    xs.length ≤ (xs.filter (· ≠ q)).length + 1 := by
  have herase : xs.filter (· ≠ q) = xs.erase q := by
    rw [h.erase_eq_filter]
    exact List.filter_congr fun x _ => Bool.eq_iff_iff.mpr (by simp)
  rw [herase, List.length_erase]
  split <;> omega

/-- **Cutting before a query is moved to the end changes nothing.** -/
theorem newest_moved (n : Nat) {xs : List α} (h : xs.Nodup) (q : α) :
    newest n ((newest n xs).filter (· ≠ q) ++ [q]) = newest n (xs.filter (· ≠ q) ++ [q]) := by
  rcases newest_cases n xs with hall | ⟨hlength, hsplit⟩
  · rw [hall]
  · -- What was cut off is out of reach: `n` entries with the query are behind it.
    have hroom : n ≤ ((newest n xs).filter (· ≠ q) ++ [q]).length := by
      have := length_le_filter_ne (h.sublist (newest_sublist n xs)) q
      rw [List.length_append, List.length_singleton]
      omega
    conv_rhs => rw [hsplit, List.filter_append, List.append_assoc, newest_append _ hroom]

/-- What is among the last of all queries is among the last of the distinct ones. -/
theorem mem_newest_dedup {n : Nat} {xs : List α} {x : α} (hx : x ∈ newest n xs) :
    x ∈ newest n xs.dedup := by
  induction xs using List.reverseRecOn generalizing n with
  | nil =>
      rw [newest_nil] at hx
      cases hx
  | append_singleton xs y ih =>
      cases n with
      | zero =>
          rw [newest_zero] at hx
          cases hx
      | succ n =>
          rw [newest_concat, List.mem_append, List.mem_singleton] at hx
          rw [dedup_concat, newest_concat, List.mem_append, List.mem_singleton]
          by_cases hxy : x = y
          · exact .inr hxy
          · have hbefore := ih (hx.resolve_right hxy)
            exact .inl (mem_newest_filter hbefore (by simpa using hxy))

/-- **Going on from a list that was cut** leads to the same newest queries. -/
theorem newest_dedup_append (n : Nat) (xs ys : List α) :
    newest n (newest n xs.dedup ++ ys).dedup = newest n (xs ++ ys).dedup := by
  induction ys using List.reverseRecOn with
  | nil =>
      have hnodup := (List.nodup_dedup xs).sublist (newest_sublist n _)
      have hcut := newest_newest_append n xs.dedup []
      rw [List.append_nil, List.append_nil] at hcut
      rw [List.append_nil, List.append_nil, hnodup.dedup, hcut]
  | append_singleton ys y ih =>
      rw [← List.append_assoc, ← List.append_assoc, dedup_concat, dedup_concat,
        ← newest_moved n (List.nodup_dedup _), ih, newest_moved n (List.nodup_dedup _)]

end QueryDesk.History
