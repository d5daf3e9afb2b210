import Mathlib.Data.List.DropRight
import QueryDesk.Text.Blank

/-!
# Stripped texts

Taking the blanks off a text a second time changes nothing, and nothing is left
of a text exactly if it has nothing but blanks.

## Main results

* `strip_strip` — stripping is idempotent.
* `strip_eq_empty_iff`, `isBlankText_strip` — what is left of a blank text.
-/

namespace QueryDesk.Text

theorem dropSuffixWhile_eq_rdropWhile (p : Char → Bool) (cs : List Char) :
    dropSuffixWhile p cs = cs.rdropWhile p := rfl

/-- A trimmed text does not begin with a blank. -/
theorem dropWhile_trimmed (cs : List Char) : (trimmed cs).dropWhile isBlank = trimmed cs := by
  rw [List.dropWhile_eq_self_iff]
  intro hl
  have hfront : trimmed cs <+: cs.dropWhile isBlank := by
    rw [trimmed, dropSuffixWhile_eq_rdropWhile]
    exact List.rdropWhile_prefix _ _
  rw [hfront.getElem hl]
  exact List.dropWhile_get_zero_not isBlank cs (lt_of_lt_of_le hl hfront.length_le)

/-- A trimmed text does not end with a blank either. -/
theorem trimmed_trimmed (cs : List Char) : trimmed (trimmed cs) = trimmed cs := by
  have hsuffix : dropSuffixWhile isBlank (trimmed cs) = trimmed cs := by
    simp only [trimmed, dropSuffixWhile_eq_rdropWhile, List.rdropWhile_idempotent]
  calc trimmed (trimmed cs)
      = dropSuffixWhile isBlank ((trimmed cs).dropWhile isBlank) := rfl
    _ = dropSuffixWhile isBlank (trimmed cs) := by rw [dropWhile_trimmed]
    _ = trimmed cs := hsuffix

theorem allBlank_iff {cs : List Char} : allBlank cs = true ↔ ∀ c ∈ cs, isBlank c = true := by
  rw [allBlank, List.all_eq_true]

theorem trimmed_eq_nil_iff {cs : List Char} : trimmed cs = [] ↔ allBlank cs = true := by
  rw [trimmed, dropSuffixWhile_eq_rdropWhile, List.rdropWhile_eq_nil_iff, allBlank_iff]
  constructor
  · intro hrest c hc
    rw [← List.takeWhile_append_dropWhile (p := isBlank) (l := cs), List.mem_append] at hc
    rcases hc with hc | hc
    · exact List.mem_takeWhile_imp hc
    · exact hrest c hc
  · intro hall c hc
    exact hall c (List.dropWhile_subset _ hc)

/-- **Stripping is idempotent.** -/
@[simp] theorem strip_strip (s : String) : strip (strip s) = strip s := by
  simp only [strip, String.toList_ofList, trimmed_trimmed]

/-- Nothing is left exactly of a blank text. -/
theorem strip_eq_empty_iff {s : String} : strip s = "" ↔ isBlankText s = true := by
  rw [strip, isBlankText, ← trimmed_eq_nil_iff, ← String.ofList_nil, String.ofList_inj]

@[simp] theorem isBlankText_strip (s : String) : isBlankText (strip s) = isBlankText s := by
  rw [Bool.eq_iff_iff, ← strip_eq_empty_iff, ← strip_eq_empty_iff, strip_strip]

end QueryDesk.Text
