import Mathlib.Data.List.DropRight
import Mathlib.Data.List.TakeWhile
import QueryDesk.Text.Word

/-!
# The end of a text

What stands at the end of a text is read from behind: as far back as a property of
characters holds.  That is the longest tail with this property.  If one property
is narrower than another, its tail can as well be read within the wider one; so a
word at the end of a text is the word at the end of its last stretch without a
blank, and that stretch is the last word of the text when it is cut at its blanks.

## Main results

* `longestTail_iff` — what is read from behind is the longest tail.
* `suffixWhile_suffixWhile`, `dropSuffixWhile_suffixWhile` — a tail within a tail.
* `getLast?_words` — the last of the words that the blanks of a text separate.
-/

namespace QueryDesk.Text

variable {p q : Char → Bool} {cs tail text : List Char}

/-! ## The longest tail -/

/-- The longest tail of a text on which `p` holds throughout. -/
structure LongestTail (p : Char → Bool) (tail text : List Char) : Prop where
  isSuffix : tail <:+ text
  all : ∀ c ∈ tail, p c = true
  longest : ∀ other, other <:+ text → (∀ c ∈ other, p c = true) → other.length ≤ tail.length

theorem suffixWhile_eq_rtakeWhile (p : Char → Bool) (cs : List Char) :
    suffixWhile p cs = cs.rtakeWhile p := rfl

theorem mem_suffixWhile {c : Char} (h : c ∈ suffixWhile p cs) : p c = true :=
  List.mem_rtakeWhile_imp h

theorem suffixWhile_isSuffix (p : Char → Bool) (cs : List Char) : suffixWhile p cs <:+ cs :=
  List.rtakeWhile_suffix p cs

theorem longestTail_suffixWhile (p : Char → Bool) (cs : List Char) :
    LongestTail p (suffixWhile p cs) cs where
  isSuffix := suffixWhile_isSuffix p cs
  all := fun _ hc => mem_suffixWhile hc
  longest := by
    rintro other ⟨before, rfl⟩ hall
    have hrun : ∀ c ∈ other.reverse, p c = true := fun c hc => hall c (List.mem_reverse.mp hc)
    rw [suffixWhile, List.reverse_append, List.takeWhile_append_of_pos hrun, List.length_reverse,
      List.length_append, List.length_reverse]
    omega

/-- **What is read from behind is the longest tail.** -/
theorem longestTail_iff : LongestTail p tail text ↔ suffixWhile p text = tail := by
  constructor
  · intro h
    have hread := longestTail_suffixWhile p text
    have hlength : (suffixWhile p text).length = tail.length :=
      Nat.le_antisymm (h.longest _ hread.isSuffix hread.all) (hread.longest _ h.isSuffix h.all)
    exact (List.suffix_of_suffix_length_le hread.isSuffix h.isSuffix hlength.le).eq_of_length
      hlength
  · rintro rfl
    exact longestTail_suffixWhile p text

/-- What is left does not end with a character of the tail. -/
theorem getLast?_dropSuffixWhile (p : Char → Bool) (cs : List Char) :
    ∀ c ∈ (dropSuffixWhile p cs).getLast?, p c = false := by
  intro c hc
  rw [dropSuffixWhile, List.getLast?_reverse] at hc
  have hnot := List.head?_dropWhile_not p cs.reverse
  rw [hc] at hnot
  simpa using hnot

/-! ## Tails within tails -/

/-- A narrower tail is read within a wider one as in the whole text. -/
theorem suffixWhile_suffixWhile (h : ∀ c, p c = true → q c = true) (cs : List Char) :
    suffixWhile p (suffixWhile q cs) = suffixWhile p cs := by
  have hboth : (fun c => decide (p c = true ∧ q c = true)) = p := by
    funext c
    cases hp : p c with
    | false => simp
    | true => simp [h c hp]
  rw [suffixWhile, suffixWhile, List.reverse_reverse, List.takeWhile_takeWhile, hboth, suffixWhile]

/-- Taking a narrower tail off a wider one leaves the wider tail of what it leaves of
the whole text. -/
theorem dropSuffixWhile_suffixWhile (h : ∀ c, p c = true → q c = true) (cs : List Char) :
    dropSuffixWhile p (suffixWhile q cs) = suffixWhile q (dropSuffixWhile p cs) := by
  have hfront : ∀ ds : List Char, (ds.takeWhile q).dropWhile p = (ds.dropWhile p).takeWhile q := by
    intro ds
    induction ds with
    | nil => rfl
    | cons d ds ih =>
        cases hp : p d with
        | true => simp [hp, h d hp, ih]
        | false => cases hq : q d <;> simp [hp, hq]
  rw [dropSuffixWhile, suffixWhile, List.reverse_reverse, hfront, suffixWhile, dropSuffixWhile,
    List.reverse_reverse]

/-! ## Texts with a character that ends a stretch -/

/-- Going forth stops at the character. -/
theorem takeWhile_append_stop {d : Char} (h : p d = false) (cs ds : List Char) :
    (cs ++ d :: ds).takeWhile p = cs.takeWhile p := by
  rw [List.takeWhile_append, List.takeWhile_cons_of_neg (by simp [h]), List.append_nil]
  split
  · rename_i hlength
    exact ((List.takeWhile_prefix p).eq_of_length hlength).symm
  · rfl

theorem dropWhile_append_stop {d : Char} (h : p d = false) (cs ds : List Char) :
    (cs ++ d :: ds).dropWhile p = cs.dropWhile p ++ d :: ds := by
  rw [List.dropWhile_append, List.dropWhile_cons_of_neg (by simp [h])]
  split
  · rename_i hempty
    rw [List.isEmpty_iff.mp hempty, List.nil_append]
  · rfl

/-- Coming from behind stops at the character, too. -/
theorem suffixWhile_append_stop {d : Char} (h : p d = false) (cs ds : List Char) :
    suffixWhile p (cs ++ d :: ds) = suffixWhile p ds := by
  have hreverse : (cs ++ d :: ds).reverse = ds.reverse ++ d :: cs.reverse := by simp
  rw [suffixWhile, hreverse, takeWhile_append_stop h, suffixWhile]

theorem suffixWhile_cons_stop {d : Char} (h : p d = false) (ds : List Char) :
    suffixWhile p (d :: ds) = suffixWhile p ds :=
  suffixWhile_append_stop h [] ds

/-! ## The last word -/

/-- **The last word of a text** that does not end with a blank is its longest tail
without blanks. -/
theorem getLast?_words {c : Char} (hlast : cs.getLast? = some c) (hc : isBlank c = false) :
    (words cs).getLast? = some (suffixWhile (!isBlank ·) cs) := by
  induction cs using words.induct with
  | case1 => cases hlast
  | case2 b cs hblank ih =>
      have hrest : cs.getLast? = some c := by
        cases cs with
        | nil =>
            obtain rfl : b = c := by simpa using hlast
            rw [hblank] at hc
            cases hc
        | cons d cs => rwa [List.getLast?_cons_cons] at hlast
      have hstop : (!isBlank b) = false := by simp [hblank]
      rw [words, if_pos hblank, ih hrest, suffixWhile_cons_stop (p := (!isBlank ·)) hstop]
  | case3 b cs hblank ih =>
      have hfirst : (!isBlank b) = true := by simpa using hblank
      rw [words, if_neg hblank]
      cases hrest : cs.dropWhile (!isBlank ·) with
      | nil =>
          -- The first word is the last one.
          have hall : ∀ d ∈ b :: cs, (!isBlank d) = true :=
            List.forall_mem_cons.mpr ⟨hfirst, List.dropWhile_eq_nil_iff.mp hrest⟩
          have hword : cs.takeWhile (!isBlank ·) = cs :=
            List.takeWhile_eq_self_iff.mpr fun d hd => hall d (List.mem_cons_of_mem _ hd)
          have htail : suffixWhile (!isBlank ·) (b :: cs) = b :: cs :=
            List.rtakeWhile_eq_self_iff.mpr hall
          rw [hword, htail, words]
          rfl
      | cons d rest =>
          have hstop : (!isBlank d) = false := by
            have hnot := List.head?_dropWhile_not (!isBlank ·) cs
            rw [hrest] at hnot
            simpa using hnot
          have htext : b :: cs = b :: cs.takeWhile (!isBlank ·) ++ d :: rest := by
            rw [List.cons_append, ← hrest, List.takeWhile_append_dropWhile]
          rw [htext, List.getLast?_append_cons] at hlast
          rw [hrest] at ih
          rw [List.getLast?_cons, ih hlast, htext,
            suffixWhile_append_stop (p := (!isBlank ·)) hstop,
            suffixWhile_cons_stop (p := (!isBlank ·)) hstop]
          rfl

end QueryDesk.Text
