import Mathlib.Algebra.BigOperators.Group.List.Basic
import Mathlib.Algebra.Ring.Int.Defs
import QueryDesk.Proofs.Editor.Popup

/-!
# Selecting a candidate

The dropdown is filled with the candidates that begin with the word being typed, and its
selection is moved up and down, around both ends.  The place of the selection is a
remainder, so that moves add up: where they lead depends on their sum alone, and moves
that cancel each other out lead back to the same candidate.  The items that are shown are
those of the candidates, and the one that is marked follows the selection.

## Main results

* `lower_eq_empty_iff`, `matching_lower` — the candidates that are shown.
* `foldl_move_selected` — where moves lead, by their sum.
* `foldl_move_of_sum_zero` — moves that cancel each other out.
* `Marked.foldl_move` — the marked item is the selected one.
* `selection_follows_moves` — the whole for a dropdown that was filled.
-/

namespace QueryDesk.Text

/-- No character is lost in lower case. -/
theorem lowerAt_ne_nil (before : List Char) (c : Char) (after : List Char) :
    lowerAt before c after ≠ [] := by
  unfold lowerAt
  split
  · exact List.cons_ne_nil _ _
  unfold mapCase
  cases hlookup : lowerExpansions.lookup c.toNat with
  | some ns =>
      obtain ⟨-, rfl⟩ : c.toNat = 0x130 ∧ ns = [0x69, 0x307] := by
        simp only [lowerExpansions, List.lookup_cons, List.lookup_nil] at hlookup
        split at hlookup
        · rename_i heq
          exact ⟨by simpa using heq, (Option.some.inj hlookup).symm⟩
        · cases hlookup
      exact List.cons_ne_nil _ _
  | none =>
      simp only
      split
      · exact List.cons_ne_nil _ _
      · exact List.cons_ne_nil _ _

/-- Only the empty text is empty in lower case. -/
theorem lower_eq_empty_iff {s : String} : lower s = "" ↔ s = "" := by
  unfold lower
  rw [String.ofList_eq_empty_iff, ← String.toList_eq_nil_iff]
  cases s.toList with
  | nil => simp [lowerAfter]
  | cons c cs =>
      rw [lowerAfter, List.append_eq_nil_iff]
      simp [lowerAt_ne_nil]

end QueryDesk.Text

namespace QueryDesk.Editor

open Completion (Candidate)

variable {d : Dropdown}

/-! ## The candidates that are shown -/

/-- **The candidates that are shown** begin with the word in lower case, and are in their
order; without a word they are the first ones. -/
theorem matching_lower (word : String) (candidates : List Candidate) :
    Dropdown.matching (Text.lower word) candidates =
      if word = "" then candidates.take 50
      else candidates.filter fun c => (Text.lower word).toList <+: (Text.lower c.label).toList := by
  unfold Dropdown.matching
  simp only [Text.lower_eq_empty_iff]
  split
  · rfl
  · exact List.filter_congr fun c _ => by
      rw [Bool.eq_iff_iff, List.isPrefixOf_iff_prefix, decide_eq_true_iff]

/-! ## Where moves lead -/

@[simp] theorem filtered_foldl_move (d : Dropdown) (moves : List Int) :
    (moves.foldl Dropdown.move d).filtered = d.filtered := by
  induction moves generalizing d with
  | nil => rfl
  | cons by_ moves ih => rw [List.foldl_cons, ih, filtered_move]

/-- Without candidates there is nothing to move. -/
theorem foldl_move_of_empty (hempty : d.filtered = []) (moves : List Int) :
    moves.foldl Dropdown.move d = d := by
  induction moves with
  | nil => rfl
  | cons by_ moves ih =>
      have hmove : d.move by_ = d := by
        rw [Dropdown.move, hempty]
        rfl
      rw [List.foldl_cons, hmove, ih]

/-- **Where moves lead depends on their sum alone.** -/
theorem foldl_move_selected (moves : List Int) (hlt : d.selected < d.filtered.length) :
    ((moves.foldl Dropdown.move d).selected : Int) =
        (d.selected + moves.sum) % d.filtered.length ∧
      (moves.foldl Dropdown.move d).selected < d.filtered.length := by
  induction moves generalizing d with
  | nil =>
      rw [List.foldl_nil, List.sum_nil, Int.add_zero, Int.emod_eq_of_lt (by omega) (by omega)]
      exact ⟨rfl, hlt⟩
  | cons by_ moves ih =>
      obtain ⟨hselected, hlt'⟩ := selected_move by_ hlt
      rw [← filtered_move d by_] at hlt'
      obtain ⟨hsum, hbound⟩ := ih hlt'
      rw [filtered_move] at hsum hbound
      refine ⟨?_, hbound⟩
      rw [List.foldl_cons, hsum, hselected, Int.emod_add_emod, List.sum_cons, Int.add_assoc]

/-- From the first place, where a dropdown starts, the sum is the place. -/
theorem foldl_move_of_first (hfirst : d.selected = 0) (hne : d.filtered ≠ []) (moves : List Int) :
    ((moves.foldl Dropdown.move d).selected : Int) = moves.sum % d.filtered.length ∧
      (moves.foldl Dropdown.move d).selected < d.filtered.length := by
  have hlt : d.selected < d.filtered.length := by
    rw [hfirst]
    exact List.length_pos_iff.mpr hne
  obtain ⟨hselected, hbound⟩ := foldl_move_selected moves hlt
  rw [hfirst, Int.natCast_zero, Int.zero_add] at hselected
  exact ⟨hselected, hbound⟩

/-- **Moves that cancel each other out lead back** to the same place. -/
theorem foldl_move_of_sum_zero {moves : List Int} (hsum : moves.sum = 0)
    (hselected : d.filtered ≠ [] → d.selected < d.filtered.length) :
    (moves.foldl Dropdown.move d).selected = d.selected := by
  by_cases hempty : d.filtered = []
  · rw [foldl_move_of_empty hempty]
  · have hlt := hselected hempty
    obtain ⟨hmoved, -⟩ := foldl_move_selected moves hlt
    rw [hsum, Int.add_zero, Int.emod_eq_of_lt (by omega) (by omega)] at hmoved
    exact Int.ofNat.inj hmoved

/-! ## The marked item -/

/-- The items are those of the candidates, and the selected one is marked. -/
def Marked (d : Dropdown) : Prop :=
  ∀ i : Nat, d.items[i]? =
    d.filtered[i]?.map fun c => { Dropdown.item c with marked := decide (i = d.selected) }

theorem getElem?_mark (marked : Bool) (place : Nat) (items : List Item) (i : Nat) :
    (Dropdown.mark marked place items)[i]? =
      items[i]?.map fun item =>
        { item with marked := if i = place then marked else item.marked } := by
  rw [Dropdown.mark, List.getElem?_modify]
  cases items[i]? with
  | none => rfl
  | some item =>
      by_cases hi : place = i
      · simp [hi]
      · simp [hi, Ne.symm hi]

theorem marked_setCandidates (d : Dropdown) (candidates : List Candidate) (word : String) :
    Marked (d.setCandidates candidates word) := by
  intro i
  simp only [Dropdown.setCandidates, getElem?_mark, List.getElem?_map, Option.map_map]
  apply Option.map_congr
  intro c _
  by_cases hi : i = 0
  · simp [hi]
  · simp [hi, Dropdown.item]

/-- The mark goes where the selection goes. -/
theorem Marked.move (hmarked : Marked d) (by_ : Int) : Marked (d.move by_) := by
  intro i
  unfold Dropdown.move
  split
  · exact hmarked i
  · simp only [getElem?_mark, hmarked i, Option.map_map]
    apply Option.map_congr
    intro c _
    by_cases hto : i = ((d.selected + by_) % d.filtered.length).toNat
    · simp only [Function.comp_apply, if_pos hto, decide_eq_true hto]
    · by_cases hfrom : i = d.selected
      · simp only [Function.comp_apply, if_neg hto, if_pos hfrom, decide_eq_false hto]
      · simp only [Function.comp_apply, if_neg hto, if_neg hfrom, decide_eq_false hto,
          decide_eq_false hfrom]

theorem Marked.foldl_move (hmarked : Marked d) (moves : List Int) :
    Marked (moves.foldl Dropdown.move d) := by
  induction moves generalizing d with
  | nil => exact hmarked
  | cons by_ moves ih => exact ih (hmarked.move by_)

/-- **The selection follows the moves.**  A dropdown that is filled for a word shows the
candidates whose labels begin with it, whatever the case of the letters, in their order;
without a word it shows the first ones.  After any moves these are still the same.  Without
candidates nothing is selected, and the place stays the first.  Otherwise the place is the
sum of the moves, around both ends, and the candidate there is selected; any number of
moves by one step and as many back lead to the same candidate.  The one that is marked in
the list is always the selected one. -/
theorem selection_follows_moves (d : Dropdown) (candidates : List Candidate) (word : String)
    (moves : List Int) :
    let moved := moves.foldl Dropdown.move (d.setCandidates candidates word)
    (moved.filtered =
      if word = "" then candidates.take 50
      else candidates.filter fun c =>
        (Text.lower word).toList <+: (Text.lower c.label).toList) ∧
      (moved.filtered = [] → moved.selected = 0 ∧ moved.selection = none) ∧
      (moved.filtered ≠ [] →
        (moved.selected : Int) = moves.sum % moved.filtered.length ∧
          moved.selected < moved.filtered.length ∧
          ∃ c, moved.filtered[(moves.sum % moved.filtered.length).toNat]? = some c ∧
            moved.selection = some c) ∧
      (∀ (k : Nat) (by_ : Int),
        let returned := (List.replicate k by_ ++ List.replicate k (-by_)).foldl Dropdown.move moved
        returned.selected = moved.selected ∧ returned.selection = moved.selection) ∧
      Marked moved := by
  intro moved
  have hshown := filtered_setCandidates d candidates word
  have hfiltered := filtered_foldl_move (d.setCandidates candidates word) moves
  have hplace : moved.filtered ≠ [] →
      (moved.selected : Int) = moves.sum % moved.filtered.length ∧
        moved.selected < moved.filtered.length := by
    intro hne
    rw [hfiltered] at hne ⊢
    exact foldl_move_of_first rfl hne moves
  refine ⟨?_, ?_, ?_, ?_, (marked_setCandidates d candidates word).foldl_move moves⟩
  · rw [hfiltered, hshown, matching_lower]
  · intro hempty
    have hmoved : moved = d.setCandidates candidates word :=
      foldl_move_of_empty (hfiltered ▸ hempty) moves
    have hfirst : moved.selected = 0 := by
      rw [hmoved]
      rfl
    exact ⟨hfirst, by rw [Dropdown.selection, hempty]; rfl⟩
  · intro hne
    obtain ⟨hselected, hlt⟩ := hplace hne
    refine ⟨hselected, hlt, moved.filtered[moved.selected], ?_, List.getElem?_eq_getElem hlt⟩
    rw [← hselected, Int.toNat_natCast]
    exact List.getElem?_eq_getElem hlt
  · intro k by_ returned
    have hsum : (List.replicate k by_ ++ List.replicate k (-by_)).sum = 0 := by simp
    have hselected : returned.selected = moved.selected :=
      foldl_move_of_sum_zero hsum fun hne => (hplace hne).2
    refine ⟨hselected, ?_⟩
    rw [Dropdown.selection, hselected, filtered_foldl_move]
    rfl

/-- A keyword as a candidate at the start of the text. -/
def keywordAtStart (word : String) : Candidate :=
  (Completion.Suggestion.ofWord .keyword word).at ⟨0, 0, 0⟩

/-- Two candidates of three begin with a word, whatever the case of its letters.  Three steps
up from the first lead to the last. -/
theorem selection_follows_moves_around :
    let candidates := ["Select", "From", "sET"].map keywordAtStart
    let moved := [-1, -1, -1].foldl Dropdown.move (({} : Dropdown).setCandidates candidates "Se")
    moved.filtered = ["Select", "sET"].map keywordAtStart ∧ moved.filtered ≠ [] ∧
      moved.selected = 1 ∧ moved.selection = some (keywordAtStart "sET") := by
  intro candidates moved
  have hfiltered : moved.filtered = ["Select", "sET"].map keywordAtStart := by decide +kernel
  have hne : moved.filtered ≠ [] := by
    rw [hfiltered]
    exact List.cons_ne_nil _ _
  obtain ⟨-, -, hplace, -, -⟩ := selection_follows_moves {} candidates "Se" [-1, -1, -1]
  obtain ⟨hselected, -, c, hc, hselection⟩ := hplace hne
  change (moved.selected : Int) = _ % (moved.filtered.length : Int) at hselected
  change moved.filtered[((-3 : Int) % (moved.filtered.length : Int)).toNat]? = _ at hc
  rw [hfiltered] at hselected hc
  obtain rfl : keywordAtStart "sET" = c := Option.some.inj hc
  exact ⟨hfiltered, hne, Int.ofNat.inj hselected, hselection⟩

end QueryDesk.Editor
