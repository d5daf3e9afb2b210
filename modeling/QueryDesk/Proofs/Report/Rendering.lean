import QueryDesk.Proofs.Json.Decoding
import QueryDesk.Proofs.Traversal
import QueryDesk.Report.Printout

/-!
# What of a result can be rendered

Not every cell has a text: an integer can have too many digits, and a value can lie too
deep.  Tables and records are printed row by row, so that the rows before such a cell are
there and the others are not.  What is printed of a result is therefore said by the rows
that come out as texts, and by the failure behind them.

## Main results

* `reaches_upTo` — what is made of the items of a list up to the first that fails.
* `upTo_map` — it may be made into something else afterwards.
* `take_upTo` — what is made of the first items, if none of them fails.
* `upTo_mapM_eq_none_iff` — nothing fails exactly if every cell comes out.
* `exists_cell_of_scalar` — what a database can hold has a text.
-/

namespace QueryDesk.Report

section Prefixes

variable {α β γ ε ε' : Type} {f : α → Except ε β}

/-- What is made of a list up to the first item that fails, if one does. -/
inductive Reaches (f : α → Except ε β) : List α → List β → Option ε → Prop where
  | all {as : List α} {bs : List β} (h : List.Forall₂ (fun a b => f a = .ok b) as bs) :
      Reaches f as bs none
  | stopped {before : List α} {bs : List β} (h : List.Forall₂ (fun a b => f a = .ok b) before bs)
      {a : α} {e : ε} (ha : f a = .error e) (after : List α) :
      Reaches f (before ++ a :: after) bs (some e)

/-- An item that does not fail comes before the others. -/
theorem Reaches.cons {a : α} {b : β} (ha : f a = .ok b) {as : List α} {bs : List β}
    {failure : Option ε} (h : Reaches f as bs failure) : Reaches f (a :: as) (b :: bs) failure := by
  cases h with
  | all h => exact .all (.cons ha h)
  | stopped h hstop after => exact .stopped (.cons ha h) hstop after

/-- **A list is followed up to the first item that fails.** -/
theorem reaches_upTo (f : α → Except ε β) (as : List α) :
    Reaches f as (upTo f as).1 (upTo f as).2 := by
  induction as with
  | nil => exact .all .nil
  | cons a as ih =>
      unfold upTo
      cases ha : f a with
      | error e => exact .stopped .nil ha as
      | ok b => exact .cons ha ih

/-- No more is made than there are items. -/
theorem Reaches.length_le {as : List α} {bs : List β} {failure : Option ε}
    (h : Reaches f as bs failure) : bs.length ≤ as.length := by
  cases h with
  | all h => exact Nat.le_of_eq h.length_eq.symm
  | stopped h ha after =>
      rw [← h.length_eq, List.length_append]
      omega

/-- Nothing fails exactly if something is made of every item. -/
theorem Reaches.length_eq_iff {as : List α} {bs : List β} {failure : Option ε}
    (h : Reaches f as bs failure) : bs.length = as.length ↔ failure = none := by
  cases h with
  | all h => simp [h.length_eq]
  | stopped h ha after =>
      have hshort := h.length_eq
      simp only [List.length_append, List.length_cons, reduceCtorEq, iff_false]
      omega

/-- What is made at a place is made of the item there. -/
theorem Reaches.at {as : List α} {bs : List β} {failure : Option ε} (h : Reaches f as bs failure)
    {i : Nat} {b : β} (hb : bs[i]? = some b) : ∃ a, as[i]? = some a ∧ f a = .ok b := by
  have hpair : ∀ {as bs}, List.Forall₂ (fun a b => f a = .ok b) as bs → bs[i]? = some b →
      ∃ a, as[i]? = some a ∧ f a = .ok b := by
    intro as bs hall hb
    obtain ⟨hi, rfl⟩ := List.getElem?_eq_some_iff.mp hb
    have hi' : i < as.length := hall.length_eq ▸ hi
    exact ⟨as[i], List.getElem?_eq_getElem hi', (List.forall₂_iff_get.mp hall).2 i hi' hi⟩
  cases h with
  | all h => exact hpair h hb
  | stopped h ha after =>
      obtain ⟨a, hat, hok⟩ := hpair h hb
      have hi := (List.getElem?_eq_some_iff.mp hat).1
      exact ⟨a, by rw [List.getElem?_append_left hi, hat], hok⟩

/-- Something fails exactly if an item does. -/
theorem upTo_failure_iff {as : List α} :
    (upTo f as).2 ≠ none ↔ ∃ a ∈ as, ∃ e, f a = .error e := by
  induction as with
  | nil => simp [upTo]
  | cons a as ih =>
      unfold upTo
      cases ha : f a with
      | error e => simp [ha]
      | ok b => simpa [ha] using ih

/-- **What is made of the items may be made into something else afterwards.** -/
theorem upTo_map {g : α → Except ε' γ} {made : β → γ} {failed : ε → ε'} {as : List α}
    (h : ∀ a ∈ as, g a = ((f a).map made).mapError failed) :
    upTo g as = ((upTo f as).1.map made, (upTo f as).2.map failed) := by
  induction as with
  | nil => rfl
  | cons a as ih =>
      obtain ⟨ha, has⟩ := List.forall_mem_cons.mp h
      unfold upTo
      rw [ha, ih has]
      cases f a <;> rfl

/-! ## Rows -/

/-- Nothing of some rows fails exactly if something is made of every cell. -/
theorem upTo_mapM_eq_none_iff {rows : List (List α)} :
    (upTo (·.mapM f) rows).2 = none ↔ ∀ row ∈ rows, ∀ a ∈ row, ∃ b, f a = .ok b := by
  have hok : ∀ a, (¬ ∃ e, f a = .error e) ↔ ∃ b, f a = .ok b := by
    intro a
    cases f a <;> simp
  rw [← not_iff_not, ← ne_eq, upTo_failure_iff]
  simp only [exists_mapM_eq_error_iff, ← hok]
  push Not
  rfl

/-- If the first items come out, they are the first that are made. -/
theorem take_upTo {as : List α} {n : Nat} {bs : List β} (h : (as.take n).mapM f = .ok bs) :
    (upTo f as).1.take n = bs := by
  induction as generalizing n bs with
  | nil => simpa [upTo, pure, Except.pure] using h
  | cons a as ih =>
      cases n with
      | zero => simpa [pure, Except.pure] using h
      | succ n =>
          obtain ⟨b, bs', ha, has, rfl⟩ :=
            List.forall₂_cons_left_iff.mp (mapM_eq_ok_iff.mp h)
          simp only [upTo, ha, List.take_succ_cons, ih (mapM_eq_ok_iff.mpr has)]

end Prefixes

/-! ## Cells -/

/-- **What a database can hold has a text**, wherever there is room for a value. -/
theorem exists_cell_of_scalar {v : Value} (h : Json.Scalar v) (room : Nat) :
    ∃ text, v.cell (room + 1) = .ok text := by
  cases h with
  | null | bytes bs => exact ⟨_, rfl⟩
  | text s => exact ⟨s, rfl⟩
  | bool b | float x => exact ⟨_, rfl⟩
  | @int n hn =>
      refine ⟨toString n, ?_⟩
      simp only [Value.cell, Value.plain, Value.shown, if_neg (Nat.not_le.mpr hn)]

/-! ## Records -/

/-- A row by its texts is a record. -/
theorem csvRecord_eq (room : Nat) (row : List Value) :
    csvRecord room row =
      (row.mapM (csvField room)).map fun texts => Csv.record (texts.map String.toList) := by
  unfold csvRecord
  cases row.mapM (csvField room) <;> rfl

/-- A field has a text exactly if its cell has one. -/
theorem csvField_ok_iff {room : Nat} {v : Value} :
    (∃ text, csvField room v = .ok text) ↔ ∃ text, v.cell room = .ok text := by
  cases v <;> simp [csvField, Value.cell]

/-- A row is no record if a cell of it has no text. -/
theorem csvRecord_error_iff {room : Nat} {row : List Value} :
    (∃ e, csvRecord room row = .error e) ↔ ∃ v ∈ row, ∃ e, v.cell room = .error e := by
  have hfield : ∀ v : Value,
      (∃ e, csvField room v = .error e) ↔ ∃ e, v.cell room = .error e := by
    intro v
    cases v <;> simp [csvField, Value.cell]
  simp only [← hfield, ← exists_mapM_eq_error_iff, csvRecord_eq]
  cases row.mapM (csvField room) <;> simp [Except.map]

end QueryDesk.Report
