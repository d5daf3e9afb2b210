import Mathlib.Data.List.Forall2

/-!
# Lists read item by item

Something may be made of each item of a list, or an item may fail.  Then the first that does
decides, and nothing is made of the list at all.

## Main results

* `mapM_eq_ok_iff` — all items come out.
* `mapM_eq_error_iff` — an item fails behind others that come out.
* `exists_mapM_eq_error_iff` — some item fails, wherever it stands.
-/

namespace QueryDesk

variable {α β ε : Type} {f : α → Except ε β} {as : List α}

/-- **All items of a list come out.** -/
theorem mapM_eq_ok_iff {bs : List β} :
    as.mapM f = .ok bs ↔ List.Forall₂ (fun a b => f a = .ok b) as bs := by
  induction as generalizing bs with
  | nil => cases bs <;> simp [pure, Except.pure]
  | cons a as ih =>
      rw [List.mapM_cons]
      cases ha : f a with
      | error e => cases bs <;> simp [bind, Except.bind, ha]
      | ok b =>
          cases has : as.mapM f with
          | error e => cases bs <;> simp [bind, Except.bind, ← ih, has, ha]
          | ok bs' => cases bs <;> simp [bind, Except.bind, pure, Except.pure, ← ih, has, ha]

/-- Where all items come out, each of them does. -/
theorem exists_ok_of_mapM {bs : List β} (h : as.mapM f = .ok bs) :
    ∀ a ∈ as, ∃ b, f a = .ok b := by
  intro a ha
  have hall := mapM_eq_ok_iff.mp h
  obtain ⟨i, hi, rfl⟩ := List.getElem_of_mem ha
  exact ⟨_, (List.forall₂_iff_get.mp hall).2 i hi (hall.length_eq ▸ hi)⟩

/-- **An item fails behind others that come out**, and what stands behind it does not
matter. -/
theorem mapM_eq_error_iff {e : ε} :
    as.mapM f = .error e ↔ ∃ before a after, as = before ++ a :: after ∧
      (∀ b ∈ before, ∃ x, f b = .ok x) ∧ f a = .error e := by
  constructor
  · intro h
    induction as with
    | nil => cases h
    | cons a as ih =>
        rw [List.mapM_cons] at h
        cases ha : f a with
        | error e' =>
            rw [ha] at h
            obtain rfl := Except.error.inj h
            exact ⟨[], a, as, rfl, by simp, ha⟩
        | ok x =>
            rw [ha] at h
            cases has : as.mapM f with
            | ok xs => simp [bind, Except.bind, has, pure, Except.pure] at h
            | error e' =>
                obtain rfl : e' = e := by simpa [bind, Except.bind, has] using h
                obtain ⟨before, b, after, rfl, hbefore, hb⟩ := ih has
                exact ⟨a :: before, b, after, rfl,
                  List.forall_mem_cons.mpr ⟨⟨x, ha⟩, hbefore⟩, hb⟩
  · rintro ⟨before, a, after, rfl, hbefore, ha⟩
    induction before with
    | nil =>
        rw [List.nil_append, List.mapM_cons, ha]
        rfl
    | cons b before ih =>
        obtain ⟨⟨x, hx⟩, hbefore⟩ := List.forall_mem_cons.mp hbefore
        rw [List.cons_append, List.mapM_cons, hx, ih hbefore]
        rfl

/-- Something fails exactly if an item does. -/
theorem exists_mapM_eq_error_iff :
    (∃ e, as.mapM f = .error e) ↔ ∃ a ∈ as, ∃ e, f a = .error e := by
  constructor
  · rintro ⟨e, h⟩
    obtain ⟨before, a, after, rfl, -, ha⟩ := mapM_eq_error_iff.mp h
    exact ⟨a, by simp, e, ha⟩
  · rintro ⟨a, hmem, e, ha⟩
    cases h : as.mapM f with
    | error e' => exact ⟨e', rfl⟩
    | ok bs =>
        obtain ⟨b, hb⟩ := exists_ok_of_mapM h a hmem
        rw [ha] at hb
        cases hb

end QueryDesk
