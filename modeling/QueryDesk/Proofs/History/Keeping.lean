import QueryDesk.Proofs.History.Recall
import QueryDesk.Proofs.History.Recency

/-!
# What a ring keeps

A ring drops its oldest entry as soon as there is one too many, while it is filled as
much as later on, and it passes over blank queries before it counts.  What it holds in
the end is said without any of that: of the queries that it was given since its
entries were last replaced, the blank ones are left out and the newest are cut off
once.

Recalling moves the cursor over the entries and leaves them alone, so it may come
between any two calls.

## Main results

* `Keeps.push` — one more query, cut at once or only at the end.
* `keeps_after` — what a ring holds after any calls.
-/

namespace QueryDesk.History

namespace Ring

/-- What a ring with a cap keeps of some queries. -/
def kept (cap : Option Nat) (queries : List String) : List String :=
  let filled := queries.filter (!Text.isBlankText ·)
  cap.elim filled (newest · filled)

section Kept

variable {cap : Option Nat} {queries : List String} {q : String}

theorem kept_nil : kept cap [] = [] := by
  cases cap with
  | none => rfl
  | some n => exact newest_nil n

/-- A blank query is passed over. -/
theorem kept_concat_blank (hq : Text.isBlankText q = true) :
    kept cap (queries ++ [q]) = kept cap queries := by
  simp [kept, hq]

/-- Any other query comes behind what was kept, and the whole is cut once more. -/
theorem kept_concat (hq : Text.isBlankText q = false) :
    kept cap (queries ++ [q]) =
      cap.elim (kept cap queries ++ [q]) (newest · (kept cap queries ++ [q])) := by
  have hfilled : (queries ++ [q]).filter (!Text.isBlankText ·) =
      queries.filter (!Text.isBlankText ·) ++ [q] := by
    simp [hq]
  cases cap with
  | none => exact hfilled
  | some n =>
      show newest n _ = newest n (newest n _ ++ [q])
      rw [hfilled, newest_newest_append]

/-- Where no query is blank, only the cap counts. -/
theorem kept_of_filled (h : ∀ q ∈ queries, Text.isBlankText q = false) :
    kept cap queries = cap.elim queries (newest · queries) := by
  have hfilled : queries.filter (!Text.isBlankText ·) = queries :=
    List.filter_eq_self.mpr fun q hq => by rw [h q hq]; rfl
  rw [kept, hfilled]

end Kept

/-- The entries of a ring are what its cap leaves of the queries that it was given. -/
def Keeps (r : Ring) (queries : List String) : Prop := r.entries = kept r.cap queries

section Keeps

variable {r : Ring} {queries : List String}

@[simp] theorem cap_push (r : Ring) (q : String) : (r.push q).cap = r.cap := by
  unfold push
  split
  · rfl
  · split <;> rfl

theorem push_of_blank (r : Ring) {q : String} (hq : Text.isBlankText q = true) : r.push q = r := by
  rw [push, if_pos hq]

theorem entries_push (r : Ring) {q : String} (hq : Text.isBlankText q = false) :
    (r.push q).entries = r.cap.elim (r.entries ++ [q]) (newest · (r.entries ++ [q])) := by
  rw [push, if_neg (by simp [hq])]
  cases r.cap <;> rfl

/-- **One more query**: cutting at once comes to the same as cutting at the end. -/
theorem Keeps.push (h : r.Keeps queries) (q : String) : (r.push q).Keeps (queries ++ [q]) := by
  by_cases hq : Text.isBlankText q = true
  · rw [push_of_blank r hq, Keeps, kept_concat_blank hq]
    exact h
  · have hq : Text.isBlankText q = false := by simpa using hq
    rw [Keeps, cap_push, kept_concat hq, entries_push r hq, h]

theorem cap_foldl_push (r : Ring) (qs : List String) : (qs.foldl Ring.push r).cap = r.cap := by
  induction qs generalizing r with
  | nil => rfl
  | cons q qs ih => rw [List.foldl_cons, ih, cap_push]

theorem Keeps.foldl_push (h : r.Keeps queries) (qs : List String) :
    (qs.foldl Ring.push r).Keeps (queries ++ qs) := by
  induction qs generalizing r queries with
  | nil => simpa using h
  | cons q qs ih =>
      have hrest := ih (h.push q)
      rwa [List.append_assoc, List.singleton_append] at hrest

/-! ## Submitting and replacing -/

@[simp] theorem cap_settle (r : Ring) : r.settle.cap = r.cap := rfl

@[simp] theorem cap_replace (r : Ring) (qs : List String) : (r.replace qs).cap = r.cap := by
  rw [replace, cap_settle, cap_foldl_push]

/-- A ring whose entries are replaced keeps the new ones. -/
theorem keeps_replace (r : Ring) (qs : List String) : (r.replace qs).Keeps qs := by
  have hempty : ({ r with entries := [] } : Ring).Keeps [] := kept_nil.symm
  exact hempty.foldl_push qs

/-- What a ring is after its entries are replaced, as a whole. -/
theorem replace_eq (r : Ring) (qs : List String) :
    r.replace qs = { entries := kept r.cap qs, cap := r.cap } := by
  have hkeeps := keeps_replace r qs
  rw [Keeps, cap_replace] at hkeeps
  rw [← hkeeps, ← cap_replace r qs]
  rfl

theorem submit_of_blank (r : Ring) {q : String} (hq : Text.isBlankText q = true) :
    r.submit q = (r, false) := by
  rw [submit, if_pos hq]

theorem submit_of_filled (r : Ring) {q : String} (hq : Text.isBlankText q = false) :
    r.submit q = ((r.push q).settle, true) := by
  rw [submit, if_neg (by simp [hq])]

@[simp] theorem cap_submit (r : Ring) (q : String) : (r.submit q).1.cap = r.cap := by
  rw [submit]
  split
  · rfl
  · exact cap_push r q

theorem Keeps.submit (h : r.Keeps queries) (q : String) :
    (r.submit q).1.Keeps (queries ++ [q]) := by
  by_cases hq : Text.isBlankText q = true
  · rw [submit_of_blank r hq, Keeps, kept_concat_blank hq]
    exact h
  · rw [submit_of_filled r (by simpa using hq)]
    exact h.push q

/-- What a ring is after a query is submitted, as a whole, and what is answered. -/
theorem Keeps.submit_eq (h : r.Keeps queries) (q : String) :
    r.submit q =
      if Text.isBlankText q then (r, false)
      else ({ entries := kept r.cap (queries ++ [q]), cap := r.cap }, true) := by
  by_cases hq : Text.isBlankText q = true
  · rw [if_pos hq, submit_of_blank r hq]
  · have hpush := h.push q
    rw [Keeps, cap_push] at hpush
    rw [if_neg hq, submit_of_filled r (by simpa using hq), ← hpush, ← cap_push r q]
    rfl

end Keeps

end Ring

/-! ## Runs of calls -/

/-- What is done with a ring. -/
inductive Call where
  | submit (query : String)
  | replace (queries : List String)
  /-- A key is given to it, for recalling. -/
  | press (keys : Keys) (p : Press)

/-- The ring after a call. -/
def Call.perform (r : Ring) : Call → Ring
  | submit query => (r.submit query).1
  | replace queries => r.replace queries
  | press keys p => (keys.give r p).1

/-- The queries that were given since the entries were replaced, with those that
replaced them in front. -/
def Call.give (queries : List String) : Call → List String
  | submit query => queries ++ [query]
  | replace queries => queries
  | press _ _ => queries

/-- The ring after some calls. -/
def Ring.after (r : Ring) (calls : List Call) : Ring := calls.foldl Call.perform r

/-- What is given in some calls: the list of the latest replacement, or the first one
where there is none, and the queries that are submitted after it. -/
def given (initial : List String) (calls : List Call) : List String :=
  calls.foldl Call.give initial

@[simp] theorem Ring.after_concat (r : Ring) (calls : List Call) (call : Call) :
    r.after (calls ++ [call]) = call.perform (r.after calls) := by
  simp [Ring.after]

@[simp] theorem given_concat (initial : List String) (calls : List Call) (call : Call) :
    given initial (calls ++ [call]) = call.give (given initial calls) := by
  simp [given]

theorem Ring.older_keeps (r : Ring) (text : String) :
    (r.older text).1.entries = r.entries ∧ (r.older text).1.cap = r.cap := by
  unfold older
  split
  · exact ⟨rfl, rfl⟩
  · split <;> exact ⟨rfl, rfl⟩

theorem Ring.newer_keeps (r : Ring) :
    (r.newer).1.entries = r.entries ∧ (r.newer).1.cap = r.cap := by
  unfold newer
  split <;> exact ⟨rfl, rfl⟩

/-- A key leaves the entries and the cap alone. -/
theorem Keys.press_keeps (keys : Keys) (r : Ring) (key : String) (popup : Bool) (text : String) :
    (keys.press r key popup text).1.entries = r.entries ∧
      (keys.press r key popup text).1.cap = r.cap := by
  unfold Keys.press
  split_ifs
  · exact ⟨rfl, rfl⟩
  · exact r.older_keeps text
  · exact r.newer_keeps
  · exact ⟨rfl, rfl⟩

section Runs

variable {r : Ring} {queries : List String}

theorem Call.cap_perform (r : Ring) (call : Call) : (call.perform r).cap = r.cap := by
  cases call with
  | submit query => exact r.cap_submit query
  | replace queries => exact r.cap_replace queries
  | press keys p => exact (keys.press_keeps r p.key p.popup p.text).2

/-- **A call keeps the ring with what it is given.** -/
theorem Ring.Keeps.perform (h : r.Keeps queries) (call : Call) :
    (call.perform r).Keeps (call.give queries) := by
  cases call with
  | submit query => exact h.submit query
  | replace queries => exact r.keeps_replace queries
  | press keys p =>
      obtain ⟨hentries, hcap⟩ := keys.press_keeps r p.key p.popup p.text
      show (keys.press r p.key p.popup p.text).1.entries = _
      rw [hentries, h, ← hcap]
      rfl

/-- The cursor of a ring is at one of its entries after any call, too. -/
theorem Ring.Sound.perform (h : r.Sound) (call : Call) : (call.perform r).Sound := by
  cases call with
  | submit query =>
      show (r.submit query).1.Sound
      unfold Ring.submit
      split
      · exact h
      · intro i hi
        cases hi
  | replace queries =>
      intro i hi
      cases hi
  | press keys p => exact (effect_give h).sound h

end Runs

/-- **What a ring holds after any calls.** -/
theorem keeps_after (cap : Option Nat) (initial : List String) (calls : List Call) :
    let r := (Ring.ofList initial cap).after calls
    r.cap = cap ∧ r.Keeps (given initial calls) ∧ r.Sound := by
  induction calls using List.reverseRecOn with
  | nil =>
      refine ⟨Ring.cap_replace _ _, Ring.keeps_replace _ _, ?_⟩
      intro i hi
      cases hi
  | append_singleton calls call ih =>
      obtain ⟨hcap, hkeeps, hsound⟩ := ih
      simp only [Ring.after_concat, given_concat]
      exact ⟨(call.cap_perform _).trans hcap, hkeeps.perform call, hsound.perform call⟩

end QueryDesk.History
