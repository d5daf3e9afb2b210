import Mathlib.Data.List.Dedup
import Mathlib.Data.List.Induction
import Mathlib.Data.List.Nodup
import QueryDesk.OrderedMap

/-!
# Maps without repeated names

A map keeps its entries in a list, and nothing in that list alone keeps a name
from standing twice.  The operations do: putting and removing keep the names
apart, and then an entry of the list is what the map answers under its name.

## Main results

* `nodup_put`, `nodup_remove` — the names stay apart.
* `get?_eq_some_iff` — the entries of such a map are its answers.
* `names_ofEntries` — the names of a list of entries, each where it comes first.
* `get?_ofEntries`, `get?_ofEntries_of_last` — of several entries under one name the last
  counts.
-/

namespace QueryDesk.OrderedMap

variable {κ α : Type} [DecidableEq κ]

/-- A new name goes to the end. -/
theorem put_of_not_mem {m : OrderedMap κ α} {name : κ} (h : name ∉ names m) (value : α) :
    put m name value = m ++ [(name, value)] := by
  induction m with
  | nil => rfl
  | cons e m ih =>
      obtain ⟨k, v⟩ := e
      obtain ⟨hk, hm⟩ : name ≠ k ∧ name ∉ names m := by simpa [names] using h
      simp only [put, if_neg hk.symm, ih hm, List.cons_append]

/-- Putting keeps the names that are there, in their order. -/
theorem names_put (m : OrderedMap κ α) (name : κ) (value : α) :
    names (put m name value) = if name ∈ names m then names m else names m ++ [name] := by
  induction m with
  | nil => rfl
  | cons e m ih =>
      obtain ⟨k, v⟩ := e
      by_cases hk : k = name
      · simp [put, names, hk]
      · have hne : ¬ name = k := fun h => hk h.symm
        have ih' : (put m name value).map (·.1) =
            if name ∈ m.map (·.1) then m.map (·.1) else m.map (·.1) ++ [name] := ih
        simp only [put, names, if_neg hk, List.map_cons, List.mem_cons, hne, false_or, ih']
        split <;> rfl

theorem nodup_put {m : OrderedMap κ α} (h : (names m).Nodup) (name : κ) (value : α) :
    (names (put m name value)).Nodup := by
  rw [names_put]
  split
  · exact h
  · rename_i hname
    exact List.nodup_append.mpr ⟨h, List.nodup_singleton _, fun a ha b hb hab => by
      obtain rfl : b = name := by simpa using hb
      exact hname (hab ▸ ha)⟩

/-- What holds of all values, and of a further one, holds after it is put. -/
theorem forall_put {m : OrderedMap κ α} {p : α → Prop} (h : ∀ e ∈ m, p e.2) (name : κ) {value : α}
    (hvalue : p value) : ∀ e ∈ put m name value, p e.2 := by
  induction m with
  | nil => exact List.forall_mem_singleton.mpr hvalue
  | cons e m ih =>
      obtain ⟨k, v⟩ := e
      obtain ⟨hv, hm⟩ := List.forall_mem_cons.mp h
      by_cases hk : k = name
      · rw [put, if_pos hk]
        exact List.forall_mem_cons.mpr ⟨hvalue, hm⟩
      · rw [put, if_neg hk]
        exact List.forall_mem_cons.mpr ⟨hv, ih hm⟩

theorem get?_eq_none {m : OrderedMap κ α} {name : κ} (h : name ∉ names m) :
    get? m name = none := by
  induction m with
  | nil => rfl
  | cons e m ih =>
      obtain ⟨k, v⟩ := e
      obtain ⟨hk, hm⟩ : name ≠ k ∧ name ∉ names m := by simpa [names] using h
      rw [get?, if_neg hk.symm, ih hm]

theorem remove_eq_filter (m : OrderedMap κ α) (name : κ) :
    remove m name = m.filter fun e => e.1 ≠ name := by
  induction m with
  | nil => rfl
  | cons e m ih =>
      obtain ⟨k, v⟩ := e
      by_cases hk : k = name <;> simp [remove, hk, ih]

/-- Removing keeps the other names, in their order. -/
theorem names_remove (m : OrderedMap κ α) (name : κ) :
    names (remove m name) = (names m).filter (· ≠ name) := by
  rw [remove_eq_filter, names, names, List.filter_map]
  rfl

theorem nodup_remove {m : OrderedMap κ α} (h : (names m).Nodup) (name : κ) :
    (names (remove m name)).Nodup := by
  rw [remove_eq_filter]
  exact h.sublist (List.filter_sublist.map _)

/-- **The entries of a map without repeated names are its answers.** -/
theorem get?_eq_some_iff {m : OrderedMap κ α} (h : (names m).Nodup) {name : κ} {value : α} :
    get? m name = some value ↔ (name, value) ∈ m := by
  induction m with
  | nil => simp
  | cons e m ih =>
      obtain ⟨k, v⟩ := e
      obtain ⟨hk, hm⟩ : k ∉ names m ∧ (names m).Nodup := List.nodup_cons.mp h
      by_cases hname : k = name
      · subst hname
        have hother : (k, value) ∉ m := fun hmem => hk (List.mem_map_of_mem hmem)
        simp [get?, hother, eq_comm]
      · have hne : ¬ name = k := fun h => hname h.symm
        simp [get?, hname, hne, ih hm]

/-! ## Maps of lists of entries -/

theorem ofEntries_concat (entries : List (κ × α)) (e : κ × α) :
    ofEntries (entries ++ [e]) = put (ofEntries entries) e.1 e.2 := by
  simp [ofEntries]

/-- A map of entries answers with the last entry under a name. -/
theorem get?_ofEntries (entries : List (κ × α)) (name : κ) :
    get? (ofEntries entries) name = (entries.reverse.find? (·.1 = name)).map (·.2) := by
  rw [ofEntries, get?_foldl_put, get?_nil, Option.or_none]

theorem get?_ofEntries_eq_none_iff {entries : List (κ × α)} {name : κ} :
    get? (ofEntries entries) name = none ↔ ∀ e ∈ entries, e.1 ≠ name := by
  rw [get?_ofEntries]
  simp

/-- **The names of a map** are those of its entries, each where it comes first. -/
theorem names_ofEntries (entries : List (κ × α)) :
    names (ofEntries entries) = (entries.map (·.1)).reverse.dedup.reverse := by
  induction entries using List.reverseRecOn with
  | nil => rfl
  | append_singleton entries e ih =>
      rw [ofEntries_concat, names_put, ih, List.map_append, List.map_singleton,
        List.reverse_concat, List.dedup_cons]
      simp only [List.mem_reverse, List.mem_dedup]
      split <;> simp

/-- In other words, the names without those that came before. -/
theorem names_ofEntries_eq_eraseDups (entries : List (κ × α)) :
    names (ofEntries entries) = (entries.map (·.1)).eraseDups := by
  induction entries using List.reverseRecOn with
  | nil => rfl
  | append_singleton entries e ih =>
      rw [ofEntries_concat, names_put, ih, List.map_append, List.eraseDups_append]
      by_cases he : e.1 ∈ entries.map (·.1)
      · simp [List.removeAll, List.mem_eraseDups, he]
      · simp [List.removeAll, List.mem_eraseDups, he, List.eraseDups_cons]

theorem nodup_ofEntries (entries : List (κ × α)) : (names (ofEntries entries)).Nodup := by
  rw [names_ofEntries, List.nodup_reverse]
  exact List.nodup_dedup _

/-- What holds of the values of all entries holds of those of their map. -/
theorem forall_ofEntries {entries : List (κ × α)} {p : α → Prop} (h : ∀ e ∈ entries, p e.2) :
    ∀ e ∈ ofEntries entries, p e.2 := by
  induction entries using List.reverseRecOn with
  | nil => nofun
  | append_singleton entries e ih =>
      rw [ofEntries_concat]
      exact forall_put (ih fun e' he' => h e' (List.mem_append_left _ he')) e.1 (h e (by simp))

theorem map_put {β : Type} (f : α → β) (m : OrderedMap κ α) (name : κ) (value : α) :
    (put m name value).map (fun e => (e.1, f e.2)) =
      put (m.map fun e => (e.1, f e.2)) name (f value) := by
  induction m with
  | nil => rfl
  | cons e m ih =>
      by_cases hname : e.1 = name <;> simp [put, hname, ih]

/-- A map of entries whose values are changed is the map with its values changed. -/
theorem map_ofEntries {β : Type} (f : α → β) (entries : List (κ × α)) :
    (ofEntries entries).map (fun e => (e.1, f e.2)) =
      ofEntries (entries.map fun e => (e.1, f e.2)) := by
  induction entries using List.reverseRecOn with
  | nil => rfl
  | append_singleton entries e ih =>
      rw [ofEntries_concat, map_put, ih, List.map_append, List.map_singleton, ofEntries_concat]

/-- **Of several entries under one name the last counts.** -/
theorem get?_ofEntries_of_last {before after : List (κ × α)} {name : κ} {value : α}
    (h : ∀ e ∈ after, e.1 ≠ name) :
    get? (ofEntries (before ++ (name, value) :: after)) name = some value := by
  have hafter : after.reverse.find? (·.1 = name) = none := by simpa using h
  simp [get?_ofEntries, hafter]

end QueryDesk.OrderedMap
