/-!
# Maps that remember insertion order

A finite map from names of any type to values, kept as the list of its entries. A new name
goes to the end; a name that is already there keeps its place and takes the
new value.

## Main results

* `get?_put_self`, `get?_put_ne` — what a map answers after an entry is put.
* `get?_remove_self`, `get?_remove_ne` — what it answers after a removal.
* `get?_foldl_put` — of several values put under one name the last counts.
-/

namespace QueryDesk

/-- Entries in the order in which their names were first put. -/
abbrev OrderedMap (κ α : Type) := List (κ × α)

namespace OrderedMap

variable {κ α : Type} [DecidableEq κ]

/-- The value under a name. -/
def get? : OrderedMap κ α → κ → Option α
  | [], _ => none
  | (k, v) :: m, name => if k = name then some v else get? m name

/-- Sets the value under a name. -/
def put : OrderedMap κ α → κ → α → OrderedMap κ α
  | [], name, value => [(name, value)]
  | (k, v) :: m, name, value =>
    if k = name then (k, value) :: m else (k, v) :: put m name value

/-- Takes a name out, wherever it stands. -/
def remove : OrderedMap κ α → κ → OrderedMap κ α
  | [], _ => []
  | (k, v) :: m, name => if k = name then remove m name else (k, v) :: remove m name

/-- The names, in order. -/
def names (m : OrderedMap κ α) : List κ := m.map (·.1)

/-- The map of a list of entries, the later ones put after the earlier ones. -/
def ofEntries (entries : List (κ × α)) : OrderedMap κ α :=
  entries.foldl (fun m e => put m e.1 e.2) []

@[simp] theorem get?_nil (name : κ) : get? ([] : OrderedMap κ α) name = none := rfl

@[simp] theorem get?_put_self (m : OrderedMap κ α) (name : κ) (value : α) :
    get? (put m name value) name = some value := by
  induction m with
  | nil => simp [put, get?]
  | cons e m ih =>
    obtain ⟨k, v⟩ := e
    by_cases h : k = name <;> simp [put, get?, h, ih]

theorem get?_put_ne (m : OrderedMap κ α) {name other : κ} (value : α) (h : other ≠ name) :
    get? (put m name value) other = get? m other := by
  induction m with
  | nil => simp [put, get?, h.symm]
  | cons e m ih =>
    obtain ⟨k, v⟩ := e
    by_cases hk : k = name
    · simp [put, get?, hk, h.symm]
    · simp [put, get?, hk, ih]

@[simp] theorem get?_remove_self (m : OrderedMap κ α) (name : κ) :
    get? (remove m name) name = none := by
  induction m with
  | nil => rfl
  | cons e m ih =>
    obtain ⟨k, v⟩ := e
    by_cases h : k = name <;> simp [remove, get?, h, ih]

theorem get?_remove_ne (m : OrderedMap κ α) {name other : κ} (h : other ≠ name) :
    get? (remove m name) other = get? m other := by
  induction m with
  | nil => rfl
  | cons e m ih =>
    obtain ⟨k, v⟩ := e
    by_cases hk : k = name
    · simp [remove, get?, hk, h.symm, ih]
    · simp [remove, get?, hk, ih]

/-- Of several values put under one name the last counts. -/
theorem get?_foldl_put {β : Type} (name : β → κ) (value : β → α) (xs : List β)
    (m : OrderedMap κ α) (k : κ) :
    get? (xs.foldl (fun m x => put m (name x) (value x)) m) k
      = ((xs.reverse.find? (name · = k)).map value).or (get? m k) := by
  induction xs generalizing m with
  | nil => simp
  | cons x xs ih =>
    rw [List.foldl_cons, ih, List.reverse_cons, List.find?_append]
    cases h : xs.reverse.find? (name · = k) with
    | some y => simp
    | none =>
      by_cases hk : name x = k
      · subst hk; simp
      · simp [hk, get?_put_ne m (value x) (Ne.symm hk)]

end OrderedMap

end QueryDesk
