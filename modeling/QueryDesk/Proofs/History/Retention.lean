import Mathlib.Data.List.Induction
import QueryDesk.History.Store
import QueryDesk.Proofs.History.Recency
import QueryDesk.Proofs.Storage.Reload
import QueryDesk.Proofs.Text.Blank

/-!
# What a history store retains

The store reads its document before every change, cuts the list of one
connection and writes everything back.  What it should retain is said without a
document: the queries saved for a connection since it was last cleared, each at
its last occurrence, and of these the newest.  The two agree after any
operations on any connections, because the document always holds, under the name
of each connection, the list that is expected for it (`Holds`), and because a
query that was cut off can only come back as the newest.

## Main results

* `Holds.save`, `Holds.clear` — what one change makes of the lists.
* `store_retains_newest` — after any operations from a file that is absent, the
  store retains what is expected.
-/

namespace QueryDesk.History

open Storage

/-! ## What is expected -/

/-- What is done with a store. -/
inductive Operation where
  | save (connection query : String)
  | clear (connection : String)
  | load (connection : String)
  deriving DecidableEq, Repr

namespace Operation

/-- The connection that an operation is about. -/
def connection : Operation → String
  | save connection _ | clear connection | load connection => connection

/-- What an operation adds to the queries of a connection: a query without the
blanks around it, if it is not blank.  Clearing takes all of them back. -/
def remember (connection : String) (queries : List String) : Operation → List String
  | save c query =>
    if c = connection ∧ Text.isBlankText query = false then queries ++ [Text.strip query]
    else queries
  | clear c => if c = connection then [] else queries
  | load _ => queries

end Operation

/-- The queries saved for a connection since it was last cleared. -/
def remembered (ops : List Operation) (connection : String) : List String :=
  ops.foldl (Operation.remember connection) []

/-- The newest `n` of them, each only where it occurs last. -/
def expected (n : Nat) (ops : List Operation) (connection : String) : List String :=
  newest n (remembered ops connection).dedup

@[simp] theorem remembered_concat (ops : List Operation) (op : Operation) (connection : String) :
    remembered (ops ++ [op]) connection = op.remember connection (remembered ops connection) := by
  simp [remembered]

/-- A list as a store keeps it: no repetitions, no blanks around a query, and no
blank query. -/
structure Tidy (queries : List String) : Prop where
  nodup : queries.Nodup
  stripped : ∀ q ∈ queries, Text.strip q = q
  notBlank : ∀ q ∈ queries, Text.isBlankText q = false

theorem expected_nil (n : Nat) (connection : String) : expected n [] connection = [] :=
  newest_nil n

theorem remembered_tidy {ops : List Operation} {connection q : String}
    (hq : q ∈ remembered ops connection) :
    Text.strip q = q ∧ Text.isBlankText q = false := by
  induction ops using List.reverseRecOn with
  | nil => cases hq
  | append_singleton ops op ih =>
      rw [remembered_concat] at hq
      cases op with
      | save c query =>
          simp only [Operation.remember] at hq
          split at hq
          · rename_i hsaved
            rcases List.mem_append.mp hq with hq | hq
            · exact ih hq
            · obtain rfl := List.mem_singleton.mp hq
              exact ⟨Text.strip_strip query, by rw [Text.isBlankText_strip]; exact hsaved.2⟩
          · exact ih hq
      | clear c =>
          simp only [Operation.remember] at hq
          split at hq
          · cases hq
          · exact ih hq
      | load c => exact ih hq

theorem expected_tidy (n : Nat) (ops : List Operation) (connection : String) :
    Tidy (expected n ops connection) := by
  have hmem : ∀ q ∈ expected n ops connection, q ∈ remembered ops connection := fun q hq =>
    List.mem_dedup.mp ((newest_sublist _ _).subset hq)
  exact ⟨(List.nodup_dedup _).sublist (newest_sublist _ _),
    fun q hq => (remembered_tidy (hmem q hq)).1, fun q hq => (remembered_tidy (hmem q hq)).2⟩

/-- A query moves to the end of the list of its connection, which is cut; a blank
one leaves it. -/
theorem expected_save (n : Nat) (ops : List Operation) (c query connection : String) :
    expected n (ops ++ [.save c query]) connection =
      if c = connection ∧ Text.isBlankText query = false then
        newest n ((expected n ops connection).filter (· ≠ Text.strip query) ++ [Text.strip query])
      else expected n ops connection := by
  rw [expected, remembered_concat, Operation.remember]
  split
  · rw [dedup_concat, expected, newest_moved n (List.nodup_dedup _)]
  · rfl

theorem expected_clear (n : Nat) (ops : List Operation) (c connection : String) :
    expected n (ops ++ [.clear c]) connection =
      if c = connection then [] else expected n ops connection := by
  rw [expected, remembered_concat, Operation.remember]
  split
  · rw [List.dedup_nil, newest_nil]
  · rfl

theorem expected_load (n : Nat) (ops : List Operation) (c connection : String) :
    expected n (ops ++ [.load c]) connection = expected n ops connection := by
  rw [expected, remembered_concat]
  rfl

/-! ## What a document holds -/

/-- What stands under the name of a connection with some queries. -/
def listed (queries : List String) : Option Value :=
  if queries = [] then none else some (.list (queries.map .text))

/-- A list of queries that are not blank is read as it was written. -/
theorem queriesOf_of_list {fields : Fields} {connection : String} {queries : List String}
    (h : fields.get? connection = some (.list (queries.map .text)))
    (hblank : ∀ q ∈ queries, Text.isBlankText q = false) :
    queriesOf fields connection = queries := by
  unfold queriesOf
  rw [h]
  simp only
  clear h
  induction queries with
  | nil => rfl
  | cons q qs ih =>
      obtain ⟨hq, hqs⟩ := List.forall_mem_cons.mp hblank
      rw [List.map_cons, List.filterMap_cons_some (b := q) (by simp [hq]), ih hqs]

theorem queriesOf_listed {fields : Fields} {connection : String} {queries : List String}
    (h : fields.get? connection = listed queries)
    (hblank : ∀ q ∈ queries, Text.isBlankText q = false) :
    queriesOf fields connection = queries := by
  rw [listed] at h
  split at h
  · rename_i hnil
    unfold queriesOf
    rw [h, hnil]
  · exact queriesOf_of_list h hblank

/-- A store loads the queries of its document. -/
theorem load_of_document {store : Store} {fs : FileSystem} {s : Surroundings} {fields : Fields}
    {logs : List Log.Record} (h : store.document.load fs s = .ok (fields, logs))
    (connection : String) :
    store.load fs s connection = .ok (queriesOf fields connection, logs) := by
  unfold Store.load
  rw [h]
  rfl

/-- A positive cap leaves that many of the newest. -/
theorem cut_eq_newest {α : Type} {cap : Int} (hcap : 0 < cap) (xs : List α) :
    cut cap xs = newest cap.toNat xs := by
  rw [cut, if_pos (by omega)]

/-- The document of a store holds a list for each connection, and can be saved. -/
structure Holds (store : Store) (fs : FileSystem) (s : Surroundings)
    (contents : String → List String) : Prop where
  ready : store.document.Ready fs s
  loads : ∃ fields, store.document.load fs s = .ok (fields, []) ∧
    (OrderedMap.names fields).Nodup ∧ ∀ c, fields.get? c = listed (contents c)

/-- Lists of texts survive being saved. -/
theorem faithful_of_listed {room : Nat} (hroom : 2 ≤ room) {fields : Fields}
    {contents : String → List String} (hnames : (OrderedMap.names fields).Nodup)
    (hlisted : ∀ c, fields.get? c = listed (contents c)) :
    Json.Faithful room (.object fields) := by
  obtain ⟨room, rfl⟩ := Nat.exists_eq_add_of_le' hroom
  have hlists : ∀ f ∈ fields, Json.Faithful (room + 1) f.2 := by
    rintro ⟨c, v⟩ hf
    have hget := hlisted c
    rw [(OrderedMap.get?_eq_some_iff hnames).mpr hf, listed] at hget
    split at hget
    · cases hget
    · obtain rfl := Option.some.inj hget
      refine Json.Faithful.list fun v hv => ?_
      obtain ⟨q, -, rfl⟩ := List.mem_map.mp hv
      exact Json.Faithful.text q
  exact Json.Faithful.object hnames hlists

namespace Holds

variable {store : Store} {fs : FileSystem} {s : Surroundings} {contents : String → List String}

/-- Saving fields puts the store in the state that they describe. -/
theorem put {α : Type} (h : Holds store fs s contents) {fields : Fields}
    {contents' : String → List String} (hnames : (OrderedMap.names fields).Nodup)
    (hlisted : ∀ c, fields.get? c = listed (contents' c)) (answer : α) :
    ∃ fs', store.put fs s fields answer [] = ⟨fs', .ok answer, []⟩ ∧
      Holds store fs' s contents' := by
  obtain ⟨fs', hsave, hready, hload⟩ :=
    h.ready.save (faithful_of_listed s.room.ample hnames hlisted)
  refine ⟨fs', ?_, hready, fields, hload, hnames, hlisted⟩
  unfold Store.put
  rw [hsave]

theorem load (h : Holds store fs s contents) (htidy : ∀ c, Tidy (contents c)) (c : String) :
    store.load fs s c = .ok (contents c, []) := by
  obtain ⟨fields, hload, -, hlisted⟩ := h.loads
  rw [load_of_document hload, queriesOf_listed (hlisted c) (htidy c).notBlank]

/-- **A saved query moves to the end of the list of its connection**, which is
then cut; a blank query changes nothing. -/
theorem save (h : Holds store fs s contents) (htidy : ∀ c, Tidy (contents c))
    (hcap : 0 < store.cap) (c query : String) :
    ∃ fs', store.save fs s c query = ⟨fs', .ok (), []⟩ ∧
      Holds store fs' s fun connection =>
        if c = connection ∧ Text.isBlankText query = false then
          newest store.cap.toNat
            ((contents connection).filter (· ≠ Text.strip query) ++ [Text.strip query])
        else contents connection := by
  obtain ⟨fields, hload, hnames, hlisted⟩ := h.loads
  by_cases hblank : Text.isBlankText query = true
  · refine ⟨fs, ?_, ?_⟩
    · simp only [Store.save, Text.strip_eq_empty_iff.mpr hblank, if_true]
    · simpa [hblank] using h
  · have hblank' : Text.isBlankText query = false := Bool.eq_false_iff.mpr hblank
    have hstrip : Text.strip query ≠ "" := fun h => hblank (Text.strip_eq_empty_iff.mp h)
    have hmoved : moveToEnd (queriesOf fields c) (Text.strip query) =
        (contents c).filter (· ≠ Text.strip query) ++ [Text.strip query] := by
      have hfilter : (contents c).filter (fun q => Text.strip q ≠ Text.strip query) =
          (contents c).filter (· ≠ Text.strip query) :=
        List.filter_congr fun q hq => by rw [(htidy c).stripped q hq]
      rw [queriesOf_listed (hlisted c) (htidy c).notBlank, moveToEnd, hfilter]
    -- The new list is not empty, so it stands under its name.
    have hsome : newest store.cap.toNat
        ((contents c).filter (· ≠ Text.strip query) ++ [Text.strip query]) ≠ [] := by
      have hlength := length_newest store.cap.toNat
        ((contents c).filter (· ≠ Text.strip query) ++ [Text.strip query])
      rw [List.length_append, List.length_singleton] at hlength
      refine List.ne_nil_of_length_pos ?_
      omega
    simp only [Store.save, hstrip, if_false, hload]
    refine h.put (OrderedMap.nodup_put hnames _ _) (fun connection => ?_) ()
    rw [hmoved, cut_eq_newest hcap]
    by_cases hc : c = connection
    · subst hc
      rw [OrderedMap.get?_put_self, if_pos ⟨rfl, hblank'⟩, listed, if_neg hsome]
    · rw [OrderedMap.get?_put_ne _ _ (Ne.symm hc), if_neg fun h => hc h.1, hlisted]

/-- **Clearing a connection empties its list** and answers how long it was. -/
theorem clear (h : Holds store fs s contents) (htidy : ∀ c, Tidy (contents c)) (c : String) :
    ∃ fs', store.clear fs s c = ⟨fs', .ok (contents c).length, []⟩ ∧
      Holds store fs' s fun connection => if c = connection then [] else contents connection := by
  obtain ⟨fields, hload, hnames, hlisted⟩ := h.loads
  have hcount : (queriesOf fields c).length = (contents c).length := by
    rw [queriesOf_listed (hlisted c) (htidy c).notBlank]
  by_cases hnil : contents c = []
  · have hget : fields.get? c = none := by rw [hlisted, listed, if_pos hnil]
    refine ⟨fs, ?_, ?_⟩
    · simp only [Store.clear, hload, hget, hcount]
    · have hsame : (fun connection => if c = connection then [] else contents connection) =
          contents := by
        funext connection
        split
        · rename_i hc
          rw [← hc, hnil]
        · rfl
      rw [hsame]
      exact h
  · have hget : fields.get? c = some (.list ((contents c).map .text)) := by
      rw [hlisted, listed, if_neg hnil]
    simp only [Store.clear, hload, hget, hcount]
    refine h.put (OrderedMap.nodup_remove hnames c) (fun connection => ?_) _
    by_cases hc : c = connection
    · subst hc
      rw [OrderedMap.get?_remove_self, if_pos rfl]
      rfl
    · rw [OrderedMap.get?_remove_ne _ (Ne.symm hc), if_neg hc, hlisted]

end Holds

/-! ## Runs of operations -/

namespace Store

/-- The file system after an operation. -/
def perform (store : Store) (s : Surroundings) (fs : FileSystem) : Operation → FileSystem
  | .save connection query => (store.save fs s connection query).fileSystem
  | .clear connection => (store.clear fs s connection).fileSystem
  | .load _ => fs

/-- The file system after some operations. -/
def performAll (store : Store) (s : Surroundings) (fs : FileSystem) (ops : List Operation) :
    FileSystem :=
  ops.foldl (store.perform s) fs

@[simp] theorem performAll_concat (store : Store) (s : Surroundings) (fs : FileSystem)
    (ops : List Operation) (op : Operation) :
    store.performAll s fs (ops ++ [op]) = store.perform s (store.performAll s fs ops) op := by
  simp [performAll]

end Store

section Runs

variable {store : Store} {fs : FileSystem} {s : Surroundings}

/-- An absent file holds nothing. -/
theorem holds_absent (hwork : fs.IsDirectory s.work)
    (hsave : (store.document.save fs s (.object [])).2 = .ok ())
    (habsent : fs.read s.work store.document.path = .error .notFound) :
    Holds store fs s fun _ => [] := by
  have hready := Document.ready_of_save hwork hsave
  obtain ⟨housed, directory, hhoused⟩ := hready.housed
  refine ⟨hready, [], ?_, List.nodup_nil, fun _ => rfl⟩
  simp only [Document.load, hhoused.nul, habsent]
  rfl

/-- **After any operations the document holds what is expected.** -/
theorem holds_expected (hcap : 0 < store.cap) (hwork : fs.IsDirectory s.work)
    (hsave : (store.document.save fs s (.object [])).2 = .ok ())
    (habsent : fs.read s.work store.document.path = .error .notFound) (ops : List Operation) :
    Holds store (store.performAll s fs ops) s (expected store.cap.toNat ops) := by
  induction ops using List.reverseRecOn with
  | nil =>
      rw [funext (expected_nil store.cap.toNat)]
      exact holds_absent hwork hsave habsent
  | append_singleton ops op ih =>
      have htidy := expected_tidy store.cap.toNat ops
      rw [Store.performAll_concat]
      cases op with
      | save c query =>
          obtain ⟨fs', hsaved, hholds⟩ := ih.save htidy hcap c query
          rw [Store.perform, hsaved]
          rwa [funext (expected_save store.cap.toNat ops c query)]
      | clear c =>
          obtain ⟨fs', hcleared, hholds⟩ := ih.clear htidy c
          rw [Store.perform, hcleared]
          rwa [funext (expected_clear store.cap.toNat ops c)]
      | load c => rwa [Store.perform, funext (expected_load store.cap.toNat ops c)]

/-- An operation on another connection changes nothing of what is expected. -/
theorem expected_of_other (n : Nat) (ops : List Operation) {op : Operation} {connection : String}
    (h : op.connection ≠ connection) :
    expected n (ops ++ [op]) connection = expected n ops connection := by
  cases op with
  | save c query => rw [expected_save, if_neg fun h' => h h'.1]
  | clear c =>
      have hc : ¬ c = connection := h
      rw [expected_clear, if_neg hc]
  | load c => exact expected_load n ops c connection

end Runs

/-- **A store retains the newest distinct queries.**  Take a store with a
positive cap whose file is absent and can be made, and any operations on it.
For every connection it loads the newest queries, as many as the cap allows, of
those saved for the connection since it was last cleared, each where it occurs
last, without the blanks around them and without blank ones; and it reports
nothing.  Its document holds just these lists.  They have no repetitions, no
blank or unstripped queries, and are never longer than the cap.  Saving never
fails, clearing answers how many queries there were, and no operation changes
what is loaded for another connection. -/
theorem store_retains_newest (store : Store) (hcap : 0 < store.cap) (fs : FileSystem)
    (s : Surroundings) (hwork : fs.IsDirectory s.work)
    (hsave : (store.document.save fs s (.object [])).2 = .ok ())
    (habsent : fs.read s.work store.document.path = .error .notFound) (ops : List Operation) :
    let n := store.cap.toNat
    let after := store.performAll s fs ops
    (∀ c, store.load after s c = .ok (newest n (remembered ops c).dedup, [])) ∧
      (∃ fields, store.document.load after s = .ok (fields, []) ∧
        (OrderedMap.names fields).Nodup ∧
        ∀ c, fields.get? c = listed (newest n (remembered ops c).dedup)) ∧
      (∀ c, Tidy (newest n (remembered ops c).dedup) ∧
        (newest n (remembered ops c).dedup).length ≤ n) ∧
      (∀ c query, (store.save after s c query).answer = .ok ()) ∧
      (∀ c, (store.clear after s c).answer = .ok (newest n (remembered ops c).dedup).length) ∧
      ∀ c op, op.connection ≠ c →
        store.load (store.perform s after op) s c = store.load after s c := by
  intro n after
  have htidy : ∀ ops c, Tidy (expected n ops c) := expected_tidy n
  have hholds : ∀ ops, Holds store (store.performAll s fs ops) s (expected n ops) :=
    holds_expected hcap hwork hsave habsent
  refine ⟨(hholds ops).load (htidy ops), (hholds ops).loads, fun c => ⟨htidy ops c, ?_⟩, ?_, ?_,
    ?_⟩
  · rw [length_newest]
    exact Nat.min_le_left _ _
  · intro c query
    obtain ⟨fs', hsaved, -⟩ := (hholds ops).save (htidy ops) hcap c query
    rw [hsaved]
  · intro c
    obtain ⟨fs', hcleared, -⟩ := (hholds ops).clear (htidy ops) c
    rw [hcleared]
    rfl
  · intro c op hop
    have hafter := (hholds (ops ++ [op])).load (htidy _) c
    rw [Store.performAll_concat, expected_of_other n ops hop] at hafter
    rw [hafter, (hholds ops).load (htidy ops)]

/-- A store at the root of an empty file system, with room for two queries. -/
theorem store_retains_newest_two :
    let store : Store := ⟨⟨⟨"/", ["history.json"]⟩⟩, 2⟩
    let s : Surroundings := { work := [], home := [], config := [] }
    let ops : List Operation :=
      [.save "db" "SELECT 1", .save "db" " SELECT 2 ", .save "db" "SELECT 1", .save "db" "SELECT 3"]
    0 < store.cap ∧ FileSystem.IsDirectory [] s.work ∧
      (store.document.save [] s (.object [])).2 = .ok () ∧
      FileSystem.read [] s.work store.document.path = .error .notFound ∧
      store.load (store.performAll s [] ops) s "db" = .ok (["SELECT 1", "SELECT 3"], []) := by
  intro store s ops
  have hcap : 0 < store.cap := by decide
  have hwork : FileSystem.IsDirectory [] s.work := FileSystem.isDirectory_root []
  have hhoused : store.document.Housed [] s [] [] := by
    refine ⟨⟨rfl, rfl, FileSystem.isDirectory_root []⟩, by decide, by decide, by decide,
      by decide, ?_⟩
    rintro ⟨mode, hmode⟩
    cases hmode
  have hsave : (store.document.save [] s (.object [])).2 = .ok () := by
    rw [Document.save_of_housed hhoused rfl]
  have habsent : FileSystem.read [] s.work store.document.path = .error .notFound := by rfl
  refine ⟨hcap, hwork, hsave, habsent, ?_⟩
  rw [(store_retains_newest store hcap [] s hwork hsave habsent ops).1 "db"]
  decide

end QueryDesk.History
