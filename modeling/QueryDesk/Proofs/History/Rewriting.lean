import QueryDesk.Proofs.History.Retention
import QueryDesk.Proofs.Storage.Loading

/-!
# Rewriting a document that others wrote

A history document need not be one that the store has written.  Under the name of a
connection anything may stand, and so it may under the other names, which are none
of the store's business.  Every change writes the whole document anew all the same;
what this keeps of the rest is said here for every document that is loaded.

A loaded document is readable, whatever was in the file, so it survives when it is
written: its numbers have the same words, its names stand in the same order.  That
is what carries the other fields through a change of one.

## Main results

* `save_of_load`, `clear_of_load` — what a change makes of a loaded document.
* `store_keeps_other_fields` — a change is one of its own connection alone.
-/

namespace QueryDesk.History

open Storage

/-! ## The queries of a document -/

/-- No query of a connection is blank. -/
theorem notBlank_of_mem_queriesOf {fields : Fields} {connection q : String}
    (h : q ∈ queriesOf fields connection) : Text.isBlankText q = false := by
  unfold queriesOf at h
  split at h
  · obtain ⟨v, -, hv⟩ := List.mem_filterMap.mp h
    split at hv
    · split at hv
      · cases hv
      · rename_i hblank
        obtain rfl := Option.some.inj hv
        exact Bool.eq_false_iff.mpr hblank
    · cases hv
  · cases h

/-- The queries of a connection after one is recorded. -/
theorem queriesOf_recorded {cap : Int} (hcap : 0 < cap) (fields : Fields) (connection : String)
    {query : String} (hquery : Text.isBlankText query = false) :
    queriesOf (recorded cap fields connection query) connection =
      newest cap.toNat (moveToEnd (queriesOf fields connection) query) := by
  rw [← cut_eq_newest hcap]
  refine queriesOf_of_list (OrderedMap.get?_put_self ..) ?_
  intro q hq
  rw [cut_eq_newest hcap] at hq
  rcases List.mem_append.mp ((newest_sublist _ _).subset hq) with hq | hq
  · exact notBlank_of_mem_queriesOf (List.mem_filter.mp hq).1
  · rw [List.mem_singleton.mp hq]
    exact hquery

/-- A query that is recorded is among those of its connection. -/
theorem mem_queriesOf_recorded {cap : Int} (hcap : 0 < cap) (fields : Fields) (connection : String)
    {query : String} (hquery : Text.isBlankText query = false) :
    query ∈ queriesOf (recorded cap fields connection query) connection := by
  obtain ⟨n, hn⟩ : ∃ n, cap.toNat = n + 1 := ⟨cap.toNat - 1, by omega⟩
  rw [queriesOf_recorded hcap fields connection hquery, moveToEnd, hn, newest_concat]
  exact List.mem_append_right _ (List.mem_singleton_self query)

/-! ## Documents that survive -/

/-- A readable document is still readable after a query is recorded in it. -/
theorem readable_recorded {room : Nat} (hroom : 2 ≤ room) {fields : Fields}
    (h : Json.Readable room (.object fields)) (cap : Int) (connection query : String) :
    Json.Readable room (.object (recorded cap fields connection query)) := by
  obtain ⟨room, rfl⟩ := Nat.exists_eq_add_of_le' hroom
  cases h with
  | object hnames hfields =>
      refine .object (OrderedMap.nodup_put hnames _ _) (OrderedMap.forall_put hfields _ ?_)
      refine .list fun v hv => ?_
      obtain ⟨q, -, rfl⟩ := List.mem_map.mp hv
      exact .text q

/-- A readable document is still readable without one of its fields. -/
theorem readable_remove {room : Nat} {fields : Fields} (h : Json.Readable room (.object fields))
    (connection : String) :
    Json.Readable room (.object (OrderedMap.remove fields connection)) := by
  cases h with
  | object hnames hfields =>
      refine .object (OrderedMap.nodup_remove hnames _) ?_
      intro f hf
      rw [OrderedMap.remove_eq_filter] at hf
      exact hfields f (List.mem_filter.mp hf).1

section Changes

variable {store : Store} {fs : FileSystem} {s : Surroundings} {fields : Fields}
  {logs : List Log.Record}

/-- The queries that a store loads are those of a document. -/
theorem exists_document_of_load {connection : String} {queries : List String}
    (h : store.load fs s connection = .ok (queries, logs)) :
    ∃ fields, store.document.load fs s = .ok (fields, logs) ∧
      queriesOf fields connection = queries := by
  unfold Store.load at h
  cases hdocument : store.document.load fs s with
  | error e =>
      rw [hdocument] at h
      cases h
  | ok r =>
      rw [hdocument] at h
      cases h
      exact ⟨r.1, rfl, rfl⟩

/-- Readable fields are put in the file, and loaded from it. -/
theorem put_readable {α : Type} (hready : store.document.Ready fs s)
    (h : Json.Readable s.room.read (.object fields)) (answer : α) (logs : List Log.Record) :
    ∃ fs', store.put fs s fields answer logs = ⟨fs', .ok answer, logs⟩ ∧
      store.document.load fs' s = .ok (fields, []) := by
  obtain ⟨fs', hsave, -, hload⟩ := hready.save h.faithful
  refine ⟨fs', ?_, hload⟩
  unfold Store.put
  rw [hsave]

/-- **Saving a query records it** in the document that was loaded. -/
theorem save_of_load (hready : store.document.Ready fs s)
    (hload : store.document.load fs s = .ok (fields, logs)) (connection : String) {query : String}
    (hquery : Text.strip query ≠ "") :
    ∃ fs', store.save fs s connection query = ⟨fs', .ok (), logs⟩ ∧
      store.document.load fs' s =
        .ok (recorded store.cap fields connection (Text.strip query), []) := by
  simp only [Store.save, hquery, if_false, hload]
  exact put_readable hready (readable_recorded s.room.ample (Document.readable_of_load hload) ..)
    () logs

/-- **Clearing a connection** answers how many queries it had, and takes its field out
of the document that was loaded, unless there is nothing under its name. -/
theorem clear_of_load (hready : store.document.Ready fs s)
    (hload : store.document.load fs s = .ok (fields, logs)) (connection : String) :
    ∃ fs' after logs',
      store.clear fs s connection =
        ⟨fs', .ok (queriesOf fields connection).length, logs⟩ ∧
      store.document.load fs' s = .ok (after, logs') ∧
      (after = OrderedMap.remove fields connection ∨
        after = fields ∧ queriesOf fields connection = []) := by
  simp only [Store.clear, hload]
  split
  · rename_i hnone
    refine ⟨fs, fields, logs, rfl, hload, .inr ⟨rfl, ?_⟩⟩
    unfold queriesOf
    rw [hnone]
  · rename_i hnull
    refine ⟨fs, fields, logs, rfl, hload, .inr ⟨rfl, ?_⟩⟩
    unfold queriesOf
    rw [hnull]
  · obtain ⟨fs', hput, hloaded⟩ := put_readable hready
      (readable_remove (Document.readable_of_load hload) connection)
      (queriesOf fields connection).length logs
    exact ⟨fs', _, [], hput, hloaded, .inl rfl⟩

end Changes

/-! ## Whatever the file holds -/

/-- **A change is one of its own connection alone.**  Take a store with a positive cap
and any file in a directory where it can be replaced, absent, malformed, not an object
or an object with anything in it, and let the store load the queries `L` for a
connection, as it does unless `Document.load_eq_error_iff` says otherwise.  A blank query
leaves the file as it is.  Any other query is saved: then the store loads `L` without
the queries that differ from it by blanks at their ends at most, the query without these
behind them, and of all that the newest, as many as the cap allows.  The other fields
keep their values and all fields their places; a new one comes last.  Clearing answers
the length of `L`: then the store loads nothing for the connection, and the other fields
keep their values and their order. -/
theorem store_keeps_other_fields (store : Store) (hcap : 0 < store.cap) (fs : FileSystem)
    (s : Surroundings) (hwork : fs.IsDirectory s.work)
    (hsave : (store.document.save fs s (.object [])).2 = .ok ())
    (connection query : String) (L : List String) (logs : List Log.Record)
    (hload : store.load fs s connection = .ok (L, logs)) :
    ∃ before, store.document.load fs s = .ok (before, logs) ∧
      (OrderedMap.names before).Nodup ∧
      (Text.strip query = "" → store.save fs s connection query = ⟨fs, .ok (), []⟩) ∧
      (Text.strip query ≠ "" → ∃ fs' after,
        store.save fs s connection query = ⟨fs', .ok (), logs⟩ ∧
        store.document.load fs' s = .ok (after, []) ∧
        store.load fs' s connection = .ok (newest store.cap.toNat
          (L.filter (fun e => Text.strip e ≠ Text.strip query) ++ [Text.strip query]), []) ∧
        (∀ other, other ≠ connection → after.get? other = before.get? other) ∧
        OrderedMap.names after =
          if connection ∈ OrderedMap.names before then OrderedMap.names before
          else OrderedMap.names before ++ [connection]) ∧
      ∃ fs' after logs',
        store.clear fs s connection = ⟨fs', .ok L.length, logs⟩ ∧
        store.document.load fs' s = .ok (after, logs') ∧
        store.load fs' s connection = .ok ([], logs') ∧
        (∀ other, other ≠ connection → after.get? other = before.get? other) ∧
        (OrderedMap.names after).filter (· ≠ connection) =
          (OrderedMap.names before).filter (· ≠ connection) := by
  have hready := Document.ready_of_save hwork hsave
  obtain ⟨before, hdocument, rfl⟩ := exists_document_of_load hload
  have hnames : (OrderedMap.names before).Nodup :=
    (Document.readable_of_load hdocument).nodup_names
  refine ⟨before, hdocument, hnames, ?_, ?_, ?_⟩
  · intro hblank
    simp only [Store.save, hblank, if_true]
  · intro hquery
    obtain ⟨fs', hsaved, hafter⟩ := save_of_load hready hdocument connection hquery
    have hnew : Text.isBlankText (Text.strip query) = false := by
      rw [Text.isBlankText_strip]
      exact Bool.eq_false_iff.mpr fun h => hquery (Text.strip_eq_empty_iff.mpr h)
    refine ⟨fs', _, hsaved, hafter, ?_, ?_, OrderedMap.names_put ..⟩
    · rw [load_of_document hafter, queriesOf_recorded hcap before connection hnew, moveToEnd]
    · intro other hother
      exact OrderedMap.get?_put_ne _ _ hother
  · obtain ⟨fs', after, logs', hcleared, hafter, hcases⟩ :=
      clear_of_load hready hdocument connection
    refine ⟨fs', after, logs', hcleared, hafter, ?_⟩
    rw [load_of_document hafter]
    rcases hcases with rfl | ⟨rfl, hnil⟩
    · have hgone : queriesOf (OrderedMap.remove before connection) connection = [] := by
        unfold queriesOf
        rw [OrderedMap.get?_remove_self]
      refine ⟨by rw [hgone], ?_, ?_⟩
      · intro other hother
        exact OrderedMap.get?_remove_ne before hother
      · rw [OrderedMap.names_remove, List.filter_filter]
        simp only [Bool.and_self]
    · exact ⟨by rw [hnil], fun _ _ => rfl, rfl⟩

/-- A document that was edited by hand, with a null, a blank query and a query with
blanks around it among the queries of a connection, and a number under another name. -/
theorem store_keeps_other_fields_edited :
    let store : Store := ⟨⟨⟨"/", ["history.json"]⟩⟩, 2⟩
    let s : Surroundings := { work := [], home := [], config := [] }
    let number : Value := .float (Decimal.Binary64.ofDecimal false 25 (-1))
    let before : Fields :=
      [("a", .list [.null, .text " x ", .text "", .text "y", .text "z"]), ("b", number)]
    let fs : FileSystem := [(["history.json"], .file (Document.bytesOf (.object before)) 0o600)]
    0 < store.cap ∧ FileSystem.IsDirectory fs s.work ∧
      (store.document.save fs s (.object [])).2 = .ok () ∧
      store.load fs s "a" = .ok ([" x ", "y", "z"], []) ∧
      Text.strip "x" ≠ "" ∧
      ∃ fs' after, store.save fs s "a" "x" = ⟨fs', .ok (), []⟩ ∧
        store.document.load fs' s = .ok (after, []) ∧
        store.load fs' s "a" = .ok (["z", "x"], []) ∧
        after.get? "b" = some number ∧ OrderedMap.names after = ["a", "b"] := by
  intro store s number before fs
  have hcap : 0 < store.cap := by decide
  have hwork : FileSystem.IsDirectory fs s.work := FileSystem.isDirectory_root fs
  have hhoused : store.document.Housed fs s fs [] := by
    refine ⟨⟨rfl, rfl, FileSystem.isDirectory_root fs⟩, by decide, by decide, by decide,
      by decide, ?_⟩
    rintro ⟨mode, hmode⟩
    cases hmode
  have hsave : (store.document.save fs s (.object [])).2 = .ok () := by
    rw [Document.save_of_housed hhoused rfl]
  have hreadable : Json.Readable s.room.read (.object before) := by
    refine .object (by decide) ?_
    rintro f hf
    rcases List.mem_pair.mp hf with rfl | rfl
    · refine .list fun v hv => ?_
      simp only [List.mem_cons, List.not_mem_nil, or_false] at hv
      rcases hv with rfl | rfl | rfl | rfl | rfl
      · exact .null
      all_goals exact .text _
    · exact .float (Decimal.Binary64.regular_ofDecimal ..)
  have hbefore : store.document.load fs s = .ok (before, []) := by
    obtain ⟨cs, hdecode, htext⟩ := Document.decode_bytesOf hreadable.faithful
    refine Document.load_of_holdsObject hhoused.nul
      ⟨_, ⟨cs, ?_, htext.symm⟩, Json.read_text hreadable.faithful⟩
    rw [← Text.Utf8.decode?_eq_some_iff.mp hdecode]
    rfl
  have hload : store.load fs s "a" = .ok ([" x ", "y", "z"], []) := by
    rw [load_of_document hbefore]
    rfl
  have hstrip : Text.strip "x" ≠ "" := by decide
  refine ⟨hcap, hwork, hsave, hload, hstrip, ?_⟩
  obtain ⟨before', hbefore', -, -, hsaves, -⟩ :=
    store_keeps_other_fields store hcap fs s hwork hsave "a" "x" _ _ hload
  obtain rfl : before = before' := (Prod.mk.inj (Except.ok.inj (hbefore.symm.trans hbefore'))).1
  obtain ⟨fs', after, hsaved, hafter, hqueries, hothers, hnames⟩ := hsaves hstrip
  refine ⟨fs', after, hsaved, hafter, ?_, ?_, ?_⟩
  · rw [hqueries]
    decide
  · rw [hothers "b" (by decide)]
    rfl
  · rw [hnames]
    rfl

end QueryDesk.History
