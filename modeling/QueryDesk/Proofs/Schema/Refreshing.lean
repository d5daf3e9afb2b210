import QueryDesk.Proofs.OrderedMap
import QueryDesk.Proofs.Traversal
import QueryDesk.Session

/-!
# Refreshing the schema

A refresh asks two sources, one for the names of the tables and one for reports of their
columns.  Either may be absent, may fail, or may answer with a list, any item of which may
turn out to be none when it is read: a listed name may have no text, and a mapping may
describe no table.  A part counts as a whole or not at all, and each part that does not count
makes one warning; the other part is not touched by that.

The tables of the new snapshot are put together from both parts.  The order is that of first
sight, so a table that is reported twice stands where it came first, but its columns are
those of the last report.

## Main results

* `listedName_eq_error_iff`, `TableInfo.ofFields_eq_error_iff` — which items are none.
* `load_contributes` — what a part contributes, and the warning that it makes.
* `tableNames_build` — the tables of a snapshot in their order.
* `Session.step_list`, `Session.step_report` — the two loads of a refresh in a session.
* `refresh_parts` — what a refresh publishes.
-/

namespace QueryDesk

open Execution (Failure)

namespace Schema

/-! ## Parts -/

section Parts

variable {α β : Type} {read : β → Except String α}

/-- What a part contributes, and the text of the failure that keeps it from contributing
anything. -/
inductive Contributes (read : β → Except String α) :
    Option (Except Failure (List β)) → List α → Option String → Prop where
  /-- There is no source. -/
  | absent : Contributes read none [] none
  | failed (f : Failure) : Contributes read (some (.error f)) [] (some f.text)
  /-- All items can be read. -/
  | whole {items : List β} {xs : List α}
      (h : List.Forall₂ (fun item x => read item = .ok x) items xs) :
      Contributes read (some (.ok items)) xs none
  /-- The first item that cannot be read spoils the part, wherever it stands. -/
  | spoiled {good rest : List β} {bad : β} {text : String}
      (hgood : ∀ item ∈ good, ∃ x, read item = .ok x) (hbad : read bad = .error text) :
      Contributes read (some (.ok (good ++ bad :: rest))) [] (some text)

/-- Loads a part. -/
def load (read : β → Except String α) :
    Option (Except Failure (List β)) → Except String (List α)
  | none => .ok []
  | some answer => do
    let items ← answer.mapError (·.text)
    items.mapM read

/-- The warning of a part that failed. -/
def warning (connection part text : String) : Log.Record :=
  ⟨.warning, logSource, Execution.metadataMessage connection part (some text), none⟩

/-- **What a part contributes**, and the warning that it makes. -/
theorem load_contributes (read : β → Except String α) (connection part : String)
    (source : Option (Except Failure (List β))) :
    ∃ xs failure, Contributes read source xs failure ∧
      contribution connection part (load read source) =
        (xs, failure.toList.map (warning connection part)) := by
  match source with
  | none => exact ⟨[], none, .absent, rfl⟩
  | some (.error f) => exact ⟨[], some f.text, .failed f, rfl⟩
  | some (.ok items) =>
      have hload : load read (some (.ok items)) = items.mapM read := rfl
      cases hread : items.mapM read with
      | ok xs => exact ⟨xs, none, .whole (mapM_eq_ok_iff.mp hread), by rw [hload, hread]; rfl⟩
      | error text =>
          obtain ⟨good, bad, rest, rfl, hgood, hbad⟩ := mapM_eq_error_iff.mp hread
          exact ⟨[], some text, .spoiled hgood hbad, by rw [hload, hread]; rfl⟩

end Parts

theorem listed_eq (sources : Sources) (connection : String) :
    sources.listed connection =
      contribution connection "table list"
        (load (listedName sources.room) (sources.lister.map (· connection))) := by
  unfold Sources.listed
  cases sources.lister <;> rfl

theorem reported_eq (sources : Sources) (connection : String) :
    sources.reported connection =
      contribution connection "schema columns"
        (load (Item.read sources.room) (sources.reporter.map (· connection))) := by
  unfold Sources.reported
  cases sources.reporter <;> rfl

/-- A name that the lister gives spoils its part exactly if it has no text. -/
theorem listedName_eq_error_iff {room : Room} {v : Value} {text : String} :
    listedName room v = .error text ↔ ∃ e, readName room v = .error e ∧ e.message = text := by
  unfold listedName
  cases readName room v <;> simp [Except.mapError]

/-- What is wrong with a mapping that describes no table. -/
inductive TableInfo.Rejects (room : Room) (fields : OrderedMap String Value) :
    TableInfo.Error → Prop where
  | nameless (h : fields.get? "table_name" = none) : Rejects room fields .nameless
  /-- The name has no text. -/
  | name {name : Value} {e : Unshown} (hname : fields.get? "table_name" = some name)
      (h : readName room name = .error e) : Rejects room fields (.unshown e)
  /-- The columns are neither empty nor anything that has parts. -/
  | columns {name columns : Value} {text : String}
      (hname : fields.get? "table_name" = some name) (htext : readName room name = .ok text)
      (hcolumns : fields.get? "columns" = some columns) (hfilled : columns.isEmpty = false)
      (hparts : columns.parts? = none) :
      Rejects room fields (.columnsWithoutParts columns.kindName)
  /-- A column has no text, and those before it have one. -/
  | column {name columns bad : Value} {text : String} {good rest : List Value} {e : Unshown}
      (hname : fields.get? "table_name" = some name) (htext : readName room name = .ok text)
      (hcolumns : fields.get? "columns" = some columns) (hfilled : columns.isEmpty = false)
      (hparts : columns.parts? = some (good ++ bad :: rest))
      (hgood : ∀ part ∈ good, ∃ x, readName room part = .ok x)
      (h : readName room bad = .error e) : Rejects room fields (.unshown e)

section Mappings

variable {room : Room} {fields : OrderedMap String Value} {name : Value} {text : String}

/-- A mapping whose name has a text is what its columns are. -/
theorem TableInfo.ofFields_named (hname : fields.get? "table_name" = some name)
    (htext : readName room name = .ok text) :
    TableInfo.ofFields room fields =
      (columnParts ((fields.get? "columns").getD .null)).bind fun parts =>
        ((parts.mapM (readName room)).mapError .unshown).map (TableInfo.mk text) := by
  unfold TableInfo.ofFields
  simp only [hname, htext, Except.mapError, bind, Except.bind]
  rfl

/-- The columns are the parts of what stands there, unless that is empty. -/
theorem columnParts_cases (columns : Value) :
    columns.isEmpty = true ∧ columnParts columns = .ok [] ∨
      columns.isEmpty = false ∧
        (columns.parts? = none ∧
            columnParts columns = .error (.columnsWithoutParts columns.kindName) ∨
          ∃ parts, columns.parts? = some parts ∧ columnParts columns = .ok parts) := by
  unfold columnParts
  cases columns.isEmpty with
  | true => exact .inl ⟨rfl, rfl⟩
  | false => cases columns.parts? <;> simp

/-- What is not empty stands under its name. -/
theorem get?_columns (h : ((fields.get? "columns").getD .null).isEmpty = false) :
    fields.get? "columns" = some ((fields.get? "columns").getD .null) := by
  cases hcolumns : fields.get? "columns" with
  | none =>
      rw [hcolumns] at h
      cases h
  | some columns => rfl

/-- **Which mappings describe no table**: those without a name that has a text, and those
whose columns are not empty and have no parts, or a part without a text. -/
theorem TableInfo.ofFields_eq_error_iff {e : TableInfo.Error} :
    TableInfo.ofFields room fields = .error e ↔ TableInfo.Rejects room fields e := by
  constructor
  · intro h
    cases hname : fields.get? "table_name" with
    | none =>
        simp only [TableInfo.ofFields, hname] at h
        obtain rfl := Except.error.inj h
        exact .nameless hname
    | some name =>
        cases htext : readName room name with
        | error e' =>
            simp only [TableInfo.ofFields, hname, htext, Except.mapError, bind, Except.bind] at h
            obtain rfl := Except.error.inj h
            exact .name hname htext
        | ok text =>
            rw [TableInfo.ofFields_named hname htext] at h
            rcases columnParts_cases ((fields.get? "columns").getD .null) with
              ⟨-, hread⟩ | ⟨hfilled, ⟨hnone, hread⟩ | ⟨parts, hparts, hread⟩⟩
            · rw [hread] at h
              cases h
            · rw [hread] at h
              obtain rfl := Except.error.inj h
              exact .columns hname htext (get?_columns hfilled) hfilled hnone
            · rw [hread] at h
              cases hmapped : parts.mapM (readName room) with
              | ok columns =>
                  simp [Except.bind, hmapped, Except.mapError, Except.map] at h
              | error e' =>
                  obtain rfl : .unshown e' = e := by
                    simpa [Except.bind, hmapped, Except.mapError, Except.map] using h
                  obtain ⟨good, bad, rest, rfl, hgood, hbad⟩ := mapM_eq_error_iff.mp hmapped
                  exact .column hname htext (get?_columns hfilled) hfilled hparts hgood hbad
  · intro h
    cases h with
    | nameless h => simp only [TableInfo.ofFields, h]
    | name hname h =>
        simp only [TableInfo.ofFields, hname, h, Except.mapError, bind, Except.bind]
    | columns hname htext hcolumns hfilled hparts =>
        rw [TableInfo.ofFields_named hname htext, hcolumns]
        simp [columnParts, hfilled, hparts, Except.bind]
    | @column name columns bad text good rest e hname htext hcolumns hfilled hparts hgood h =>
        have hmapped : (good ++ bad :: rest).mapM (readName room) = .error e :=
          mapM_eq_error_iff.mpr ⟨good, bad, rest, rfl, hgood, h⟩
        rw [TableInfo.ofFields_named hname htext, hcolumns]
        simp [columnParts, hfilled, hparts, Except.bind, hmapped, Except.mapError, Except.map]

end Mappings

/-- An item that cannot be read is such a mapping. -/
theorem Item.read_eq_error_iff {room : Room} {item : Item} {text : String} :
    item.read room = .error text ↔ ∃ fields e, item = .mapping fields ∧
      TableInfo.Rejects room fields e ∧ e.message = text := by
  simp only [← TableInfo.ofFields_eq_error_iff]
  cases item with
  | info info => simp [Item.read]
  | mapping fields =>
      simp only [Item.read, Item.mapping.injEq, exists_eq_left', exists_and_left]
      cases TableInfo.ofFields room fields <;> simp [Except.mapError]

/-! ## The tables of a snapshot -/

/-- **The tables of a snapshot in their order**: the listed ones, then those that are only
reported, each where it was reported first. -/
theorem tableNames_build (infos : List TableInfo) (names : List String) (version : Int) :
    (Index.build infos names version).tableNames =
      names ++ ((infos.map (·.name)).eraseDups.filter (· ∉ names)) := by
  rw [Index.tableNames, Index.build]
  simp only [OrderedMap.names_ofEntries_eq_eraseDups, List.map_map]
  rfl

/-! ## Refreshes -/

/-- The warnings of a refresh are those of its parts. -/
theorem warnings_publish (snapshot : Index) (connection : String) (stillSelected : Bool)
    (listed : List String) (infos : List TableInfo) :
    (publish snapshot connection stillSelected listed infos).2.filter (·.level = .warning) =
      [] := by
  cases stillSelected <;> rfl

end Schema

namespace Session

variable {σ : Type} {s : Session σ} {n : Nat} {connection : String}

/-- The first load of a refresh never fails, and the refresh then waits for the second one. -/
theorem step_list (archive : Option (Execution.Archive σ)) (sources : Schema.Sources)
    (h : s.refreshes.get? n = some ⟨connection, none⟩) :
    s.step archive sources (.list n) =
      ({ s with refreshes := s.refreshes.put n ⟨connection, some (sources.listed connection).1⟩ },
        none, (sources.listed connection).2) := by
  simp only [step, h]

/-- The second load of a refresh never fails either, and it publishes the snapshot. -/
theorem step_report (archive : Option (Execution.Archive σ)) (sources : Schema.Sources)
    {names : List String} (h : s.refreshes.get? n = some ⟨connection, some names⟩)
    (hselected : s.connection = some connection) :
    let infos := sources.reported connection
    let published := Schema.publish s.snapshot connection true names infos.1
    s.step archive sources (.report n) =
      ({ s with snapshot := published.1, refreshes := s.refreshes.remove n }, none,
        infos.2 ++ published.2) := by
  simp only [step, h, hselected, decide_true]

end Session

namespace Schema

/-- **What a refresh publishes.**  Whatever the two sources answer, the refresh ends with a new
snapshot: a part that fails, or that holds an item which cannot be read, contributes nothing
and makes one warning, and the other part counts as a whole.  The tables are those of the
lister, then those that are only reported, each once and where it was reported first; and the
columns of a table are those of its last report.  In a session, other things may happen
before and between the two loads; neither of them fails, and together they make this
snapshot and these records, if the connection is selected at the end. -/
theorem refresh_parts (sources : Sources) (snapshot : Index) (connection : String) :
    ∃ names infos failure failure',
      Contributes (listedName sources.room) (sources.lister.map (· connection)) names failure ∧
      Contributes (Item.read sources.room) (sources.reporter.map (· connection)) infos failure' ∧
      let r := refresh sources snapshot connection true
      r.1.version = snapshot.version + 1 ∧
      r.1.tableNames = names ++ ((infos.map (·.name)).eraseDups.filter (· ∉ names)) ∧
      (∀ table, r.1.columnsOf table = (lastColumns infos table).getD []) ∧
      r.2.filter (·.level = .warning) =
        failure.toList.map (warning connection "table list") ++
          failure'.toList.map (warning connection "schema columns") ∧
      ∀ {σ : Type} (archive : Option (Execution.Archive σ)) (n : Nat) (s s' : Session σ),
        s.refreshes.get? n = some ⟨connection, none⟩ →
        s'.refreshes.get? n = some ⟨connection, some names⟩ →
        s'.snapshot = snapshot → s'.connection = some connection →
        ∃ during after logs logs',
          s.step archive sources (.list n) = (during, none, logs) ∧
          during.refreshes.get? n = some ⟨connection, some names⟩ ∧
          s'.step archive sources (.report n) = (after, none, logs') ∧
          after.snapshot = r.1 ∧ logs ++ logs' = r.2 := by
  obtain ⟨names, failure, hnames, hload⟩ := load_contributes (listedName sources.room) connection
    "table list" (sources.lister.map (· connection))
  obtain ⟨infos, failure', hinfos, hload'⟩ := load_contributes (Item.read sources.room) connection
    "schema columns" (sources.reporter.map (· connection))
  rw [← listed_eq] at hload
  rw [← reported_eq] at hload'
  have hsnapshot : (refresh sources snapshot connection true).1 =
      Index.build infos names (snapshot.version + 1) := by
    simp only [refresh, hload, hload']
    rfl
  have hwarnings : (refresh sources snapshot connection true).2.filter (·.level = .warning) =
      failure.toList.map (warning connection "table list") ++
        failure'.toList.map (warning connection "schema columns") := by
    simp only [refresh, hload, hload', List.filter_append, warnings_publish, List.append_nil]
    cases failure <;> cases failure' <;> rfl
  refine ⟨names, infos, failure, failure', hnames, hinfos, ?_, ?_, ?_, hwarnings, ?_⟩
  · rw [hsnapshot]
    rfl
  · rw [hsnapshot, tableNames_build]
  · intro table
    rw [hsnapshot, columnsOf_build]
  · rintro σ archive n s s' hbegun hlisted rfl hselected
    have hlist := Session.step_list archive sources hbegun
    have hreport := Session.step_report archive sources hlisted hselected
    rw [hload] at hlist
    rw [hload'] at hreport
    refine ⟨_, _, _, _, hlist, OrderedMap.get?_put_self _ _ _, hreport, hsnapshot.symm, ?_⟩
    simp only [refresh, hload, hload', List.append_assoc]

/-- A mapping without a name spoils the reports, and the names that were listed count. -/
theorem refresh_parts_spoiled :
    let sources : Sources :=
      { lister := some fun _ => .ok [.text "b", .text "a", .text "b"]
        reporter := some fun _ => .ok [.info ⟨"c", ["x"]⟩, .mapping []] }
    let s : Session Unit := { connection := some "db", coordinator := { store := () } }
    let r := refresh sources {} "db" true
    r.1.tableNames = ["b", "a", "b"] ∧
      r.2.filter (·.level = .warning) = [warning "db" "schema columns" "'table_name'"] ∧
      ∃ names after logs,
        Session.step none sources { s with refreshes := [(0, ⟨"db", some names⟩)] } (.report 0) =
          (after, none, logs) ∧ after.snapshot = r.1 := by
  intro sources s r
  obtain ⟨names, infos, failure, failure', -, -, -, -, -, -, hsession⟩ :=
    refresh_parts sources {} "db"
  obtain ⟨during, after, logs, logs', -, -, hreport, hafter, -⟩ :=
    hsession none 0 { s with refreshes := [(0, ⟨"db", none⟩)] }
      { s with refreshes := [(0, ⟨"db", some names⟩)] } rfl rfl rfl rfl
  exact ⟨by decide, by decide, names, after, logs', hreport, hafter⟩

end Schema

end QueryDesk
