import Mathlib.Data.Nat.Find
import QueryDesk.Proofs.Json.Decoding
import QueryDesk.Proofs.Report.Records

/-!
# What is left of a row in an object

A row is printed as an object, which keeps its cells under the names of their
columns.  The names of a result need not differ, though: a join of two tables has two
columns of one name if the tables have.  An object has one field for each different
name and keeps the cell of the last column of that name.  So a column is represented
by its own cell exactly if the last column of its name has the same cell, and an
object is shorter than its row exactly if a name comes twice.  A table and a text
with commas have no such limit, since they know columns by their places.

## Main results

* `keyed_ofEntries` — what the object of a row holds.
* `json_reads_back` — the objects that a printed result is read back as.
* `json_loses_cell` — a cell that is in the other formats and not in the object.
-/

namespace QueryDesk.Report

open Execution (Result)
open Json (decoded)

/-- What the object of a row holds. -/
structure Keyed (columns : List String) (row : List Value)
    (object : OrderedMap String Value) : Prop where
  /-- The different names of the columns, each where it comes first. -/
  names : object.names = columns.reverse.dedup.reverse
  /-- Under a name stands the cell of the last column that has it. -/
  last : ∀ {j : Nat} {name : String}, columns[j]? = some name →
    (∀ k, j < k → columns[k]? ≠ some name) → object.get? name = row[j]?.map decoded
  /-- All columns are represented by their own cells exactly if columns of one name
  have one cell. -/
  represented : (∀ (j : Nat) (name : String), columns[j]? = some name →
      object.get? name = row[j]?.map decoded) ↔
    ∀ (j k : Nat) (name : String), columns[j]? = some name → columns[k]? = some name →
      row[j]?.map decoded = row[k]?.map decoded
  /-- There are as many fields as cells exactly if no name comes twice, -/
  full : object.length = row.length ↔ columns.Nodup
  /-- and never more. -/
  length_le : object.length ≤ row.length

/-- Every name of a list has a last place in it. -/
theorem exists_last_place {columns : List String} {j : Nat} {name : String}
    (h : columns[j]? = some name) :
    ∃ k : Nat, columns[k]? = some name ∧ ∀ l, k < l → columns[l]? ≠ some name := by
  have hj : j ≤ columns.length := (List.getElem?_eq_some_iff.mp h).1.le
  let named (i : Nat) : Prop := columns[i]? = some name
  have hspec : named (Nat.findGreatest named columns.length) := Nat.findGreatest_spec hj h
  refine ⟨Nat.findGreatest named columns.length, hspec, fun l hl hname => ?_⟩
  have hlength : l ≤ columns.length := (List.getElem?_eq_some_iff.mp hname).1.le
  exact Nat.findGreatest_is_greatest hl hlength hname

theorem get?_ofEntries_zip {columns : List String} {cells : List Value} {j : Nat} {name : String}
    (hlength : cells.length = columns.length) (hname : columns[j]? = some name)
    (hlast : ∀ k, j < k → columns[k]? ≠ some name) :
    (OrderedMap.ofEntries (columns.zip cells)).get? name = cells[j]? := by
  have hj : j < columns.length := (List.getElem?_eq_some_iff.mp hname).1
  obtain ⟨v, hv⟩ : ∃ v, cells[j]? = some v := ⟨_, List.getElem?_eq_getElem (hlength ▸ hj)⟩
  have hentry : (columns.zip cells)[j]? = some (name, v) :=
    List.getElem?_zip_eq_some.mpr ⟨hname, hv⟩
  obtain ⟨hbound, hat⟩ := List.getElem?_eq_some_iff.mp hentry
  have hsplit : columns.zip cells
      = (columns.zip cells).take j ++ (name, v) :: (columns.zip cells).drop (j + 1) := by
    rw [← hat, List.getElem_cons_drop, List.take_append_drop]
  rw [hv, hsplit]
  refine OrderedMap.get?_ofEntries_of_last fun e he heq => ?_
  -- An entry behind is that of a column behind.
  obtain ⟨i, hi⟩ := List.mem_iff_getElem?.mp he
  rw [List.getElem?_drop] at hi
  have hbehind : columns[j + 1 + i]? = some e.1 := (List.getElem?_zip_eq_some.mp hi).1
  exact hlast (j + 1 + i) (by omega) (heq ▸ hbehind)

/-- **The object of a row.** -/
theorem keyed_ofEntries {columns : List String} {row : List Value}
    (h : row.length = columns.length) :
    Keyed columns row (OrderedMap.ofEntries (columns.zip (row.map decoded))) := by
  have hlength : (row.map decoded).length = columns.length := by rw [List.length_map, h]
  have hnames : (OrderedMap.ofEntries (columns.zip (row.map decoded))).names
      = columns.reverse.dedup.reverse := by
    rw [OrderedMap.names_ofEntries, List.map_fst_zip hlength.ge]
  have hlast : ∀ {j : Nat} {name : String}, columns[j]? = some name →
      (∀ k, j < k → columns[k]? ≠ some name) →
      (OrderedMap.ofEntries (columns.zip (row.map decoded))).get? name = row[j]?.map decoded := by
    intro j name hname hlater
    rw [get?_ofEntries_zip hlength hname hlater, List.getElem?_map]
  have hcount : (OrderedMap.ofEntries (columns.zip (row.map decoded))).length
      = columns.dedup.length := by
    have hfields := congrArg List.length hnames
    rwa [OrderedMap.names, List.length_map, List.length_reverse,
      (List.reverse_perm columns).dedup.length_eq] at hfields
  refine ⟨hnames, hlast, ⟨fun hown j k name hj hk => ?_, fun hsame j name hj => ?_⟩, ?_, ?_⟩
  · rw [← hown j name hj, hown k name hk]
  · obtain ⟨k, hk, hlater⟩ := exists_last_place hj
    rw [hlast hk hlater, hsame j k name hj hk]
  · rw [hcount, h]
    exact ⟨fun heq => List.dedup_eq_self.mp ((List.dedup_sublist columns).eq_of_length heq),
      fun hnodup => by rw [hnodup.dedup]⟩
  · rw [hcount, h]
    exact (List.dedup_sublist columns).length_le

/-- What stands in the text of the object of a row. -/
theorem decoded_rowObject (columns : List String) (row : List Value) :
    decoded (rowObject columns row)
      = .object (OrderedMap.ofEntries (columns.zip (row.map decoded))) := by
  rw [rowObject, decoded, Json.decodedFields_eq_map, OrderedMap.map_ofEntries, List.zip_map_right]
  rfl

/-- A row whose cells can be read from what is written of them is an object without an
obstacle, and so are all rows a list without one. -/
theorem obstacle?_json {n : Nat} {r : Result}
    (hcells : ∀ row ∈ r.rows, ∀ v ∈ row, Json.Readable n (decoded v)) {room : Nat}
    (hroom : n + 4 ≤ room) :
    Json.obstacle? false room (.list (r.rows.map (rowObject r.columns))) = none := by
  obtain ⟨k, rfl⟩ : ∃ k, room = n + k + 2 + 1 + 1 := ⟨room - (n + 4), by omega⟩
  refine Json.obstacle?_list.mpr fun v hv => ?_
  obtain ⟨row, hrow, rfl⟩ := List.mem_map.mp hv
  have hfields : ∀ e ∈ OrderedMap.ofEntries (r.columns.zip row),
      Json.obstacle? false (n + k + 2) e.2 = none := by
    refine OrderedMap.forall_ofEntries (p := fun v => Json.obstacle? false _ v = none)
      fun e he => ?_
    exact Json.obstacle?_of_readable e.2
      ((hcells row hrow e.2 (List.of_mem_zip he).2).mono (Nat.le_add_right n k))
  exact Json.obstacle?_object.mpr hfields

/-- **A result that is printed as objects is read back** as a list of one object for
each row, in order, if its cells can be read at all, as those of a database can
(`Json.Scalar.readable`); it is printed then if there is room for four levels more than
the cells have.  An object holds one field for each different name of a column, with the
cell of the last column of that name. -/
theorem json_reads_back (room : Room) (n : Nat) (r : Result) (hcolumns : r.columns ≠ [])
    (hrows : ∀ row ∈ r.rows, row.length = r.columns.length)
    (hcells : ∀ row ∈ r.rows, ∀ v ∈ row, Json.Readable n (decoded v)) :
    let p := print room .json r
    (n + 4 ≤ room.printed → p.failure = none) ∧
      (p.failure = none →
        ∃ objects : List (OrderedMap String Value),
          Json.read (n + 2) p.out = .ok (.list (objects.map .object)) ∧
          objects.length = r.rows.length ∧
          ∀ (i : Nat) (row : List Value) (object : OrderedMap String Value),
            r.rows[i]? = some row → objects[i]? = some object → Keyed r.columns row object) := by
  intro p
  have hp : p = json room.printed r := by simp [p, print, Result.returnsRows, hcolumns]
  refine ⟨fun hroom => ?_, fun hprinted => ?_⟩
  · rw [hp, json, obstacle?_json hcells hroom]
  let objects := r.rows.map fun row => OrderedMap.ofEntries (r.columns.zip (row.map decoded))
  have hout : p.out = Json.text (.list (objects.map .object)) ++ "\n" := by
    have htext : Json.text (.list (r.rows.map (rowObject r.columns)))
        = Json.text (.list (objects.map .object)) := by
      rw [← Json.text_decoded, decoded, Json.decodedItems_eq_map, List.map_map, List.map_map]
      exact congrArg (fun f => Json.text (.list (r.rows.map f)))
        (funext fun row => decoded_rowObject r.columns row)
    rw [hp] at hprinted ⊢
    unfold json at hprinted ⊢
    cases hobstacle : Json.obstacle? false room.printed
        (.list (r.rows.map (rowObject r.columns))) with
    | some o => simp [hobstacle] at hprinted
    | none => simp only [hobstacle, htext]
  have hobject : ∀ row ∈ r.rows, Json.Readable (n + 1)
      (.object (OrderedMap.ofEntries (r.columns.zip (row.map decoded)))) := by
    intro row hrow
    refine .object (OrderedMap.nodup_ofEntries _) (OrderedMap.forall_ofEntries fun e he => ?_)
    obtain ⟨v, hv, heq⟩ := List.mem_map.mp (List.of_mem_zip he).2
    exact heq ▸ hcells row hrow v hv
  have hreadable : Json.Readable (n + 2) (.list (objects.map .object)) := by
    refine Json.Readable.list fun v hv => ?_
    obtain ⟨object, hmem, rfl⟩ := List.mem_map.mp hv
    obtain ⟨row, hrow, rfl⟩ := List.mem_map.mp hmem
    exact hobject row hrow
  refine ⟨objects, ?_, List.length_map .., fun i row object hrow hat => ?_⟩
  · rw [hout]
    exact Json.read_text_line hreadable.faithful
  · have hmade : object = OrderedMap.ofEntries (r.columns.zip (row.map decoded)) := by
      have hsome : objects[i]? = some (OrderedMap.ofEntries (r.columns.zip (row.map decoded))) := by
        simp only [objects, List.getElem?_map, hrow, Option.map_some]
      exact Option.some.inj (hat.symm.trans hsome)
    exact hmade ▸ keyed_ofEntries (hrows row (List.mem_of_getElem? hrow))

/-- Two rows under a name that comes twice, one of them with equal cells there, and
bytes and nothing besides. -/
theorem json_reads_back_repeated :
    let room : Room := {}
    let r : Result :=
      { columns := ["id", "data", "id"]
        rows := [[.int 1, .bytes [255], .int 1], [.int 2, .null, .int 3]] }
    r.columns ≠ [] ∧ (∀ row ∈ r.rows, row.length = r.columns.length) ∧
      (∀ row ∈ r.rows, ∀ v ∈ row, Json.Readable 0 (decoded v)) ∧
      (print room .json r).failure = none ∧
      ∃ objects : List (OrderedMap String Value),
        Json.read 2 (print room .json r).out = .ok (.list (objects.map .object)) ∧
        objects.length = r.rows.length ∧
        ∀ (i : Nat) (row : List Value) (object : OrderedMap String Value),
          r.rows[i]? = some row → objects[i]? = some object → Keyed r.columns row object := by
  intro room r
  have hcolumns : r.columns ≠ [] := by simp [r]
  have hrows : ∀ row ∈ r.rows, row.length = r.columns.length := by decide
  have hint : ∀ n : Int, n.natAbs < 10 → Json.Scalar (.int n) :=
    fun n hn => .int (Json.lt_tenPow hn (by decide))
  have hscalar : ∀ row ∈ r.rows, ∀ v ∈ row, Json.Scalar v := by
    simp only [r, List.forall_mem_cons, List.not_mem_nil, false_imp_iff, implies_true, and_true]
    exact ⟨⟨hint 1 (by decide), .bytes _, hint 1 (by decide)⟩, hint 2 (by decide), .null,
      hint 3 (by decide)⟩
  have hcells : ∀ row ∈ r.rows, ∀ v ∈ row, Json.Readable 0 (decoded v) :=
    fun row hrow v hv => (hscalar row hrow v hv).readable _
  obtain ⟨hprinted, hread⟩ := json_reads_back room 0 r hcolumns hrows hcells
  exact ⟨hcolumns, hrows, hcells, hprinted (by decide), hread (hprinted (by decide))⟩

/-- **A cell is lost** where a name comes twice: a row of two cells is printed as an
object that has no field with the first of them, while the record of the row has both. -/
theorem json_loses_cell :
    let room : Room := {}
    let r : Result := { columns := ["id", "id"], rows := [[.int 1, .int 2]] }
    let object : OrderedMap String Value := [("id", .int 2)]
    (∀ row ∈ r.rows, row.length = r.columns.length) ∧
      Json.read 2 (print room .json r).out = .ok (.list [.object object]) ∧
      (∀ name, object.get? name ≠ some (.int 1)) ∧
      Csv.read? (print room .csv r).out.toList =
        some [[['i', 'd'], ['i', 'd']], [['1'], ['2']]] := by
  intro room r object
  have hobject : Json.Readable 2 (.list [.object object]) := by
    refine .list (List.forall_mem_singleton.mpr (.object (List.nodup_singleton _) ?_))
    exact List.forall_mem_singleton.mpr (.int (Json.lt_tenPow (by decide) (by decide)))
  have hout : (print room .json r).out = Json.text (.list [.object object]) ++ "\n" := by
    decide +kernel
  refine ⟨by decide, ?_, fun name => ?_, ?_⟩
  · rw [hout]
    exact Json.read_text_line hobject.faithful
  · by_cases h : "id" = name <;> simp [object, OrderedMap.get?, h]
  · have hprint : print room .csv r = csv room.shown r := by
      simp [print, Result.returnsRows, r]
    have hrecords : recordTexts room.shown r = [["id", "id"], ["1", "2"]] := by decide +kernel
    have hread := read?_csv room.shown r
    rw [hrecords] at hread
    rw [hprint]
    exact hread

end QueryDesk.Report
