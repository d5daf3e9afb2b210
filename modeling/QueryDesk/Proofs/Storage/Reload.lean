import QueryDesk.Proofs.Json.Depth
import QueryDesk.Proofs.Storage.Saving
import QueryDesk.Proofs.Text.Utf8

/-!
# Documents reloaded

What is housed is housed still after it is saved, so whatever could be saved
once can be saved again.  What is loaded afterwards is what was saved, provided
that its text survives, which it does if the document is faithful.

A document made of objects, lists, texts, integers, truth values and null comes
back wherever the reader has room for it: what bounds its integers is an obstacle
to writing it, and a document that is saved has none.  Room is another matter.  The
writer has one level more than the reader at the same place, and a document can be
saved at one place and loaded at another, so there are documents that are saved and
then too deep to be loaded.

## Main results

* `Ready.save` — a document that can be saved is loaded as it was saved, and can
  be saved again.
* `load_saved_exact` — what is loaded of a document that was saved.
* `node?_saved_saved` — what is saved again changes nothing.
* `saved_document_reloads` — a saved document is loaded as it was saved where the
  reader has room for it, and nowhere else.
* `saved_document_too_deep` — there are documents that are saved and not loaded.
-/

namespace QueryDesk.Storage.Document

open FileSystem

/-! ## What is saved is loaded -/

section Loaded

variable {d : Document} {fs housed : FileSystem} {s : Surroundings} {directory : Location}

/-- **What was housed is housed after it is saved.** -/
theorem Housed.saved (h : d.Housed fs s housed directory) (v : Value) :
    d.Housed (saved d v housed directory) s (saved d v housed directory) directory := by
  have hstay : ∀ l, housed.IsDirectory l → (Document.saved d v housed directory).IsDirectory l :=
    fun l hl => isDirectory_saved h v hl
  have hplace := place_mono hstay h.place
  refine ⟨⟨?_, hplace, hstay _ h.room⟩, h.nul, h.name, h.nameShort, h.pathShort, ?_⟩
  · obtain ⟨l, hstart, hwalk⟩ := place_eq_ok.mp hplace
    unfold FileSystem.makeDirectories
    rw [hstart]
    exact makeWay_of_walk hwalk (hstay _ h.room) _ _
  · rintro ⟨mode, hmode⟩
    rw [node?_saved_self] at hmode
    cases hmode

/-- Where a document is housed depends on nothing but the current directory. -/
theorem Housed.of_work {s' : Surroundings} (h : d.Housed fs s housed directory)
    (hwork : s'.work = s.work) : d.Housed fs s' housed directory :=
  ⟨⟨hwork ▸ h.made, hwork ▸ h.place, h.room⟩, h.nul, h.name, h.nameShort, h.pathShort, h.target⟩

/-- The bytes of a document that is saved are read. -/
theorem read_saved (h : d.Housed fs s housed directory) (v : Value) :
    (Document.saved d v housed directory).read s.work d.path = .ok (bytesOf v) := by
  unfold FileSystem.read
  rw [h.place_saved v]
  simp only [bind, Except.bind, node?_saved_self]
  rfl

/-- The bytes of a faithful value are read as its text. -/
theorem decode_bytesOf {room : Nat} {v : Value} (hv : Json.Faithful room v) :
    ∃ cs, Text.Utf8.decode? (bytesOf v) = some cs ∧
      String.ofList (Text.Utf8.lineFeedsOnly cs) = Json.text v := by
  have hplain := Json.plain_text hv
  have hreturn : '\r' ∉ (Json.text v).toList := by
    intro hc
    have hc := hplain _ hc
    revert hc
    decide
  refine ⟨(Json.text v).toList, Text.Utf8.decode?_eq_some_iff.mpr rfl, ?_⟩
  rw [Text.Utf8.lineFeedsOnly_eq_self hreturn, String.ofList_toList]

/-- What is loaded of a faithful document is what its text is parsed as. -/
theorem load_saved_eq (h : d.Housed fs s housed directory) {room : Nat} {v : Value}
    (hv : Json.Faithful room v) :
    d.load (Document.saved d v housed directory) s = d.parse s.room.read (Json.text v) := by
  obtain ⟨cs, hdecode, htext⟩ := decode_bytesOf hv
  simp only [load, h.nul, Bool.false_eq_true, if_false, read_saved h, hdecode, htext]

theorem load_saved (h : d.Housed fs s housed directory)
    {fields : Fields} (hfields : Json.Faithful s.room.read (.object fields)) :
    d.load (Document.saved d (.object fields) housed directory) s = .ok (fields, []) := by
  simp only [load_saved_eq h hfields, parse, Json.read_text hfields]

/-- **What is loaded of an exact document that was saved**: its fields, if the reader
has room for them. -/
theorem load_saved_exact (h : d.Housed fs s housed directory) {fields : Fields} {room : Nat}
    (hexact : Json.Exact (.object fields))
    (hwritten : Json.obstacle? true room (.object fields) = none) :
    d.load (Document.saved d (.object fields) housed directory) s =
      if Json.nesting (.object fields) ≤ s.room.read then .ok (fields, [])
      else .error .tooDeep := by
  rw [load_saved_eq h (hexact.faithful hwritten (Nat.le_refl _)), parse,
    Json.read_exact hexact hwritten]
  by_cases hroom : Json.nesting (.object fields) ≤ s.room.read
  · simp only [if_pos hroom]
  · simp only [if_neg hroom]

/-- A document that can be saved, in a current directory that is there. -/
structure Ready (d : Document) (fs : FileSystem) (s : Surroundings) : Prop where
  work : fs.IsDirectory s.work
  housed : ∃ housed directory, d.Housed fs s housed directory

/-- A document that is saved could be saved. -/
theorem ready_of_save (hwork : fs.IsDirectory s.work) {v : Value}
    (h : (d.save fs s v).2 = .ok ()) : d.Ready fs s :=
  ⟨hwork, (housed_of_save h).2⟩

/-- **A document that can be saved is loaded as it was saved, and can be saved
again.** -/
theorem Ready.save (h : d.Ready fs s) {fields : Fields}
    (hfields : Json.Faithful s.room.read (.object fields)) :
    ∃ fs', d.save fs s (.object fields) = (fs', .ok ()) ∧ d.Ready fs' s ∧
      d.load fs' s = .ok (fields, []) := by
  obtain ⟨housed, directory, hhoused⟩ := h.housed
  have hwork := hhoused.extends.isDirectory h.work
  exact ⟨_, save_of_housed hhoused hfields.written,
    ⟨isDirectory_saved hhoused _ hwork, _, _, hhoused.saved _⟩, load_saved hhoused hfields⟩

end Loaded

/-! ## Saving again -/

/-- **What is saved again changes nothing**: its bytes are those of the first
saving, under the same name. -/
theorem node?_saved_saved (d : Document) (v : Value) (housed : FileSystem)
    (directory l : Location) :
    (saved d v (saved d v housed directory) directory).node? l =
      (saved d v housed directory).node? l := by
  by_cases hl : l = directory ++ [d.path.name]
  · rw [hl, node?_saved_self, node?_saved_self]
  · exact node?_saved_ne d v _ hl

/-- A document that was saved and is saved once more has its bytes, and so has every other
file. -/
theorem saved_again {d : Document} {fs housed : FileSystem} {s s' : Surroundings}
    {directory : Location} (h : d.Housed fs s housed directory) (hwork : s'.work = s.work)
    {v : Value} (hv : Json.obstacle? true s'.room.written v = none) :
    let after := saved d v housed directory
    let again := d.save after s' v
    again.2 = .ok () ∧ after.read s.work d.path = .ok (bytesOf v) ∧
      again.1.read s.work d.path = after.read s.work d.path ∧
      ∀ l, again.1.node? l = after.node? l := by
  intro after again
  have hagain : again = (saved d v after directory, .ok ()) :=
    save_of_housed ((h.saved v).of_work hwork) hv
  have hread : after.read s.work d.path = .ok (bytesOf v) := read_saved h v
  rw [hagain]
  refine ⟨rfl, hread, ?_, node?_saved_saved d v housed directory⟩
  rw [hread]
  exact read_saved (h.saved v) v

/-- **A saved document is loaded as it was saved.**  Take an object made of
objects, lists, texts, integers, truth values and null, and a saving of it that
succeeds, in whatever file system.  Afterwards every store with that path loads
the same fields in the same order and reports nothing, wherever the reader has room
for the lists and objects that lie in each other there; elsewhere it gives up.
Whatever such a store loads can be saved again, at the place where it was loaded and
where it was saved before; wherever that is done, the file then has the bytes that it
had before, and so has every other one. -/
theorem saved_document_reloads (d : Document) (fs : FileSystem) (s : Surroundings)
    (fields : Fields) (hexact : Json.Exact (.object fields))
    (hsave : (d.save fs s (.object fields)).2 = .ok ()) (s' : Surroundings)
    (hwork : s'.work = s.work) :
    let after := (d.save fs s (.object fields)).1
    (∀ d' : Document, d'.path = d.path → d'.load after s' =
        if Json.nesting (.object fields) ≤ s'.room.read then .ok (fields, [])
        else .error .tooDeep) ∧
      ∀ (d' : Document) (loaded : Fields) (logs : List Log.Record), d'.path = d.path →
        d'.load after s' = .ok (loaded, logs) →
        (Json.obstacle? true s.room.written (.object loaded) = none ∧
          Json.obstacle? true s'.room.written (.object loaded) = none) ∧
        ∀ s'' : Surroundings, s''.work = s.work →
          Json.obstacle? true s''.room.written (.object loaded) = none →
          let again := d'.save after s'' (.object loaded)
          again.2 = .ok () ∧
            after.read s.work d.path = .ok (bytesOf (.object fields)) ∧
            again.1.read s.work d.path = after.read s.work d.path ∧
            ∀ l, again.1.node? l = after.node? l := by
  intro after
  obtain ⟨hwritten, housed, directory, hhoused⟩ := housed_of_save hsave
  have hafter : after = saved d (.object fields) housed directory := by
    show (d.save fs s (.object fields)).1 = _
    rw [save_of_housed hhoused hwritten]
  -- A store is no more than its path.
  have hstore : ∀ d' : Document, d'.path = d.path → d' = d := by
    intro d' hpath
    cases d'
    cases d
    cases hpath
    rfl
  have hload : ∀ d' : Document, d'.path = d.path → d'.load after s' =
      if Json.nesting (.object fields) ≤ s'.room.read then .ok (fields, [])
      else .error .tooDeep := by
    intro d' hpath
    rw [hstore d' hpath, hafter]
    exact load_saved_exact (hhoused.of_work hwork) hexact hwritten
  refine ⟨hload, ?_⟩
  intro d' loaded logs hpath hloaded
  rw [hload d' hpath] at hloaded
  obtain ⟨hroom, rfl⟩ : Json.nesting (.object fields) ≤ s'.room.read ∧ fields = loaded := by
    split at hloaded
    · rename_i hroom
      exact ⟨hroom, (Prod.mk.inj (Except.ok.inj hloaded)).1⟩
    · cases hloaded
  refine ⟨⟨hwritten, (hexact.faithful hwritten hroom).written⟩, ?_⟩
  intro s'' hwork' hwritten'
  rw [hstore d' hpath, hafter]
  exact saved_again hhoused hwork' hwritten'

/-- A document with parts of every kind, in a directory that is made for it. -/
theorem saved_document_reloads_nested :
    let d : Document := ⟨⟨"/", ["state", "prefs.json"]⟩⟩
    let s : Surroundings := { work := [], home := [], config := [] }
    let fields : Fields :=
      [("größe", .list [.int (-40), .null, .bool true, .object []]),
        ("a\t\"b\"", .object [("😀", .text "\x00\\"), ("", .list [])])]
    Json.Exact (.object fields) ∧ (d.save [] s (.object fields)).2 = .ok () ∧
      Json.nesting (.object fields) = 3 ∧
      d.load (d.save [] s (.object fields)).1 s = .ok (fields, []) := by
  intro d s fields
  have hexact : Json.Exact (.object fields) := by
    refine .object (by decide) ?_
    simp only [fields, List.forall_mem_cons]
    refine ⟨.list ?_, .object (by decide) ?_, by simp⟩
    · simp only [List.forall_mem_cons]
      exact ⟨.int _, .null, .bool _, .object List.nodup_nil (by simp), by simp⟩
    · simp only [List.forall_mem_cons]
      exact ⟨.text _, .list (by simp), by simp⟩
  have hhoused : d.Housed [] s [(["state"], .directory 0o700)] ["state"] := by
    refine ⟨⟨rfl, rfl, ⟨0o700, rfl⟩⟩, by decide, by decide, by decide, by decide, ?_⟩
    rintro ⟨mode, hmode⟩
    cases hmode
  have hsave : (d.save [] s (.object fields)).2 = .ok () := by
    have hwritten : Json.obstacle? true s.room.written (.object fields) = none := by
      decide +kernel
    rw [save_of_housed hhoused hwritten]
  have hload := (saved_document_reloads d [] s fields hexact hsave s rfl).1 d rfl
  have hnesting : Json.nesting (.object fields) = 3 := by decide +kernel
  have hroom : Json.nesting (.object fields) ≤ s.room.read := by
    rw [hnesting]
    decide
  rw [if_pos hroom] at hload
  exact ⟨hexact, hsave, hnesting, hload⟩

/-! ## Too deep to be loaded -/

/-- Lists around an empty one. -/
def lists : Nat → Value
  | 0 => .list []
  | n + 1 => .list [lists n]

theorem exact_lists (n : Nat) : Json.Exact (lists n) := by
  induction n with
  | zero => exact .list (by simp)
  | succ n ih => exact .list (by simpa using ih)

theorem nesting_lists (n : Nat) : Json.nesting (lists n) = n + 1 := by
  induction n with
  | zero => rfl
  | succ n ih => simp [lists, Json.nesting, Json.itemsNesting, ih]

theorem obstacle?_lists {strict : Bool} {n room : Nat} (h : n ≤ room) :
    Json.obstacle? strict room (lists n) = none := by
  induction n generalizing room with
  | zero => rfl
  | succ n ih =>
      obtain ⟨room, rfl⟩ : ∃ room', room = room' + 1 := ⟨room - 1, by omega⟩
      exact Json.obstacle?_list.mpr (by simpa using ih (Nat.le_of_succ_le_succ h))

/-- A document that is one level deeper than what is read at the same place is
saved, and the store then gives up loading it. -/
theorem saved_document_too_deep :
    let d : Document := ⟨⟨"/", ["prefs.json"]⟩⟩
    let s : Surroundings := { work := [], home := [], config := [] }
    let fields : Fields := [("deep", lists 987)]
    Json.Exact (.object fields) ∧ Json.nesting (.object fields) = s.room.read + 1 ∧
      (d.save [] s (.object fields)).2 = .ok () ∧
      d.load (d.save [] s (.object fields)).1 s = .error .tooDeep := by
  intro d s fields
  have hexact : Json.Exact (.object fields) :=
    .object (List.nodup_singleton _) (by simp [fields, exact_lists])
  have hnesting : Json.nesting (.object fields) = s.room.read + 1 := by
    simp [fields, Json.nesting, Json.fieldsNesting, nesting_lists, s, Room.usual]
  have hwritten : Json.obstacle? true s.room.written (.object fields) = none :=
    Json.obstacle?_object.mpr (by simpa [fields] using obstacle?_lists (by decide))
  have hhoused : d.Housed [] s [] [] := by
    refine ⟨⟨rfl, rfl, isDirectory_root []⟩, by decide, by decide, by decide, by decide, ?_⟩
    rintro ⟨mode, hmode⟩
    cases hmode
  rw [save_of_housed hhoused hwritten]
  refine ⟨hexact, hnesting, rfl, ?_⟩
  exact (load_saved_exact hhoused hexact hwritten).trans (if_neg (by omega))

end QueryDesk.Storage.Document
