import QueryDesk.Proofs.OrderedMap
import QueryDesk.Proofs.Storage.Directories
import QueryDesk.Storage.Document

/-!
# Documents saved

Saving makes the directory of a document, writes a new file in it under a name
that no entry has, and gives this file the name of the document.  `Housed` is
what has to be there for that: what is housed and can be written is saved, and
what is saved was housed.

A saving can fail or be cut short at each of its steps.  `Stage` lists the file
systems that it passes through on the way, and `Left` those that it can leave
behind; that a run keeps to these lists is proved once, and what holds of all
runs is read off them.

## Main results

* `node?_beside` — the new file takes nobody's place.
* `save_of_housed`, `housed_of_save` — what a saving needs that succeeds.
* `staged_saveRun` — what a run of saving goes through, and how it ends.
-/

namespace QueryDesk.Storage

open FileSystem

namespace Document

/-! ## The new file -/

theorem le_foldl_max {n : Nat} {ns : List Nat} (h : n ∈ ns) (m : Nat) : n ≤ ns.foldl max m := by
  have hstart : ∀ (ns : List Nat) (m : Nat), m ≤ ns.foldl max m := by
    intro ns
    induction ns with
    | nil => exact fun m => Nat.le_refl m
    | cons k ks ih => exact fun m => Nat.le_trans (Nat.le_max_left m k) (ih _)
  induction ns generalizing m with
  | nil => cases h
  | cons k ks ih =>
      rcases List.mem_cons.mp h with rfl | h
      · exact Nat.le_trans (Nat.le_max_right m n) (hstart ks _)
      · exact ih h _

/-- The place of the new file in the directory of a document. -/
def beside (fs : FileSystem) (directory : Location) (name : String) : Location :=
  directory ++ [freshName fs directory name]

theorem beside_ne_nil (fs : FileSystem) (directory : Location) (name : String) :
    beside fs directory name ≠ [] := by simp [beside]

/-- **Nothing is where the new file is made.** -/
theorem node?_beside (fs : FileSystem) (directory : Location) (name : String) :
    fs.node? (beside fs directory name) = none := by
  unfold beside
  have hroot : directory ++ [freshName fs directory name] ≠ [] := by simp
  unfold node?
  rw [if_neg hroot]
  -- An entry there would be below the directory, and all names there are shorter.
  by_contra hsome
  have hmem : directory ++ [freshName fs directory name] ∈ fs.names := by
    by_contra hnot
    exact hsome (OrderedMap.get?_eq_none hnot)
  have hbelow : [freshName fs directory name] ∈ fs.below directory := by
    unfold FileSystem.below
    rw [List.mem_mergeSort, List.mem_map]
    refine ⟨directory ++ [freshName fs directory name], List.mem_filter.mpr ⟨hmem, ?_⟩, ?_⟩
    · simp
    · simp
  have hlongest := le_foldl_max
    (List.mem_map_of_mem (f := fun l : Location => (l.headD "").length) hbelow) 0
  simp only [List.headD_cons] at hlongest
  have hlength : (freshName fs directory name).length = 1 + name.length + 1 +
      (((fs.below directory).map fun l => (l.headD "").length).foldl max 0 + 1) + 4 := by
    simp only [freshName, String.length_append, String.length_ofList, List.length_replicate]
    rfl
  omega

theorem freshName_ne (fs : FileSystem) (directory : Location) (name : String) :
    freshName fs directory name ≠ name := by
  intro h
  have hlength := congrArg String.length h
  simp only [freshName, String.length_append, String.length_ofList, List.length_replicate]
    at hlength
  omega

/-! ## What a saving needs -/

/-- The directory of a document is there, after what was missing of it is made. -/
structure Opened (d : Document) (fs : FileSystem) (s : Surroundings) (housed : FileSystem)
    (directory : Location) : Prop where
  made : fs.makeDirectories s.work d.path.parent ownerDirectory = (housed, .ok ())
  place : housed.place s.work d.path.parent = .ok directory
  room : housed.IsDirectory directory

/-- What has to be there for a document: its directory, and in it under its name
nothing or a file. -/
structure Housed (d : Document) (fs : FileSystem) (s : Surroundings) (housed : FileSystem)
    (directory : Location) : Prop extends Opened d fs s housed directory where
  nul : d.path.hasNul = false
  name : d.path.name ≠ "" ∧ d.path.name ≠ ".."
  nameShort : d.path.name.utf8ByteSize + besideLength ≤ nameLimit
  pathShort : d.path.text.utf8ByteSize + besideLength ≤ pathLimit
  target : ¬ housed.IsDirectory (directory ++ [d.path.name])

/-! ## Where a document is -/

section Place

variable {d : Document} {fs housed : FileSystem} {s : Surroundings} {directory : Location}

/-- Making its directory takes nothing away. -/
theorem Opened.extends (h : d.Opened fs s housed directory) : Extends fs housed := by
  obtain ⟨l, hstart, -⟩ := place_eq_ok.mp h.place
  have hmade := h.made
  simp only [FileSystem.makeDirectories, hstart] at hmade
  have hextends := makeWay_extends fs l ownerDirectory false d.path.parent.parts
  rwa [hmade] at hextends

/-- The path of a document leads from its directory by its name. -/
theorem Opened.next_of_place (h : d.Opened fs s housed directory) {target : Location}
    (htarget : housed.place s.work d.path = .ok target) :
    d.path.parts = [] ∧ target = directory ∨
      FileSystem.next directory d.path.name = .ok target := by
  obtain ⟨l, hstart, hwalk⟩ := place_eq_ok.mp h.place
  obtain ⟨l', hstart', hwalk'⟩ := place_eq_ok.mp htarget
  have hsame : l' = l := (start_eq hstart').trans (start_eq hstart).symm
  subst hsame
  by_cases hnil : d.path.parts = []
  · have hparent : d.path.parent.parts = [] := by rw [Path.parent, hnil]; rfl
    rw [hparent] at hwalk
    rw [hnil] at hwalk'
    exact .inl ⟨hnil, Except.ok.inj (hwalk'.symm.trans hwalk)⟩
  · rw [Path.parts_eq_concat hnil] at hwalk'
    obtain ⟨directory', hdirectory', hlast⟩ := walk_append_ok hwalk'
    obtain rfl : directory' = directory := Except.ok.inj (hdirectory'.symm.trans hwalk)
    obtain ⟨-, place, hnext, hplace⟩ := walk_cons_ok hlast
    obtain rfl : place = target := Except.ok.inj hplace
    exact .inr hnext

/-- The place of a housed document. -/
theorem Housed.place_path (h : d.Housed fs s housed directory) :
    housed.place s.work d.path = .ok (directory ++ [d.path.name]) := by
  obtain ⟨l, hstart, hwalk⟩ := place_eq_ok.mp h.place
  have hne : d.path.parts ≠ [] := by
    intro hnil
    exact h.name.1 (by simp [Path.name, hnil])
  have hnext : FileSystem.next directory d.path.name = .ok (directory ++ [d.path.name]) := by
    have hlimit : ¬ nameLimit < d.path.name.utf8ByteSize := by
      have := h.nameShort
      omega
    rw [FileSystem.next, if_neg h.name.2, if_neg hlimit]
  have hstart' : FileSystem.start s.work d.path = .ok l := by
    have hlimit : ¬ pathLimit < d.path.text.utf8ByteSize := by
      have := h.pathShort
      omega
    rw [start_eq hstart, FileSystem.start, if_neg hlimit]
    rfl
  refine place_eq_ok.mpr ⟨l, hstart', ?_⟩
  rw [Path.parts_eq_concat hne]
  exact walk_concat hwalk h.room hnext

end Place

/-! ## What a saving makes -/

/-- The bytes of a value as a document. -/
def bytesOf (v : Value) : List UInt8 := Text.Utf8.encode (Json.text v).toList

/-- The file system after a document is saved. -/
def saved (d : Document) (v : Value) (housed : FileSystem) (directory : Location) : FileSystem :=
  let source := beside housed directory d.path.name
  (OrderedMap.remove (housed.write source (bytesOf v) ownerOnly) source).put
    (directory ++ [d.path.name]) (.file (bytesOf v) ownerOnly)

section Saved

variable {d : Document} {fs housed : FileSystem} {s : Surroundings} {directory : Location}
  {v : Value}

theorem beside_ne (housed : FileSystem) (directory : Location) (name : String) :
    beside housed directory name ≠ directory ++ [name] := by
  intro h
  exact freshName_ne housed directory name (List.cons.inj (List.append_cancel_left h)).1

/-- The document is in its place. -/
theorem node?_saved_self (d : Document) (v : Value) (housed : FileSystem)
    (directory : Location) :
    (saved d v housed directory).node? (directory ++ [d.path.name]) =
      some (.file (bytesOf v) ownerOnly) :=
  node?_put_self _ (by simp) _

/-- Everything else is as it was; the new file is gone. -/
theorem node?_saved_ne (d : Document) (v : Value) (housed : FileSystem) {directory l : Location}
    (hl : l ≠ directory ++ [d.path.name]) :
    (saved d v housed directory).node? l = housed.node? l := by
  unfold saved
  simp only
  rw [node?_put_ne _ hl]
  by_cases hbeside : l = beside housed directory d.path.name
  · rw [hbeside, node?_remove_self _ (beside_ne_nil _ _ _), node?_beside]
  · rw [node?_remove_ne _ hbeside, FileSystem.write, node?_put_ne _ hbeside]

/-- No directory goes away. -/
theorem isDirectory_saved (h : d.Housed fs s housed directory) (v : Value) {l : Location}
    (hl : housed.IsDirectory l) : (saved d v housed directory).IsDirectory l := by
  obtain ⟨mode, hmode⟩ := hl
  have hne : l ≠ directory ++ [d.path.name] := by
    rintro rfl
    exact h.target ⟨mode, hmode⟩
  exact ⟨mode, by rw [node?_saved_ne d v housed hne, hmode]⟩

/-- The document that was saved is where its path leads. -/
theorem Housed.place_saved (h : d.Housed fs s housed directory) (v : Value) :
    (Document.saved d v housed directory).place s.work d.path =
      .ok (directory ++ [d.path.name]) :=
  place_mono (fun _ hl => isDirectory_saved h v hl) h.place_path

/-- The new file takes the name of the document. -/
theorem replace_eq (h : d.Housed fs s housed directory) (v : Value) :
    (housed.write (beside housed directory d.path.name) (bytesOf v) ownerOnly).replace
        (beside housed directory d.path.name) directory d.path.name =
      .ok (saved d v housed directory) := by
  have hsource : FileSystem.node?
      (housed.write (beside housed directory d.path.name) (bytesOf v) ownerOnly)
      (beside housed directory d.path.name) = some (.file (bytesOf v) ownerOnly) :=
    node?_put_self _ (beside_ne_nil _ _ _) _
  have htarget : FileSystem.node?
      (housed.write (beside housed directory d.path.name) (bytesOf v) ownerOnly)
      (directory ++ [d.path.name]) = housed.node? (directory ++ [d.path.name]) :=
    node?_put_ne _ (beside_ne housed directory d.path.name).symm _
  obtain ⟨hempty, hup⟩ := h.name
  unfold FileSystem.replace
  simp only [hempty, hup, decide_false, Bool.or_self, Bool.false_eq_true, if_false, hsource,
    htarget]
  cases hnode : housed.node? (directory ++ [d.path.name]) with
  | none => rfl
  | some n =>
      cases n with
      | file bytes mode => rfl
      | loop => rfl
      | directory mode => exact absurd ⟨mode, hnode⟩ h.target

/-- **What is housed is saved**, if nothing keeps it from being written. -/
theorem save_of_housed (h : d.Housed fs s housed directory)
    (hv : Json.obstacle? true s.room.written v = none) :
    d.save fs s v = (saved d v housed directory, .ok ()) := by
  have hshort : (nameLimit < d.path.name.utf8ByteSize + besideLength
      || pathLimit < d.path.text.utf8ByteSize + besideLength) = false := by
    have hname := h.nameShort
    have hpath := h.pathShort
    simp only [Bool.or_eq_false_iff, decide_eq_false_iff_not]
    omega
  have hfill : ((fill s.room.written housed v directory d.path.name none).final,
      (fill s.room.written housed v directory d.path.name none).outcome) =
        (saved d v housed directory, .ok ()) := by
    have hreplace := replace_eq h v
    unfold bytesOf beside at hreplace
    simp only [fill, hv, hreplace]
  rw [← hfill]
  simp only [save, saveRun, h.nul, Bool.false_eq_true, if_false, h.made]
  simp only [bind, Except.bind, directory_eq h.place h.room, hshort, Bool.false_eq_true, if_false]

/-- What a name is given to is no directory. -/
theorem replace_ok {source : Location} {name : String} {final : FileSystem}
    (h : fs.replace source directory name = .ok final) :
    (name ≠ "" ∧ name ≠ "..") ∧ ¬ fs.IsDirectory (directory ++ [name]) := by
  unfold FileSystem.replace at h
  by_cases hname : (name = "" || name = "..") = true
  · rw [if_pos hname] at h
    cases h
  · rw [if_neg hname] at h
    have hboth : name ≠ "" ∧ name ≠ ".." := by simpa using hname
    refine ⟨hboth, ?_⟩
    rintro ⟨mode, hmode⟩
    simp only at h
    rw [hmode] at h
    cases hsource : fs.node? source with
    | none =>
        rw [hsource] at h
        cases h
    | some n =>
        rw [hsource] at h
        cases h

/-- A document whose new file takes its name is housed, and saved then. -/
theorem Opened.housed_of_replace (h : d.Opened fs s housed directory)
    (hnul : d.path.hasNul = false)
    (hname : d.path.name.utf8ByteSize + besideLength ≤ nameLimit)
    (hpath : d.path.text.utf8ByteSize + besideLength ≤ pathLimit) {final : FileSystem}
    (hreplace : (housed.write (beside housed directory d.path.name) (bytesOf v) ownerOnly).replace
      (beside housed directory d.path.name) directory d.path.name = .ok final) :
    d.Housed fs s housed directory ∧ final = saved d v housed directory := by
  obtain ⟨hreal, htarget⟩ := replace_ok hreplace
  have hhoused : d.Housed fs s housed directory := by
    refine ⟨h, hnul, hreal, hname, hpath, ?_⟩
    rintro ⟨mode, hmode⟩
    refine htarget ⟨mode, ?_⟩
    rw [FileSystem.write, node?_put_ne _ (beside_ne housed directory d.path.name).symm, hmode]
  exact ⟨hhoused, Except.ok.inj (hreplace.symm.trans (replace_eq hhoused v))⟩

/-! ## What a saving goes through -/

/-- The file systems that a saving can leave when it fails. -/
inductive Left (d : Document) (fs : FileSystem) (s : Surroundings) : FileSystem → Prop where
  | untouched : Left d fs s fs
  | partWay (n : Nat) : Left d fs s (fs.partWay s.work d.path.parent n)
  | made : Left d fs s (fs.makeDirectories s.work d.path.parent ownerDirectory).1
  | givenUp {housed : FileSystem} {directory : Location} (h : d.Opened fs s housed directory)
      (bytes : List UInt8) :
      Left d fs s (OrderedMap.remove
        (housed.write (beside housed directory d.path.name) bytes ownerOnly)
        (beside housed directory d.path.name))

/-- The file systems in which a part of a value, or all of it, stands beside its document. -/
inductive Writing (d : Document) (fs : FileSystem) (s : Surroundings) (v : Value) :
    FileSystem → Prop where
  | intro {housed : FileSystem} {directory : Location} (h : d.Opened fs s housed directory)
      {bytes : List UInt8} (hpart : bytes <+: bytesOf v) :
      Writing d fs s v (housed.write (beside housed directory d.path.name) bytes ownerOnly)

/-- The file systems that can be seen while a value is saved. -/
inductive Stage (d : Document) (fs : FileSystem) (s : Surroundings) (v : Value) :
    FileSystem → Prop where
  | left {m : FileSystem} (h : d.Left fs s m) : Stage d fs s v m
  | writing {m : FileSystem} (h : d.Writing fs s v m) : Stage d fs s v m
  | saved {housed : FileSystem} {directory : Location} (h : d.Housed fs s housed directory) :
      Stage d fs s v (saved d v housed directory)

/-- A run of saving goes through its stages, and ends where it should. -/
structure Staged (d : Document) (fs : FileSystem) (s : Surroundings) (v : Value)
    (run : SaveRun) : Prop where
  seen : ∀ m ∈ run.seen, d.Stage fs s v m
  failed : ∀ e, run.outcome = .error e →
    d.Left fs s run.final ∨ e = .interrupted ∧ d.Writing fs s v run.final
  through : run.outcome = .ok () → Json.obstacle? true s.room.written v = none ∧
    ∃ housed directory, d.Housed fs s housed directory ∧ run.final = saved d v housed directory

theorem Staged.of_error {seen : List FileSystem} {final : FileSystem} {e : SaveError}
    (hseen : ∀ m ∈ seen, d.Left fs s m) (hfinal : d.Left fs s final) :
    d.Staged fs s v ⟨seen, final, .error e⟩ := by
  refine ⟨fun m hm => .left (hseen m hm), fun _ _ => .inl hfinal, ?_⟩
  intro hthrough
  cases hthrough

theorem Opened.left (h : d.Opened fs s housed directory) : d.Left fs s housed := by
  have hmade : d.Left fs s (fs.makeDirectories s.work d.path.parent ownerDirectory).1 := .made
  rwa [h.made] at hmade

/-- On the way to the directory of a document nothing else is made. -/
theorem left_onWay {n : Nat} {m : FileSystem}
    (hm : m ∈ fs :: (List.range n).map (fs.partWay s.work d.path.parent)) : d.Left fs s m := by
  rcases List.mem_cons.mp hm with rfl | hm
  · exact .untouched
  · obtain ⟨k, -, rfl⟩ := List.mem_map.mp hm
    exact .partWay k

/-- A run that gives up takes its new file away, unless it is interrupted. -/
theorem Staged.giveUp (h : d.Opened fs s housed directory) {part : List UInt8}
    (hpart : part <+: bytesOf v) (e : SaveError) :
    let place := beside housed directory d.path.name
    d.Staged fs s v (giveUp
      [housed, housed.write place [] ownerOnly, housed.write place part ownerOnly]
      (housed.write place part ownerOnly) place e) := by
  intro place
  have hwriting : d.Writing fs s v (housed.write place part ownerOnly) := .intro h hpart
  have hseen : ∀ m ∈ [housed, housed.write place [] ownerOnly,
      housed.write place part ownerOnly], d.Stage fs s v m := by
    simp only [List.forall_mem_cons]
    exact ⟨.left h.left, .writing (.intro h List.nil_prefix), .writing hwriting, by simp⟩
  unfold Document.giveUp
  split
  · rename_i he
    refine ⟨hseen, fun e' he' => .inr ⟨?_, hwriting⟩, fun hthrough => by cases hthrough⟩
    rw [← Except.error.inj he', he]
  · have hleft : d.Left fs s (OrderedMap.remove (housed.write place part ownerOnly) place) :=
      .givenUp h part
    refine ⟨?_, fun _ _ => .inl hleft, fun hthrough => by cases hthrough⟩
    simp only [List.forall_mem_append]
    exact ⟨hseen, by simpa using Stage.left hleft⟩

/-- Filling the new file goes through the stages, however it is cut short. -/
theorem staged_fill (h : d.Opened fs s housed directory) (hnul : d.path.hasNul = false)
    (hname : d.path.name.utf8ByteSize + besideLength ≤ nameLimit)
    (hpath : d.path.text.utf8ByteSize + besideLength ≤ pathLimit) (v : Value)
    (cut : Option Cut) :
    d.Staged fs s v (fill s.room.written housed v directory d.path.name cut) := by
  have hpart : ∀ n, (bytesOf v).take n <+: bytesOf v := fun n => List.take_prefix n _
  have hfull : ∀ e, d.Staged fs s v _ := Staged.giveUp h (List.prefix_refl (bytesOf v))
  unfold bytesOf beside at hfull
  unfold fill
  simp only
  split
  · exact Staged.giveUp h (hpart _) _
  · exact Staged.giveUp h (hpart _) _
  · exact Staged.giveUp h (hpart _) _
  · exact hfull _
  · exact hfull _
  · rename_i hv
    cases hreplace : (housed.write (beside housed directory d.path.name) (bytesOf v)
        ownerOnly).replace (beside housed directory d.path.name) directory d.path.name with
    | error e =>
        unfold bytesOf beside at hreplace
        simp only [hreplace]
        exact hfull _
    | ok final =>
        obtain ⟨hhoused, hfinal⟩ := h.housed_of_replace hnul hname hpath hreplace
        unfold bytesOf beside at hreplace
        simp only [hreplace, hfinal]
        refine ⟨?_, ?_, fun _ => ⟨hv, housed, directory, hhoused, rfl⟩⟩
        · simp only [List.forall_mem_cons]
          exact ⟨.left h.left, .writing (.intro h List.nil_prefix),
            .writing (.intro h (List.prefix_refl (bytesOf v))), .saved hhoused, by simp⟩
        · intro e herror
          cases herror

/-- **Saving goes through its stages**, however it is cut short. -/
theorem staged_saveRun (d : Document) (fs : FileSystem) (s : Surroundings) (v : Value)
    (cut : Option Cut) : d.Staged fs s v (d.saveRun fs s v cut) := by
  unfold saveRun
  simp only
  split
  · refine Staged.of_error ?_ .untouched
    intro m hm
    rw [List.mem_singleton.mp hm]
    exact .untouched
  rename_i hnul
  split
  · rename_i n stop
    exact Staged.of_error (fun m hm => left_onWay hm) (.partWay n)
  rcases hmade : fs.makeDirectories s.work d.path.parent ownerDirectory with ⟨housed, way⟩
  have hhoused : d.Left fs s housed := by
    have hleft : d.Left fs s (fs.makeDirectories s.work d.path.parent ownerDirectory).1 := .made
    rwa [hmade] at hleft
  have hfailed : ∀ e, d.Staged fs s v
      ⟨(fs :: (List.range d.path.parent.parts.length).map (fs.partWay s.work d.path.parent)) ++
        [housed], housed, .error e⟩ := by
    intro e
    refine Staged.of_error ?_ hhoused
    intro m hm
    rcases List.mem_append.mp hm with hm | hm
    · exact left_onWay hm
    · rw [List.mem_singleton.mp hm]
      exact hhoused
  cases way with
  | error e => exact hfailed _
  | ok =>
      cases hroom : housed.directory s.work d.path.parent with
      | error e =>
          simp only [bind, Except.bind]
          exact hfailed _
      | ok directory =>
          obtain ⟨hplace, hdirectory⟩ := directory_ok hroom
          simp only [bind, Except.bind]
          split
          · exact hfailed _
          split
          · exact hfailed _
          rename_i hshort
          simp only [Bool.or_eq_true, decide_eq_true_eq, not_or, Nat.not_lt] at hshort
          have hopened : d.Opened fs s housed directory := ⟨hmade, hplace, hdirectory⟩
          have hfill := staged_fill hopened (by simpa using hnul) hshort.1 hshort.2 v
          refine ⟨?_, (hfill _).failed, (hfill _).through⟩
          intro m hm
          rcases List.mem_append.mp hm with hm | hm
          · exact .left (left_onWay hm)
          · exact (hfill _).seen m hm

/-- A saving that is through has found all that it needs, and nothing kept the
value from being written. -/
theorem housed_of_save (h : (d.save fs s v).2 = .ok ()) :
    Json.obstacle? true s.room.written v = none ∧
      ∃ housed directory, d.Housed fs s housed directory := by
  obtain ⟨hv, housed, directory, hhoused, -⟩ := (staged_saveRun d fs s v none).through h
  exact ⟨hv, housed, directory, hhoused⟩

end Saved

end Document

end QueryDesk.Storage
