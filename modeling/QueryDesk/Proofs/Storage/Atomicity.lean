import QueryDesk.Proofs.Storage.Saving

/-!
# Saving is all or nothing

A saving that fails, wherever it is cut short, leaves everything as it was, but
for directories that it made on the way; its new file is gone.  A saving that is
through has put the whole document in its place and changed nothing else.  On
the way the place of the document holds what it held before or the whole new
document, and never a part of it.  So it does when the saving is interrupted, which is
no failure that anything is done about: only the new file can be left beside it then.

There is one exception, and it is a directory.  A path that goes up, such as
`x/../x`, can lead through a directory that is missing to this very directory.
Then the place of the document is itself on the way, and the directory made
there stays.

## Main results

* `Left.kept` — what a saving that fails leaves at the place of the document.
* `saving_all_or_nothing` — what a run of saving leaves and what it shows on the way.
-/

namespace QueryDesk.Storage.Document

open FileSystem

variable {d : Document} {fs housed m : FileSystem} {s : Surroundings} {directory : Location}
  {v : Value}

/-! ## What a failed saving leaves -/

/-- With the new file taken away, everything is as it was before it. -/
theorem node?_remove_write (housed : FileSystem) (directory : Location) (name : String)
    (bytes : List UInt8) (mode : Nat) (l : Location) :
    FileSystem.node? (OrderedMap.remove (housed.write (beside housed directory name) bytes mode)
      (beside housed directory name)) l = housed.node? l := by
  by_cases hl : l = beside housed directory name
  · rw [hl, node?_remove_self _ (beside_ne_nil _ _ _), node?_beside]
  · rw [node?_remove_ne _ hl, FileSystem.write, node?_put_ne _ hl]

/-- A saving that fails has made directories on a part of the way to the
directory of the document, or none. -/
theorem Left.way (h : d.Left fs s m) :
    (∀ l, m.node? l = fs.node? l) ∨
      ∃ l ps mode, start s.work d.path.parent = .ok l ∧ ps <+: d.path.parent.parts ∧
        ∀ l', m.node? l' = (fs.makeWay l mode false ps).1.node? l' := by
  have hmade : (∀ l, (fs.makeDirectories s.work d.path.parent ownerDirectory).1.node? l =
        fs.node? l) ∨
      ∃ l ps mode, start s.work d.path.parent = .ok l ∧ ps <+: d.path.parent.parts ∧
        ∀ l', (fs.makeDirectories s.work d.path.parent ownerDirectory).1.node? l' =
          (fs.makeWay l mode false ps).1.node? l' := by
    unfold makeDirectories
    cases hstart : start s.work d.path.parent with
    | error e => exact .inl fun _ => rfl
    | ok l => exact .inr ⟨l, _, _, rfl, List.prefix_refl _, fun _ => rfl⟩
  cases h with
  | untouched => exact .inl fun _ => rfl
  | partWay n =>
      unfold FileSystem.partWay
      cases hstart : start s.work d.path.parent with
      | error e => exact .inl fun _ => rfl
      | ok l =>
          have hpart : d.path.parent.parts.dropLast.take n <+: d.path.parent.parts :=
            (List.take_prefix n _).trans (List.dropLast_prefix _)
          exact .inr ⟨l, _, _, rfl, hpart, fun _ => rfl⟩
  | made => exact hmade
  | givenUp hopened bytes =>
      rw [hopened.made] at hmade
      simp only [node?_remove_write]
      exact hmade

/-- **A saving that fails leaves everything as it was**, but for directories that
it made where nothing was. -/
theorem Left.extends (h : d.Left fs s m) : Extends fs m := by
  rcases h.way with hsame | ⟨l, ps, mode, -, -, hsame⟩
  · exact fun l => .inl (hsame l)
  · intro l'
    unfold IsDirectory
    rw [hsame l']
    exact makeWay_extends fs l mode false ps l'

/-- A path through directories that are all there has nothing to be made. -/
theorem makeWay_of_place {target l : Location} {ps : List String}
    (htarget : fs.place s.work d.path = .ok target)
    (hstart : start s.work d.path.parent = .ok l) (hpart : ps <+: d.path.parent.parts)
    (mode : Nat) : fs.makeWay l mode false ps = (fs, .ok ()) := by
  obtain ⟨l', hstart', hwalk⟩ := place_eq_ok.mp htarget
  have hsame : l' = l := (start_eq hstart').trans (start_eq hstart).symm
  subst hsame
  have hshort : ps.length ≤ d.path.parts.length - 1 := by
    have hlength := hpart.length_le
    rwa [Path.parent, List.length_dropLast] at hlength
  obtain ⟨qs, hparts⟩ := hpart.trans (List.dropLast_prefix d.path.parts)
  cases qs with
  | nil =>
      -- Only a path without parts is no longer than the way to its directory.
      rw [List.append_nil] at hparts
      have hnil : ps = [] := by
        refine List.eq_nil_of_length_eq_zero ?_
        rw [← hparts] at hshort
        omega
      rw [hnil]
      rfl
  | cons q qs =>
      rw [← hparts] at hwalk
      obtain ⟨middle, hps, hrest⟩ := walk_append_ok hwalk
      exact makeWay_of_walk hps (walk_cons_ok hrest).1 mode false

/-- At the place of a document is what was there before, or a directory that was
made on the way to it: this happens to a path that goes up and led nowhere. -/
def Kept (d : Document) (fs : FileSystem) (s : Surroundings) (m : FileSystem) : Prop :=
  ∀ target, m.place s.work d.path = .ok target →
    m.node? target = fs.node? target ∨
      ".." ∈ d.path.parts ∧ fs.place s.work d.path ≠ .ok target ∧ fs.node? target = none ∧
        m.IsDirectory target

/-- **A saving that fails leaves what was at the place of the document.** -/
theorem Left.kept (h : d.Left fs s m) : d.Kept fs s m := by
  intro target htarget
  rcases h.way with hsame | ⟨l, ps, mode, hstart, hpart, hsame⟩
  · exact .inl (hsame target)
  by_cases hbefore : fs.place s.work d.path = .ok target
  · refine .inl ?_
    rw [hsame, makeWay_of_place hbefore hstart hpart]
  by_cases hup : ".." ∈ d.path.parts
  · rcases h.extends target with hsame | ⟨hnone, hdirectory⟩
    · exact .inl hsame
    · exact .inr ⟨hup, hbefore, hnone, hdirectory⟩
  · -- The path leads one part further than the way to its directory.
    refine .inl ?_
    obtain ⟨l', hstart', hwalk⟩ := place_eq_ok.mp htarget
    have hfrom : l' = l := (start_eq hstart').trans (start_eq hstart).symm
    subst hfrom
    have hlength := length_of_walk hup hwalk
    have hshort : ps.length ≤ d.path.parts.length - 1 := by
      have hlength := hpart.length_le
      rwa [Path.parent, List.length_dropLast] at hlength
    have hdown : ".." ∉ ps := fun hmem =>
      hup ((hpart.trans (List.dropLast_prefix d.path.parts)).subset hmem)
    rw [hsame]
    exact node?_makeWay hdown (by omega) fs mode false

/-! ## What can be seen on the way -/

/-- The new file is not at the place of the document. -/
theorem Opened.place_ne_beside (h : d.Opened fs s housed directory) {target : Location}
    (htarget : housed.place s.work d.path = .ok target) :
    target ≠ beside housed directory d.path.name := by
  have hlonger : (beside housed directory d.path.name).length = directory.length + 1 := by
    simp [beside]
  rcases h.next_of_place htarget with ⟨-, rfl⟩ | hnext
  · rintro hsame
    rw [← hsame] at hlonger
    omega
  · by_cases hname : d.path.name = ".."
    · rw [FileSystem.next, if_pos hname] at hnext
      rintro rfl
      have hup := congrArg List.length (Except.ok.inj hnext)
      rw [List.length_dropLast, hlonger] at hup
      omega
    · rw [next_of_ne hname hnext]
      exact (beside_ne housed directory d.path.name).symm

/-- While the new file is written, the document is left alone. -/
theorem Writing.kept (h : d.Writing fs s v m) : d.Kept fs s m := by
  obtain ⟨hopened, hpart⟩ := h
  rename_i housed directory bytes
  intro target htarget
  have hsame : ∀ l, l ≠ beside housed directory d.path.name →
      (housed.write (beside housed directory d.path.name) bytes ownerOnly).node? l =
        housed.node? l := fun l hl => node?_put_ne _ hl _
  -- The new file is no directory, so every way was one without it.
  have hplace : housed.place s.work d.path = .ok target := by
    refine place_mono ?_ htarget
    rintro l ⟨mode, hmode⟩
    refine ⟨mode, ?_⟩
    rwa [hsame l] at hmode
    rintro rfl
    rw [FileSystem.write, node?_put_self _ (beside_ne_nil _ _ _)] at hmode
    cases hmode
  unfold IsDirectory
  rw [hsame target (hopened.place_ne_beside hplace)]
  exact hopened.left.kept target hplace

/-- While the new file is written, nothing else has changed but for directories that were
made where nothing was. -/
theorem Writing.others (h : d.Writing fs s v m) :
    ∃ place bytes, bytes <+: bytesOf v ∧ m.node? place = some (.file bytes ownerOnly) ∧
      ∀ l, l ≠ place → m.node? l = fs.node? l ∨ fs.node? l = none ∧ m.IsDirectory l := by
  obtain ⟨hopened, hpart⟩ := h
  rename_i housed directory bytes
  refine ⟨beside housed directory d.path.name, bytes, hpart,
    node?_put_self _ (beside_ne_nil _ _ _) _, fun l hl => ?_⟩
  unfold IsDirectory
  rw [FileSystem.write, node?_put_ne _ hl]
  exact hopened.left.extends l

/-- **At every stage the document is the old one or the new one**, whole. -/
theorem Stage.kept_or_saved (h : d.Stage fs s v m) :
    d.Kept fs s m ∨ ∀ target, m.place s.work d.path = .ok target →
      m.node? target = some (.file (bytesOf v) ownerOnly) := by
  cases h with
  | left h => exact .inl h.kept
  | writing h => exact .inl h.kept
  | saved h =>
      refine .inr fun target htarget => ?_
      obtain rfl := Except.ok.inj ((h.place_saved v).symm.trans htarget)
      exact node?_saved_self d v _ _

theorem giveUp_final_mem {seen : List FileSystem} {last : FileSystem} (hlast : last ∈ seen)
    (place : Location) (e : SaveError) :
    (giveUp seen last place e).final ∈ (giveUp seen last place e).seen := by
  unfold giveUp
  split
  · exact hlast
  · simp

theorem fill_final_mem (room : Nat) (fs : FileSystem) (v : Value) (directory : Location)
    (name : String) (cut : Option Cut) :
    (fill room fs v directory name cut).final ∈ (fill room fs v directory name cut).seen := by
  unfold fill
  simp only
  repeat' split
  all_goals first | exact giveUp_final_mem (by simp) _ _ | simp

/-- A run is seen from the file system it starts with to the one it ends with. -/
theorem ends_mem_seen (d : Document) (fs : FileSystem) (s : Surroundings) (v : Value)
    (cut : Option Cut) :
    fs ∈ (d.saveRun fs s v cut).seen ∧
      (d.saveRun fs s v cut).final ∈ (d.saveRun fs s v cut).seen := by
  unfold saveRun
  simp only
  split
  · simp
  split
  · rename_i n stop
    refine ⟨by simp, ?_⟩
    exact List.mem_cons_of_mem _ (List.mem_map_of_mem (List.mem_range.mpr (Nat.lt_succ_self n)))
  split
  · simp
  split
  · simp
  split
  · simp
  · exact ⟨by simp, List.mem_append_right _ (fill_final_mem _ _ v _ _ _)⟩

/-- **Saving is all or nothing.**  Take any document, any value and any file
system, and a saving of it that is cut short at any step or not at all.

If it fails, nothing has changed but for directories that were made where nothing
was, so no new file is left; the document is where it was, and at its place is
what was there before, with the exception that `Kept` states.  If it is through,
the place of the document holds all bytes of the value, for its owner alone, and
nothing else has changed but for such directories.  Whatever is seen on the way,
from the start to the end, at the place of the document is what was there before,
with the same exception, or the file with all bytes of the value.

An interruption is no failure here.  It can also leave the new file, with a part of
the bytes, and nothing else then. -/
theorem saving_all_or_nothing (d : Document) (fs : FileSystem) (s : Surroundings) (v : Value)
    (cut : Option Cut) :
    let run := d.saveRun fs s v cut
    (∀ e, run.outcome = .error e → e ≠ .interrupted →
        Extends fs run.final ∧
          (∀ target, fs.place s.work d.path = .ok target →
            run.final.place s.work d.path = .ok target ∧
              run.final.node? target = fs.node? target) ∧
          d.Kept fs s run.final) ∧
      (run.outcome = .ok () →
        ∃ target, run.final.place s.work d.path = .ok target ∧
          run.final.node? target = some (.file (bytesOf v) ownerOnly) ∧
          ∀ l, l ≠ target →
            run.final.node? l = fs.node? l ∨ fs.node? l = none ∧ run.final.IsDirectory l) ∧
      (run.outcome = .error .interrupted →
        d.Kept fs s run.final ∧
          (Extends fs run.final ∨
            ∃ place bytes, bytes <+: bytesOf v ∧
              run.final.node? place = some (.file bytes ownerOnly) ∧
              ∀ l, l ≠ place →
                run.final.node? l = fs.node? l ∨
                  fs.node? l = none ∧ run.final.IsDirectory l)) ∧
      (fs ∈ run.seen ∧ run.final ∈ run.seen) ∧
      ∀ m ∈ run.seen, d.Kept fs s m ∨
        ∀ target, m.place s.work d.path = .ok target →
          m.node? target = some (.file (bytesOf v) ownerOnly) := by
  intro run
  have hstaged : d.Staged fs s v run := staged_saveRun d fs s v cut
  refine ⟨?_, ?_, ?_, ends_mem_seen d fs s v cut, fun m hm => (hstaged.seen m hm).kept_or_saved⟩
  · intro e he hfailed
    rcases hstaged.failed e he with hleft | ⟨hinterrupted, -⟩
    · refine ⟨hleft.extends, ?_, hleft.kept⟩
      intro target htarget
      have hplace := place_mono (fun _ hl => hleft.extends.isDirectory hl) htarget
      refine ⟨hplace, ?_⟩
      rcases hleft.kept target hplace with hsame | ⟨-, hbefore, -⟩
      · exact hsame
      · exact absurd htarget hbefore
    · exact absurd hinterrupted hfailed
  · intro hthrough
    obtain ⟨-, housed, directory, hhoused, hfinal⟩ := hstaged.through hthrough
    rw [hfinal]
    refine ⟨directory ++ [d.path.name], hhoused.place_saved v, node?_saved_self d v _ _, ?_⟩
    intro l hl
    unfold IsDirectory
    rw [node?_saved_ne d v housed hl]
    exact hhoused.extends l
  · intro hinterrupted
    rcases hstaged.failed _ hinterrupted with hleft | ⟨-, hwriting⟩
    · exact ⟨hleft.kept, .inl hleft.extends⟩
    · exact ⟨hwriting.kept, .inr hwriting.others⟩

/-- The exception: the directory `x` is made on the way, and is where the path
leads in the end, so that it cannot be replaced and is left there. -/
theorem failed_saving_leaves_directory :
    let d : Document := ⟨⟨"", ["x", "..", "x"]⟩⟩
    let s : Surroundings := { work := [], home := [], config := [] }
    let v : Value := .object [("c", .list [.text "SELECT 1"])]
    let run := d.saveRun [] s v none
    run.outcome = .error (.system .isADirectory) ∧
      FileSystem.place [] s.work d.path = .error .notFound ∧
      ∃ target, run.final.place s.work d.path = .ok target ∧
        FileSystem.node? [] target = none ∧
        run.final.node? target ≠ FileSystem.node? [] target ∧ run.final.IsDirectory target := by
  refine ⟨by decide +kernel, by decide, ["x"], by decide +kernel, by decide, by decide +kernel, ?_⟩
  exact ⟨0o755, by decide +kernel⟩

end QueryDesk.Storage.Document
