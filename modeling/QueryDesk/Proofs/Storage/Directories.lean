import QueryDesk.Storage.FileSystem

/-!
# Ways through directories

A path leads somewhere only through directories that are there, so a file stays
where it is found as long as no directory goes away.  Making the directories of
a path adds what is missing and changes nothing that is there; afterwards the
path leads to a directory, and making them once more does nothing.

## Main results

* `makeWay_extends` — making a way adds directories and changes nothing else.
* `walk_mono` — a way stays a way while its directories stay.
* `makeWay_of_walk` — nothing is made on a way that is there.
* `node?_makeWay` — a way that never goes up leaves alone what lies beyond its end.
-/

namespace QueryDesk.Storage

/-- A path with parts leads from the directory that holds what it names. -/
theorem Path.parts_eq_concat {p : Path} (h : p.parts ≠ []) :
    p.parts = p.parent.parts ++ [p.name] := by
  rw [Path.parent, Path.name, List.getLast?_eq_some_getLast h, Option.getD_some,
    List.dropLast_concat_getLast h]

namespace FileSystem

/-! ## Nodes -/

/-- There is a directory at a place. -/
def IsDirectory (fs : FileSystem) (l : Location) : Prop :=
  ∃ mode, fs.node? l = some (.directory mode)

theorem isDirectory_root (fs : FileSystem) : fs.IsDirectory [] := ⟨0o755, rfl⟩

theorem node?_put_self (fs : FileSystem) {l : Location} (hl : l ≠ []) (n : Node) :
    FileSystem.node? (fs.put l n) l = some n := by
  simp only [node?, if_neg hl, OrderedMap.get?_put_self]

theorem node?_put_ne (fs : FileSystem) {l l' : Location} (h : l' ≠ l) (n : Node) :
    FileSystem.node? (fs.put l n) l' = fs.node? l' := by
  unfold node?
  rw [OrderedMap.get?_put_ne fs n h]

theorem node?_remove_self (fs : FileSystem) {l : Location} (hl : l ≠ []) :
    FileSystem.node? (OrderedMap.remove fs l) l = none := by
  simp only [node?, if_neg hl, OrderedMap.get?_remove_self]

theorem node?_remove_ne (fs : FileSystem) {l l' : Location} (h : l' ≠ l) :
    FileSystem.node? (OrderedMap.remove fs l) l' = fs.node? l' := by
  unfold node?
  rw [OrderedMap.get?_remove_ne fs h]

/-! ## Walking -/

theorem walk_cons_of_isDirectory {fs : FileSystem} {l l' : Location} {p : String}
    {ps : List String} (hl : fs.IsDirectory l) (hnext : next l p = .ok l') :
    fs.walk l (p :: ps) = fs.walk l' ps := by
  obtain ⟨mode, hmode⟩ := hl
  simp only [walk, hmode, hnext]
  rfl

/-- The first step of a way. -/
theorem walk_cons_ok {fs : FileSystem} {l place : Location} {p : String} {ps : List String}
    (h : fs.walk l (p :: ps) = .ok place) :
    fs.IsDirectory l ∧ ∃ l', next l p = .ok l' ∧ fs.walk l' ps = .ok place := by
  simp only [walk] at h
  cases hnode : fs.node? l with
  | none =>
      rw [hnode] at h
      cases h
  | some n =>
      rw [hnode] at h
      cases n with
      | file bytes mode => cases h
      | loop => cases h
      | directory mode =>
          cases hnext : next l p with
          | error e =>
              rw [hnext] at h
              cases h
          | ok l' =>
              rw [hnext] at h
              exact ⟨⟨mode, hnode⟩, l', rfl, h⟩

/-- **A way stays a way** while its directories stay. -/
theorem walk_mono {fs fs' : FileSystem} (hstay : ∀ l, fs.IsDirectory l → fs'.IsDirectory l)
    {l place : Location} {ps : List String} (h : fs.walk l ps = .ok place) :
    fs'.walk l ps = .ok place := by
  induction ps generalizing l with
  | nil => exact h
  | cons p ps ih =>
      obtain ⟨hl, l', hnext, hrest⟩ := walk_cons_ok h
      rw [walk_cons_of_isDirectory (hstay l hl) hnext]
      exact ih hrest

/-- One part further from the end of a way. -/
theorem walk_concat {fs : FileSystem} {l place place' : Location} {ps : List String}
    (h : fs.walk l ps = .ok place) (hplace : fs.IsDirectory place) {p : String}
    (hnext : next place p = .ok place') : fs.walk l (ps ++ [p]) = .ok place' := by
  induction ps generalizing l with
  | nil =>
      obtain rfl : l = place := Except.ok.inj h
      rw [List.nil_append, walk_cons_of_isDirectory hplace hnext]
      rfl
  | cons q qs ih =>
      obtain ⟨hl, l', hq, hrest⟩ := walk_cons_ok h
      rw [List.cons_append, walk_cons_of_isDirectory hl hq]
      exact ih hrest

/-- A way can be cut in two. -/
theorem walk_append_ok {fs : FileSystem} {l place : Location} {ps qs : List String}
    (h : fs.walk l (ps ++ qs) = .ok place) :
    ∃ middle, fs.walk l ps = .ok middle ∧ fs.walk middle qs = .ok place := by
  induction ps generalizing l with
  | nil => exact ⟨l, rfl, h⟩
  | cons p ps ih =>
      obtain ⟨hl, l', hp, hrest⟩ := walk_cons_ok h
      obtain ⟨middle, hwalk, hqs⟩ := ih hrest
      refine ⟨middle, ?_, hqs⟩
      rw [walk_cons_of_isDirectory hl hp]
      exact hwalk

/-- A way to a directory starts from one. -/
theorem isDirectory_of_walk {fs : FileSystem} {l place : Location} {ps : List String}
    (h : fs.walk l ps = .ok place) (hplace : fs.IsDirectory place) : fs.IsDirectory l := by
  cases ps with
  | nil =>
      obtain rfl : l = place := Except.ok.inj h
      exact hplace
  | cons p ps => exact (walk_cons_ok h).1

/-! ## Making directories -/

/-- **Nothing is made on a way that is there.** -/
theorem makeWay_of_walk {fs : FileSystem} {l place : Location} {ps : List String}
    (h : fs.walk l ps = .ok place) (hplace : fs.IsDirectory place) (mode : Nat) (made : Bool) :
    fs.makeWay l mode made ps = (fs, .ok ()) := by
  induction ps generalizing l with
  | nil => rfl
  | cons p ps ih =>
      obtain ⟨-, l', hnext, hrest⟩ := walk_cons_ok h
      obtain ⟨mode', hl'⟩ := isDirectory_of_walk hrest hplace
      simp only [makeWay, hnext, hl']
      exact ih hrest

/-- A file system is another one to which nothing but directories was added. -/
def Extends (fs fs' : FileSystem) : Prop :=
  ∀ l, fs'.node? l = fs.node? l ∨ fs.node? l = none ∧ fs'.IsDirectory l

namespace Extends

theorem refl (fs : FileSystem) : Extends fs fs := fun _ => .inl rfl

/-- What was there is there as it was. -/
theorem node? {fs fs' : FileSystem} (h : Extends fs fs') {l : Location} {n : Node}
    (hn : fs.node? l = some n) : fs'.node? l = some n := by
  rcases h l with hsame | ⟨hnone, -⟩
  · rw [hsame, hn]
  · rw [hnone] at hn
    cases hn

theorem isDirectory {fs fs' : FileSystem} (h : Extends fs fs') {l : Location}
    (hl : fs.IsDirectory l) : fs'.IsDirectory l := by
  obtain ⟨mode, hmode⟩ := hl
  exact ⟨mode, h.node? hmode⟩

theorem trans {fs₁ fs₂ fs₃ : FileSystem} (h : Extends fs₁ fs₂) (h' : Extends fs₂ fs₃) :
    Extends fs₁ fs₃ := by
  intro l
  rcases h l with hsame | ⟨hnone, hl⟩
  · rw [← hsame]
    exact h' l
  · exact .inr ⟨hnone, h'.isDirectory hl⟩

/-- A directory is made where nothing was. -/
theorem put {fs : FileSystem} {l : Location} (hl : fs.node? l = none) (mode : Nat) :
    Extends fs (fs.put l (.directory mode)) := by
  have hroot : l ≠ [] := by
    rintro rfl
    cases hl
  intro l'
  by_cases hne : l' = l
  · subst hne
    exact .inr ⟨hl, mode, node?_put_self fs hroot _⟩
  · exact .inl (node?_put_ne fs hne _)

end Extends

/-- The directory that is made for the next part of a way. -/
def wayNode (mode : Nat) (ps : List String) : Node :=
  if ps.isEmpty then .directory mode else plainDirectory

theorem wayNode_eq (mode : Nat) (ps : List String) : ∃ m, wayNode mode ps = .directory m := by
  unfold wayNode
  split
  · exact ⟨_, rfl⟩
  · exact ⟨_, rfl⟩

theorem makeWay_cons_none {fs : FileSystem} {l l' : Location} {p : String}
    (hnext : next l p = .ok l') (hnode : fs.node? l' = none) (mode : Nat) (made : Bool)
    (ps : List String) :
    fs.makeWay l mode made (p :: ps) =
      FileSystem.makeWay (fs.put l' (wayNode mode ps)) l' mode true ps := by
  simp only [makeWay, hnext, hnode]
  rfl

theorem makeWay_cons_directory {fs : FileSystem} {l l' : Location} {p : String}
    (hnext : next l p = .ok l') (hl' : fs.IsDirectory l') (mode : Nat) (made : Bool)
    (ps : List String) :
    fs.makeWay l mode made (p :: ps) = fs.makeWay l' mode made ps := by
  obtain ⟨m, hm⟩ := hl'
  simp only [makeWay, hnext, hm]

/-- Where a way is blocked at its first part, nothing is made. -/
theorem makeWay_cons_blocked {fs : FileSystem} {l : Location} {p : String}
    (hblocked : ∀ l', next l p = .ok l' → ∃ n, fs.node? l' = some n ∧ ∀ m, n ≠ .directory m)
    (mode : Nat) (made : Bool) (ps : List String) :
    ∃ e, fs.makeWay l mode made (p :: ps) = (fs, .error e) := by
  cases hnext : next l p with
  | error e => exact ⟨e, by simp only [makeWay, hnext]⟩
  | ok l' =>
      obtain ⟨n, hnode, hother⟩ := hblocked l' hnext
      cases n with
      | directory m => exact absurd rfl (hother m)
      | file bytes m => exact ⟨_, by simp only [makeWay, hnext, hnode]; rfl⟩
      | loop => exact ⟨_, by simp only [makeWay, hnext, hnode]; rfl⟩

/-- At its next part a way is blocked, goes on through a directory, or goes on
through one that is made. -/
theorem way_cases (fs : FileSystem) (l : Location) (p : String) :
    (∀ l', next l p = .ok l' → ∃ n, fs.node? l' = some n ∧ ∀ m, n ≠ .directory m) ∨
      ∃ l', next l p = .ok l' ∧ (fs.IsDirectory l' ∨ fs.node? l' = none) := by
  cases hnext : next l p with
  | error e => exact .inl fun l' h => by cases h
  | ok l' =>
      cases hnode : fs.node? l' with
      | none => exact .inr ⟨l', rfl, .inr hnode⟩
      | some n =>
          by_cases hdirectory : ∃ m, n = .directory m
          · obtain ⟨m, rfl⟩ := hdirectory
            exact .inr ⟨l', rfl, .inl ⟨m, hnode⟩⟩
          · refine .inl fun l'' h => ?_
            obtain rfl := Except.ok.inj h
            exact ⟨n, hnode, fun m hn => hdirectory ⟨m, hn⟩⟩

/-- **Making a way adds directories and changes nothing else**, also where it is
blocked. -/
theorem makeWay_extends (fs : FileSystem) (l : Location) (mode : Nat) (made : Bool)
    (ps : List String) : Extends fs (fs.makeWay l mode made ps).1 := by
  induction ps generalizing fs l made with
  | nil => exact .refl fs
  | cons p ps ih =>
      rcases way_cases fs l p with hblocked | ⟨l', hnext, hl' | hnone⟩
      · obtain ⟨e, he⟩ := makeWay_cons_blocked hblocked mode made ps
        rw [he]
        exact .refl fs
      · rw [makeWay_cons_directory hnext hl']
        exact ih fs l' made
      · rw [makeWay_cons_none hnext hnone]
        obtain ⟨m, hm⟩ := wayNode_eq mode ps
        rw [hm]
        exact (Extends.put hnone m).trans (ih _ l' true)

/-! ## Ways that go down only -/

theorem next_of_ne {l l' : Location} {p : String} (hp : p ≠ "..") (h : next l p = .ok l') :
    l' = l ++ [p] := by
  rw [next, if_neg hp] at h
  split at h
  · cases h
  · exact (Except.ok.inj h).symm

/-- A way that never goes up leads as far down as it has parts. -/
theorem length_of_walk {fs : FileSystem} {l place : Location} {ps : List String}
    (hup : ".." ∉ ps) (h : fs.walk l ps = .ok place) : place.length = l.length + ps.length := by
  induction ps generalizing l with
  | nil =>
      obtain rfl : l = place := Except.ok.inj h
      rfl
  | cons p ps ih =>
      obtain ⟨-, l', hnext, hrest⟩ := walk_cons_ok h
      have hp : p ≠ ".." := fun hp => hup (hp ▸ List.mem_cons_self)
      have hlength := ih (fun hmem => hup (List.mem_cons_of_mem p hmem)) hrest
      rw [next_of_ne hp hnext, List.length_append, List.length_singleton] at hlength
      rw [List.length_cons]
      omega

/-- **What lies above or below a way that never goes up is left alone** when its
directories are made. -/
theorem node?_makeWay {l place : Location} {ps : List String} (hup : ".." ∉ ps)
    (hfar : place.length ≤ l.length ∨ l.length + ps.length < place.length) (fs : FileSystem)
    (mode : Nat) (made : Bool) : (fs.makeWay l mode made ps).1.node? place = fs.node? place := by
  induction ps generalizing fs l made with
  | nil => rfl
  | cons p ps ih =>
      have hup' : ".." ∉ ps := fun hmem => hup (List.mem_cons_of_mem p hmem)
      rw [List.length_cons] at hfar
      -- The next place is one part further down, and is not the one in question.
      have hdown : ∀ l', next l p = .ok l' → l'.length = l.length + 1 := by
        intro l' hnext
        have hp : p ≠ ".." := fun hp => hup (hp ▸ List.mem_cons_self)
        rw [next_of_ne hp hnext, List.length_append, List.length_singleton]
      rcases way_cases fs l p with hblocked | ⟨l', hnext, hl' | hnone⟩
      · obtain ⟨e, he⟩ := makeWay_cons_blocked hblocked mode made ps
        rw [he]
      · have hlength := hdown l' hnext
        rw [makeWay_cons_directory hnext hl']
        exact ih hup' (by omega) fs made
      · have hlength := hdown l' hnext
        have hne : place ≠ l' := by
          rintro rfl
          omega
        rw [makeWay_cons_none hnext hnone, ih hup' (by omega), node?_put_ne fs hne]

/-! ## Paths -/

/-- Where a path starts does not depend on its parts. -/
theorem start_eq {work l : Location} {p : Path} (h : start work p = .ok l) :
    l = if p.isAbsolute then [] else work := by
  unfold start at h
  split at h
  · cases h
  · exact (Except.ok.inj h).symm

theorem place_eq_ok {fs : FileSystem} {work place : Location} {p : Path} :
    fs.place work p = .ok place ↔
      ∃ l, start work p = .ok l ∧ fs.walk l p.parts = .ok place := by
  unfold FileSystem.place
  cases hstart : start work p with
  | error e =>
      constructor
      · intro h
        cases h
      · rintro ⟨l, hl, -⟩
        cases hl
  | ok l =>
      constructor
      · exact fun h => ⟨l, rfl, h⟩
      · rintro ⟨l', hl', hwalk⟩
        obtain rfl := Except.ok.inj hl'
        exact hwalk

/-- A path leads where it led while the directories stay. -/
theorem place_mono {fs fs' : FileSystem} (hstay : ∀ l, fs.IsDirectory l → fs'.IsDirectory l)
    {work place : Location} {p : Path} (h : fs.place work p = .ok place) :
    fs'.place work p = .ok place := by
  obtain ⟨l, hstart, hwalk⟩ := place_eq_ok.mp h
  exact place_eq_ok.mpr ⟨l, hstart, walk_mono hstay hwalk⟩

/-- A path to a directory. -/
theorem directory_eq {fs : FileSystem} {work l : Location} {p : Path}
    (hplace : fs.place work p = .ok l) (hl : fs.IsDirectory l) : fs.directory work p = .ok l := by
  obtain ⟨mode, hmode⟩ := hl
  unfold directory
  rw [hplace]
  simp only [bind, Except.bind, hmode]
  rfl

theorem directory_ok {fs : FileSystem} {work l : Location} {p : Path}
    (h : fs.directory work p = .ok l) : fs.place work p = .ok l ∧ fs.IsDirectory l := by
  unfold directory at h
  cases hplace : fs.place work p with
  | error e =>
      rw [hplace] at h
      cases h
  | ok l' =>
      rw [hplace] at h
      simp only [bind, Except.bind] at h
      split at h
      · rename_i mode hmode
        obtain rfl := Except.ok.inj h
        exact ⟨rfl, mode, hmode⟩
      all_goals cases h

end FileSystem

end QueryDesk.Storage
