import QueryDesk.Proofs.Session.Publication

/-!
# Refreshes of a connection that was left

A refresh is stale once its connection is left while it loads: what it has loaded
may be older than what is published next.  Nothing marks it as stale.  It is told
apart only when its second load ends, by the connection that is selected then, so
it is dropped unless the user came back.  The return starts a refresh of its own,
with a higher number, and the two end in any order.

## Main results

* `selected_append_of_left` — a connection that was left is selected again only by
  a selection.
* `lt_nextRefresh_of_waits` — what starts later has a higher number.
* `left_refresh_ends` — what a refresh publishes that was left.
* `returned_refresh_overwrites` — a refresh that was left publishes over a later
  one of the same connection.
-/

namespace QueryDesk.Session

open Execution

variable {σ : Type} {archive : Option (Archive σ)} {settings : Settings} {store : σ}
  {before during : List Happening} {c : String} {n : Nat}

/-! ## Leaving and returning -/

/-- A connection that was left is the selected one exactly if it is what was
selected last since then. -/
theorem selected_append_of_left (hleft : selected before ≠ some c) :
    selected (before ++ during) = some c ↔ selected during = some c := by
  induction during using List.reverseRecOn with
  | nil =>
      rw [List.append_nil]
      exact ⟨fun h => absurd h hleft, nofun⟩
  | append_singleton during h ih =>
      rw [← List.append_assoc, selected_concat, selected_concat]
      cases h with
      | execution event => exact ih
      | schema sources event =>
          cases event with
          | select connection => exact Iff.rfl
          | refresh => exact ih
          | list n => exact ih
          | report n => exact ih

/-- The number that the next refresh gets never goes down. -/
theorem nextRefresh_le (archive : Option (Archive σ)) (s : Session σ) (hs : List Happening) :
    s.nextRefresh ≤ (after archive s hs).nextRefresh := by
  induction hs using List.reverseRecOn with
  | nil => exact Nat.le_refl _
  | append_singleton hs h ih =>
      rw [after_concat]
      have hstep : (after archive s hs).nextRefresh ≤
          (h.perform archive (after archive s hs)).nextRefresh := by
        cases move_perform archive (after archive s hs) h with
        | idle hbegins hgoes hrefreshes hnext hsnapshot => omega
        | cleared sources hh hrefreshes hnext hsnapshot => omega
        | begun c hbegins hrefreshes hnext hsnapshot => omega
        | listed sources n c hh hwaits hrefreshes hnext hsnapshot => omega
        | reported sources n c names hh hwaits hrefreshes hnext hsnapshot => omega
      omega

/-- **What starts later has a higher number** than a refresh that is under way. -/
theorem lt_nextRefresh_of_waits {listed : Option (List String)}
    (hwaits : Waits archive (.new settings store) before n c listed) (hs : List Happening) :
    n < (after archive (.new settings store) (before ++ hs)).nextRefresh := by
  have hget := (waits_iff rfl).mp hwaits
  have hnumbered : Numbered (after archive (.new settings store) before) :=
    numbered_after (fun _ _ => rfl) archive before
  have hlt : n < (after archive (.new settings store) before).nextRefresh := by
    by_contra hle
    rw [hnumbered n (by omega)] at hget
    cases hget
  have hafter : after archive (.new settings store) (before ++ hs) =
      after archive (after archive (.new settings store) before) hs := by
    simp [after]
  have hle := nextRefresh_le archive (after archive (.new settings store) before) hs
  rw [hafter]
  omega

/-! ## What is published -/

/-- **What a refresh publishes that was left.**  Take a refresh that waits for a load
while its connection is not the selected one, in any schedule of a new session, and
let it wait for its second load until that ends.

If what was selected last since then is not its connection, it publishes nothing,
so what later refreshes have published stays.  If it is, the refresh publishes what
it has loaded as the next version, over whatever was published in the meantime.  In
that case it is not the newest refresh of its connection: the return started another
one with a higher number, unless the history of the connection could not be loaded. -/
theorem left_refresh_ends (archive : Option (Archive σ)) (settings : Settings) (store : σ)
    (before during : List Happening) (n : Nat) (c : String) (listed : Option (List String))
    (names : List String) (hwaits : Waits archive (.new settings store) before n c listed)
    (hleft : selected before ≠ some c)
    (hends : Waits archive (.new settings store) (before ++ during) n c (some names)) :
    let start : Session σ := .new settings store
    let snapshot (hs : List Happening) : Schema.Index := (after archive start hs).snapshot
    let ended (sources : Schema.Sources) : List Happening :=
      before ++ during ++ [.schema sources (.report n)]
    (selected during ≠ some c →
        ∀ sources, snapshot (ended sources) = snapshot (before ++ during)) ∧
      (selected during = some c →
        (∀ sources, snapshot (ended sources) =
          .build (sources.reported c).1 names ((snapshot (before ++ during)).version + 1)) ∧
        ∃ middle sources rest,
          during = middle ++ .schema sources (.select (some c)) :: rest ∧
          let s := after archive start (before ++ middle)
          n < s.nextRefresh ∧
            ((s.select archive (some c)).2.1 = none →
              Waits archive start (before ++ middle ++ [.schema sources (.select (some c))])
                s.nextRefresh c none)) := by
  intro start snapshot ended
  have hended : ∀ sources, snapshot (ended sources) =
      if selected during = some c then
        .build (sources.reported c).1 names ((snapshot (before ++ during)).version + 1)
      else snapshot (before ++ during) := by
    intro sources
    have hreport := snapshot_report hends sources
    simp only [selected_append_of_left hleft] at hreport
    show (after archive start (before ++ during ++ [_])).snapshot = _
    rw [after_concat]
    exact hreport
  constructor
  · intro haway sources
    rw [hended sources, if_neg haway]
  · intro hreturned
    refine ⟨fun sources => by rw [hended sources, if_pos hreturned], ?_⟩
    have hselected : selected (before ++ during) = some c :=
      (selected_append_of_left hleft).mpr hreturned
    obtain ⟨sources, hmem⟩ := (select_mem_of_selected hselected).resolve_left hleft
    obtain ⟨middle, rest, rfl⟩ := List.append_of_mem hmem
    refine ⟨middle, sources, rest, rfl, lt_nextRefresh_of_waits hwaits middle, fun hloaded => ?_⟩
    exact .begun (.inl ⟨sources, rfl, loads_iff.mpr hloaded⟩)

/-- A source with one table. -/
def oneTable (name : String) : Schema.Sources := { lister := some fun _ => .ok [.text name] }

/-- A refresh lists its tables, its connection is left, and it is selected again: the
refresh that this starts publishes first. -/
def returning : List Happening :=
  [.schema (oneTable "old") (.select (some "a")), .schema (oneTable "old") (.list 0),
    .schema (oneTable "old") (.select (some "b")), .schema (oneTable "new") (.select (some "a")),
    .schema (oneTable "new") (.list 2), .schema (oneTable "new") (.report 2)]

/-- The refresh ends at once after its connection was left, and publishes nothing, or it
ends after the return, and publishes version 2. -/
theorem left_refresh_ends_away :
    let start : Session Unit := .new {} ()
    let before := returning.take 3
    let back := returning.drop 3
    let ended (during : List Happening) := before ++ during ++ [.schema (oneTable "new") (.report 0)]
    Waits none start before 0 "a" (some ["old"]) ∧ selected before ≠ some "a" ∧
      (Waits none start (before ++ []) 0 "a" (some ["old"]) ∧ selected [] ≠ some "a" ∧
        (after none start (ended [])).snapshot = (after none start (before ++ [])).snapshot) ∧
      Waits none start (before ++ back) 0 "a" (some ["old"]) ∧ selected back = some "a" ∧
        (after none start (ended back)).snapshot = .build [] ["old"] 2 := by
  intro start before back ended
  have hwaits : Waits none start before 0 "a" (some ["old"]) := (waits_iff rfl).mpr rfl
  have hleft : selected before ≠ some "a" := by decide
  have hends : Waits none start (before ++ []) 0 "a" (some ["old"]) := (waits_iff rfl).mpr rfl
  have hback : Waits none start (before ++ back) 0 "a" (some ["old"]) := (waits_iff rfl).mpr rfl
  have haway : selected [] ≠ some "a" := nofun
  have hreturned : selected back = some "a" := rfl
  have hkept := (left_refresh_ends none {} () before [] 0 "a" _ _ hwaits hleft hends).1 haway
  have hover := (left_refresh_ends none {} () before back 0 "a" _ _ hwaits hleft hback).2 hreturned
  exact ⟨hwaits, hleft, ⟨hends, haway, hkept _⟩, hback, hreturned, hover.1 _⟩

/-- **A refresh that was left publishes over a later one** of the same connection:
what it loaded before the connection was left takes the place of what was loaded
after the return. -/
theorem returned_refresh_overwrites :
    let start : Session Unit := .new {} ()
    let ended := returning ++ [.schema (oneTable "new") (.report 0)]
    Waits none start (returning.take 3) 0 "a" (some ["old"]) ∧
      selected (returning.take 3) = some "b" ∧
      (after none start returning).snapshot = .build [] ["new"] 1 ∧
      (after none start ended).snapshot = .build [] ["old"] 2 :=
  ⟨(waits_iff rfl).mpr rfl, rfl, by decide +kernel, by decide +kernel⟩

end QueryDesk.Session
