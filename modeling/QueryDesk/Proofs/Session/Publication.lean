import QueryDesk.Proofs.Session.Schedule

/-!
# Snapshots that are published

Refreshes of several connections wait for their loads at the same time, and go
on in any order around the selections.  A refresh that ends its second load
publishes a snapshot exactly if its connection is the selected one at that
moment; the snapshot is made of its own two loads.  Besides, only deselecting
makes a new snapshot, and that one has no tables.

Each new snapshot has the next version, and the version of no snapshot ever goes
down, so that two of them never share one.

## Main results

* `snapshot_report` — what a refresh publishes that ends.
* `version_le` — versions never go down.
* `snapshots_follow_selection` — which snapshots a schedule leads to.
-/

namespace QueryDesk.Session

open Execution

variable {σ : Type} {archive : Option (Archive σ)} {settings : Settings} {store : σ}
  {hs : List Happening} {h : Happening} {c : String}

/-- What happens after a schedule ends the second load of a refresh of the
connection that is selected then. -/
def Publishes (archive : Option (Archive σ)) (s : Session σ) (hs : List Happening)
    (h : Happening) (c : String) : Prop :=
  selected hs = some c ∧
    ∃ sources n names, h = .schema sources (.report n) ∧ Waits archive s hs n c (some names)

/-- What happens after a schedule deselects, or ends a refresh of the connection
that is selected. -/
def Renews (archive : Option (Archive σ)) (s : Session σ) (hs : List Happening)
    (h : Happening) : Prop :=
  (∃ sources, h = .schema sources (.select none)) ∨ ∃ c, Publishes archive s hs h c

/-! ## Single steps -/

/-- **What a refresh publishes that ends**: the tables of its own two loads, if its
connection is selected, and nothing otherwise. -/
theorem snapshot_report {n : Nat} {names : List String}
    (hwaits : Waits archive (.new settings store) hs n c (some names))
    (sources : Schema.Sources) :
    let s := after archive (.new settings store) hs
    ((Happening.schema sources (.report n)).perform archive s).snapshot =
      if selected hs = some c then
        .build (sources.reported c).1 names (s.snapshot.version + 1)
      else s.snapshot := by
  intro s
  have hget : s.refreshes.get? n = some ⟨c, some names⟩ := (waits_iff rfl).mp hwaits
  rw [← connection_after archive settings store hs]
  cases move_perform archive s (.schema sources (.report n)) with
  | idle hbegins hgoes hrefreshes hnext hsnapshot =>
      exact absurd ⟨sources, rfl⟩ (hgoes n c (some names) hget)
  | cleared sources' hh hrefreshes hnext hsnapshot => cases hh
  | begun c' hbegins hrefreshes hnext hsnapshot =>
      exact absurd ⟨sources, rfl⟩ (hbegins.not_endsLoad n (some names))
  | listed sources' n' c' hh hwaits hrefreshes hnext hsnapshot => cases hh
  | reported sources' n' c' names' hh hwaits hrefreshes hnext hsnapshot =>
      cases hh
      rw [hget] at hwaits
      cases hwaits
      exact hsnapshot

/-- Deselecting publishes a snapshot without tables. -/
theorem snapshot_clear (archive : Option (Archive σ)) (s : Session σ)
    (sources : Schema.Sources) :
    ((Happening.schema sources (.select none)).perform archive s).snapshot =
      .empty (s.snapshot.version + 1) := rfl

/-- A new snapshot has the next version. -/
theorem version_of_renews (hrenews : Renews archive (.new settings store) hs h) :
    (after archive (.new settings store) (hs ++ [h])).snapshot.version =
      (after archive (.new settings store) hs).snapshot.version + 1 := by
  rw [after_concat]
  rcases hrenews with ⟨sources, rfl⟩ | ⟨c, hselected, sources, n, names, rfl, hwaits⟩
  · rfl
  · rw [snapshot_report hwaits sources, if_pos hselected]
    rfl

/-- Nothing else touches the snapshot. -/
theorem snapshot_of_not_renews (hrenews : ¬ Renews archive (.new settings store) hs h) :
    (after archive (.new settings store) (hs ++ [h])).snapshot =
      (after archive (.new settings store) hs).snapshot := by
  rw [after_concat]
  cases move_perform archive (after archive (.new settings store) hs) h with
  | idle hbegins hgoes hrefreshes hnext hsnapshot => exact hsnapshot
  | cleared sources hh hrefreshes hnext hsnapshot => exact absurd (.inl ⟨sources, hh⟩) hrenews
  | begun c hbegins hrefreshes hnext hsnapshot => exact hsnapshot
  | listed sources n c hh hwaits hrefreshes hnext hsnapshot => exact hsnapshot
  | reported sources n c names hh hwaits hrefreshes hnext hsnapshot =>
      rw [hsnapshot, if_neg]
      intro hconnection
      rw [connection_after archive settings store hs] at hconnection
      exact hrenews (.inr ⟨c, hconnection, sources, n, names, hh, (waits_iff rfl).mpr hwaits⟩)

/-! ## Whole schedules -/

/-- **Versions never go down.** -/
theorem version_le (archive : Option (Archive σ)) (settings : Settings) (store : σ)
    (hs hs' : List Happening) :
    (after archive (.new settings store) hs).snapshot.version ≤
      (after archive (.new settings store) (hs ++ hs')).snapshot.version := by
  induction hs' using List.reverseRecOn with
  | nil => simp
  | append_singleton hs' h ih =>
      rw [← List.append_assoc]
      by_cases hrenews : Renews archive (.new settings store) (hs ++ hs') h
      · rw [version_of_renews hrenews]
        omega
      · rw [snapshot_of_not_renews hrenews]
        exact ih

/-- A refresh that was started waits for its second load after the first one, with
the names that it gave. -/
theorem waits_of_begins {s : Session σ} {during during' : List Happening}
    (hbegins : Begins archive (after archive s hs) h c) (sources : Schema.Sources) :
    let n := (after archive s hs).nextRefresh
    (∀ sources, .schema sources (.list n) ∉ during) →
      (∀ sources, .schema sources (.report n) ∉ during') →
      Waits archive s (hs ++ [h] ++ during ++ [.schema sources (.list n)] ++ during') n c
        (some (sources.listed c).1) := by
  intro n hlist hreport
  have hfirst : Waits archive s (hs ++ [h] ++ during) n c none := by
    refine (Waits.begun hbegins).stays ?_
    rintro h' hmem ⟨sources', rfl⟩
    exact hlist sources' hmem
  refine (Waits.listed hfirst sources).stays ?_
  rintro h' hmem ⟨sources', rfl⟩
  exact hreport sources' hmem

/-- A connection that is selected in the end was selected before, or is selected
on the way. -/
theorem select_mem_of_selected {hs' : List Happening} (hselected : selected (hs ++ hs') = some c) :
    selected hs = some c ∨ ∃ sources, .schema sources (.select (some c)) ∈ hs' := by
  induction hs' using List.reverseRecOn with
  | nil =>
      rw [List.append_nil] at hselected
      exact .inl hselected
  | append_singleton hs' h ih =>
      rw [← List.append_assoc, selected_concat] at hselected
      have hbefore : selected (hs ++ hs') = some c →
          selected hs = some c ∨ ∃ sources, .schema sources (.select (some c)) ∈ hs' ++ [h] := by
        intro hselected
        rcases ih hselected with hselected | ⟨sources, hmem⟩
        · exact .inl hselected
        · exact .inr ⟨sources, List.mem_append_left _ hmem⟩
      cases h with
      | execution event => exact hbefore hselected
      | schema sources event =>
          cases event with
          | select connection =>
              obtain rfl : connection = some c := hselected
              exact .inr ⟨sources, List.mem_append_right _ (List.mem_singleton_self _)⟩
          | refresh => exact hbefore hselected
          | list n => exact hbefore hselected
          | report n => exact hbefore hselected

/-- **Without a connection there is no table**, until a refresh publishes for a
connection that was selected later. -/
theorem empty_or_published (archive : Option (Archive σ)) (settings : Settings) (store : σ)
    (hcleared : (after archive (.new settings store) hs).snapshot =
      .empty (after archive (.new settings store) hs).snapshot.version)
    (hselected : selected hs = none) (hs' : List Happening) :
    (after archive (.new settings store) (hs ++ hs')).snapshot =
        .empty (after archive (.new settings store) (hs ++ hs')).snapshot.version ∨
      ∃ before h rest c, hs' = before ++ h :: rest ∧
        Publishes archive (.new settings store) (hs ++ before) h c ∧
        ∃ sources, .schema sources (.select (some c)) ∈ before := by
  induction hs' using List.reverseRecOn with
  | nil =>
      rw [List.append_nil]
      exact .inl hcleared
  | append_singleton hs' h ih =>
      rw [← List.append_assoc]
      rcases ih with hempty | ⟨before, h', rest, c, rfl, hpublishes, hselect⟩
      · by_cases hrenews : Renews archive (.new settings store) (hs ++ hs') h
        · rcases hrenews with ⟨sources, rfl⟩ | ⟨c, hpublishes⟩
          · rw [after_concat, snapshot_clear]
            exact .inl rfl
          · rcases select_mem_of_selected hpublishes.1 with hbefore | hselect
            · rw [hselected] at hbefore
              cases hbefore
            · exact .inr ⟨hs', h, [], c, rfl, hpublishes, hselect⟩
        · rw [snapshot_of_not_renews hrenews]
          exact .inl hempty
      · exact .inr ⟨before, h', rest ++ [h], c, by simp, hpublishes, hselect⟩

/-- **Snapshots follow the selection.**  Take any schedule of a new session, over
any history: selections, requests, loads of any number of refreshes, each with
what the sources answer then, and events of the runs.

A refresh that was started publishes when its second load ends exactly if its
connection is the selected one then, however long it waited and whatever else
happened; it publishes the tables of its own two loads.  Deselecting publishes a
snapshot without tables.  Both give the snapshot the next version, and nothing
else touches it.  So of two new snapshots the later one has the higher version.
From a deselection on there are no tables until a refresh publishes for a
connection that was selected later. -/
theorem snapshots_follow_selection (archive : Option (Archive σ)) (settings : Settings)
    (store : σ) (hs : List Happening) :
    let start : Session σ := .new settings store
    let snapshot (hs : List Happening) : Schema.Index := (after archive start hs).snapshot
    (∀ h c during sources during' sources', Begins archive (after archive start hs) h c →
        let n := (after archive start hs).nextRefresh
        let loaded := hs ++ [h] ++ during ++ [.schema sources (.list n)] ++ during'
        (∀ sources, .schema sources (.list n) ∉ during) →
          (∀ sources, .schema sources (.report n) ∉ during') →
          snapshot (loaded ++ [.schema sources' (.report n)]) =
            if selected loaded = some c then
              .build (sources'.reported c).1 (sources.listed c).1 ((snapshot loaded).version + 1)
            else snapshot loaded) ∧
      (∀ n c names sources, Waits archive start hs n c (some names) →
        snapshot (hs ++ [.schema sources (.report n)]) =
          if selected hs = some c then
            .build (sources.reported c).1 names ((snapshot hs).version + 1)
          else snapshot hs) ∧
      (∀ sources, snapshot (hs ++ [.schema sources (.select none)]) =
        .empty ((snapshot hs).version + 1)) ∧
      (∀ h, (Renews archive start hs h →
            (snapshot (hs ++ [h])).version = (snapshot hs).version + 1) ∧
          (¬ Renews archive start hs h → snapshot (hs ++ [h]) = snapshot hs)) ∧
      (∀ h hs' h', Renews archive start hs h → Renews archive start (hs ++ [h] ++ hs') h' →
        (snapshot (hs ++ [h])).version < (snapshot (hs ++ [h] ++ hs' ++ [h'])).version) ∧
      ∀ sources hs',
        let cleared := hs ++ [.schema sources (.select none)]
        snapshot (cleared ++ hs') = .empty (snapshot (cleared ++ hs')).version ∨
          ∃ before h rest c, hs' = before ++ h :: rest ∧
            Publishes archive start (cleared ++ before) h c ∧
            ∃ sources, .schema sources (.select (some c)) ∈ before := by
  intro start snapshot
  refine ⟨?_, ?_, ?_, fun h => ⟨version_of_renews, snapshot_of_not_renews⟩, ?_, ?_⟩
  · intro h c during sources during' sources' hbegins n loaded hlist hreport
    show (after archive start (loaded ++ [.schema sources' (.report n)])).snapshot = _
    rw [after_concat]
    exact snapshot_report (waits_of_begins hbegins sources hlist hreport) sources'
  · intro n c names sources hwaits
    show (after archive start (hs ++ [.schema sources (.report n)])).snapshot = _
    rw [after_concat]
    exact snapshot_report hwaits sources
  · intro sources
    show (after archive start (hs ++ [.schema sources (.select none)])).snapshot = _
    rw [after_concat]
    exact snapshot_clear archive _ sources
  · intro h hs' h' _ hrenews'
    have hle := version_le archive settings store (hs ++ [h]) hs'
    have hnext := version_of_renews hrenews'
    show (after archive (.new settings store) (hs ++ [h])).snapshot.version <
      (after archive (.new settings store) (hs ++ [h] ++ hs' ++ [h'])).snapshot.version
    omega
  · intro sources hs' cleared
    refine empty_or_published archive settings store ?_ ?_ hs'
    · show (after archive start (hs ++ [.schema sources (.select none)])).snapshot = _
      rw [after_concat, snapshot_clear]
      rfl
    · show selected (hs ++ [.schema sources (.select none)]) = none
      rw [selected_concat]
      rfl

/-- Two refreshes of two connections.  That of the connection that was left ends and
publishes nothing, the other one publishes version 1, and deselecting takes its tables
away with version 2. -/
theorem snapshots_follow_selection_left :
    let start : Session Unit := .new {} ()
    let snapshot (hs : List Happening) : Schema.Index := (after none start hs).snapshot
    let sources : Schema.Sources := { lister := some fun c => .ok [.text ("orders_" ++ c)] }
    let first : Happening := .schema sources (.select (some "a"))
    let during : List Happening :=
      [.schema sources (.select (some "b")), .schema sources (.list 1)]
    let loaded : List Happening := [first] ++ during ++ [.schema sources (.list 0)]
    let left : List Happening := loaded ++ [.schema sources (.report 0)]
    let last : Happening := .schema sources (.report 1)
    let deselected : Happening := .schema sources (.select none)
    Begins none start first "a" ∧ selected loaded = some "b" ∧ snapshot left = snapshot loaded ∧
      Waits none start left 1 "b" (some ["orders_b"]) ∧ selected left = some "b" ∧
      snapshot (left ++ [last]) = .build [] ["orders_b"] 1 ∧
      Renews none start left last ∧ Renews none start (left ++ [last]) deselected ∧
      (snapshot (left ++ [last])).version <
        (snapshot (left ++ [last] ++ [deselected])).version := by
  intro start snapshot sources first during loaded left last deselected
  have hbegins : Begins none start first "a" := .inl ⟨sources, rfl, nofun⟩
  have hwaits : Waits none start left 1 "b" (some ["orders_b"]) := (waits_iff rfl).mpr rfl
  have hrenews : Renews none start left last :=
    .inr ⟨"b", rfl, sources, 1, ["orders_b"], rfl, hwaits⟩
  have hdeselects : Renews none start (left ++ [last]) deselected := .inl ⟨sources, rfl⟩
  have hleft : snapshot left = snapshot loaded :=
    (snapshots_follow_selection none {} () []).1 first "a" during sources [] sources hbegins
      (by simp [during, new]) (by simp)
  have hpublished : snapshot (left ++ [last]) = .build [] ["orders_b"] 1 :=
    (snapshots_follow_selection none {} () left).2.1 1 "b" _ sources hwaits
  have hversions := (snapshots_follow_selection none {} () left).2.2.2.2.1 last [] deselected
    hrenews hdeselects
  exact ⟨hbegins, rfl, hleft, hwaits, rfl, hpublished, hrenews, hdeselects, hversions⟩

end QueryDesk.Session
