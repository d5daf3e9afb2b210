import Mathlib.Data.List.DropRight
import QueryDesk.History.Archive
import QueryDesk.Proofs.Execution.Recording
import QueryDesk.Proofs.History.Retention
import QueryDesk.Proofs.Session.Seeding

/-!
# The ring that all connections share

A selection replaces the ring by what the store has for the connection.  After
that a query that is put on record goes into the ring, and into the store under
the connection that its run was started with.  The two agree on what they keep:
the ring forgets by age and the store by the last occurrence of a query, so what
is still in the ring is still in the store.

They come apart where a run settles after another connection was selected.  Its
query then goes into the ring of the selected connection and into the list of
the other one.

## Main results

* `Remembers.perform` — what the ring and the store hold, whatever happens.
* `shared_ring_entries` — an entry of the ring is in the list of the selected
  connection, or comes from a run of another one.
-/

namespace QueryDesk

/-! ## Rings with a limit -/

namespace History.Ring

variable {n : Nat} {r : Ring} {xs : List String}

/-- A query that is pushed is among the newest. -/
theorem push_entries (hcap : r.cap = some n) (hr : r.entries = newest n xs) {q : String}
    (hq : Text.isBlankText q = false) :
    (r.push q).cap = some n ∧ (r.push q).entries = newest n (xs ++ [q]) := by
  refine ⟨(cap_push r q).trans hcap, ?_⟩
  rw [entries_push r hq, hcap, hr]
  exact newest_newest_append ..

theorem replace_entries (hcap : r.cap = some n) {queries : List String}
    (hblank : ∀ q ∈ queries, Text.isBlankText q = false) :
    (r.replace queries).cap = some n ∧ (r.replace queries).entries = newest n queries := by
  rw [replace_eq, hcap, kept_of_filled hblank]
  exact ⟨rfl, rfl⟩

/-- A ring with a limit holds the newest of the queries that it was given. -/
theorem foldl_submit_entries (hcap : r.cap = some n) (hr : r.entries = newest n xs)
    {queries : List (String × String)} (hblank : ∀ q ∈ queries, Text.isBlankText q.2 = false) :
    (queries.foldl (fun r q => (r.submit q.2).1) r).cap = some n ∧
      (queries.foldl (fun r q => (r.submit q.2).1) r).entries =
        newest n (xs ++ queries.map (·.2)) := by
  induction queries generalizing r xs with
  | nil =>
      rw [List.map_nil, List.append_nil]
      exact ⟨hcap, hr⟩
  | cons q qs ih =>
      obtain ⟨hq, hqs⟩ := List.forall_mem_cons.mp hblank
      have hsubmit : (r.submit q.2).1.cap = some n ∧
          (r.submit q.2).1.entries = newest n (xs ++ [q.2]) := by
        rw [submit_of_filled r hq]
        exact push_entries hcap hr hq
      have hrest := ih hsubmit.1 hsubmit.2 hqs
      rw [List.append_assoc, List.singleton_append] at hrest
      exact hrest

end History.Ring

namespace Session

open Execution Storage

/-! ## What is on record -/

/-- The event of the runs that something is, if it is one. -/
def Happening.execution? : Happening → Option Execution.Event
  | execution event => some event
  | schema _ _ => none

/-- The events of the runs in a schedule. -/
def executions (hs : List Happening) : List Execution.Event := hs.filterMap Happening.execution?

/-- Whether something selects a connection, or none. -/
def Happening.selects : Happening → Bool
  | schema _ (.select _) => true
  | _ => false

/-- A schedule up to its last selection. -/
def untilSelection (hs : List Happening) : List Happening :=
  hs.rdropWhile fun h => !h.selects

/-- The queries put on record since the last selection, with the connections that
their runs were started with. -/
def recordedSince (hs : List Happening) : List (String × String) :=
  (recorded (executions hs)).drop (recorded (executions (untilSelection hs))).length

theorem recorded_prefix (es es' : List Execution.Event) : recorded es <+: recorded (es ++ es') := by
  induction es' using List.reverseRecOn with
  | nil => simp
  | append_singleton es' e ih =>
      rw [← List.append_assoc, recorded_concat]
      exact ih.trans (List.prefix_append _ _)

/-- What is on record is what was at the last selection, and what came since. -/
theorem recorded_since (hs : List Happening) :
    recorded (executions (untilSelection hs)) ++ recordedSince hs = recorded (executions hs) := by
  obtain ⟨rest, hrest⟩ := List.rdropWhile_prefix (fun h : Happening => !h.selects) hs
  refine List.prefix_iff_eq_append.mp ?_
  conv_rhs => rw [← hrest, executions, List.filterMap_append]
  exact recorded_prefix _ _

theorem untilSelection_concat (hs : List Happening) (h : Happening) :
    untilSelection (hs ++ [h]) = if h.selects then hs ++ [h] else untilSelection hs := by
  unfold untilSelection
  by_cases hselects : h.selects = true
  · rw [if_pos hselects, List.rdropWhile_concat_neg _ _ _ (by simp [hselects])]
  · rw [if_neg hselects, List.rdropWhile_concat_pos _ _ _ (by simp [hselects])]

theorem executions_concat_schema (hs : List Happening) (sources : Schema.Sources)
    (event : Session.Event) : executions (hs ++ [.schema sources event]) = executions hs := by
  simp [executions, Happening.execution?]

theorem executions_concat_execution (hs : List Happening) (event : Execution.Event) :
    executions (hs ++ [.execution event]) = executions hs ++ [event] := by
  simp [executions, Happening.execution?]

/-- A selection puts nothing on record, and is the last one then. -/
theorem recordedSince_select (hs : List Happening) (sources : Schema.Sources)
    (connection : Option String) :
    recordedSince (hs ++ [.schema sources (.select connection)]) = [] := by
  have hselects : (Happening.schema sources (.select connection)).selects = true := rfl
  rw [recordedSince, untilSelection_concat, if_pos hselects, List.drop_length]

/-- Anything else adds to what came since the last selection what it puts on
record. -/
theorem recordedSince_concat {hs : List Happening} {h : Happening} (hselects : h.selects = false)
    {new : List (String × String)}
    (hnew : recorded (executions (hs ++ [h])) = recorded (executions hs) ++ new) :
    recordedSince (hs ++ [h]) = recordedSince hs ++ new := by
  have huntil := untilSelection_concat hs h
  rw [if_neg (by simp [hselects])] at huntil
  have hall := recorded_since (hs ++ [h])
  rw [huntil, hnew, ← recorded_since hs, List.append_assoc] at hall
  exact List.append_cancel_left hall

/-- The operations that put some queries on record. -/
def saves (queries : List (String × String)) : List History.Operation :=
  queries.map fun q => .save q.1 q.2

/-- What is remembered for a connection are the queries of its own runs. -/
theorem remembered_saves {queries : List (String × String)}
    (hblank : ∀ q ∈ queries, Text.isBlankText q.2 = false) (c : String) :
    History.remembered (saves queries) c =
      (queries.filter fun q => q.1 = c).map fun q => Text.strip q.2 := by
  induction queries using List.reverseRecOn with
  | nil => rfl
  | append_singleton qs q ih =>
      rw [List.forall_mem_append] at hblank
      have hq : Text.isBlankText q.2 = false := hblank.2 q (List.mem_singleton_self q)
      rw [saves, List.map_append, List.map_singleton, History.remembered_concat, ← saves,
        ih hblank.1, List.filter_append, List.map_append]
      by_cases hc : q.1 = c
      · simp [History.Operation.remember, hc, hq]
      · simp [History.Operation.remember, hc]

/-- Saving queries in turn performs their operations. -/
theorem saveAll_archive (store : History.Store) (sur : Surroundings) (fs : FileSystem)
    (queries : List (String × String)) :
    (store.archive sur).saveAll fs queries = store.performAll sur fs (saves queries) := by
  rw [Archive.saveAll, History.Store.performAll, saves, List.foldl_map]
  rfl

/-! ## Ring and store -/

/-- What the store retains for a connection after some queries are put on record. -/
def retained (store : History.Store) (queries : List (String × String)) (c : String) :
    List String :=
  History.expected store.cap.toNat (saves queries) c

/-- What the ring was replaced by at the last selection. -/
def loaded (store : History.Store) (hs : List Happening) : List String :=
  match selected hs with
  | none => []
  | some c => retained store (recorded (executions (untilSelection hs))) c

theorem loaded_select (store : History.Store) (hs : List Happening) (sources : Schema.Sources)
    (connection : Option String) :
    loaded store (hs ++ [.schema sources (.select connection)]) =
      match connection with
      | none => []
      | some c => retained store (recorded (executions hs)) c := by
  have hselects : (Happening.schema sources (.select connection)).selects = true := rfl
  have hselected : selected (hs ++ [.schema sources (.select connection)]) = connection := by
    rw [selected_concat]
    rfl
  rw [loaded, hselected, untilSelection_concat, if_pos hselects, executions_concat_schema]

theorem loaded_concat (store : History.Store) (hs : List Happening) {h : Happening}
    (hselects : h.selects = false) : loaded store (hs ++ [h]) = loaded store hs := by
  have hchoose : h.choose (selected hs) = selected hs := by
    cases h with
    | execution event => rfl
    | schema sources event =>
        cases event with
        | select connection => cases hselects
        | refresh => rfl
        | list n => rfl
        | report n => rfl
  have huntil := untilSelection_concat hs h
  rw [if_neg (by simp [hselects])] at huntil
  rw [loaded, selected_concat, hchoose, huntil, loaded]

/-- A coordinator whose runs follow the ledger, whose store holds what was put on
record, and whose ring holds the newest of what was loaded and of what was put on
record since. -/
structure Remembers (store : History.Store) (sur : Surroundings) (fs : FileSystem)
    (hs : List Happening) (s : Session FileSystem) : Prop where
  follows : Follows s.coordinator (Ledger.ofEvents (executions hs))
  stored : s.coordinator.store = (store.archive sur).saveAll fs (recorded (executions hs))
  ring : ∃ r, s.coordinator.ring = some r ∧ r.cap = some store.cap.toNat ∧
    r.entries = History.newest store.cap.toNat
      (loaded store hs ++ (recordedSince hs).map (·.2))

section Remembers

variable {store : History.Store} {sur : Surroundings} {fs : FileSystem} {hs : List Happening}
  {s : Session FileSystem}

/-- What the store loads is what it should retain. -/
theorem Remembers.load
    (hholds : ∀ ops, History.Holds store (store.performAll sur fs ops) sur
      (History.expected store.cap.toNat ops))
    (h : Remembers store sur fs hs s) (c : String) :
    store.load s.coordinator.store sur c =
      .ok (retained store (recorded (executions hs)) c, []) := by
  rw [h.stored, saveAll_archive]
  exact (hholds _).load (History.expected_tidy _ _) c

/-- Selecting a connection replaces the ring by what the store has for it. -/
theorem select_coordinator {queries : List String} {archive : Archive FileSystem} {c : String}
    {logs : List Log.Record} (hload : archive.load s.coordinator.store c = .ok (queries, logs)) :
    (s.select (some archive) (some c)).1.coordinator =
      { s.coordinator with ring := some (s.ring.replace queries) } := by
  simp only [select, hload]
  rfl

/-- The other events of the schema leave the coordinator alone. -/
theorem perform_coordinator (archive : Option (Archive FileSystem)) (s : Session FileSystem)
    {sources : Schema.Sources} {event : Session.Event}
    (hselects : (Happening.schema sources event).selects = false) :
    ((Happening.schema sources event).perform archive s).coordinator = s.coordinator := by
  refine coordinator_step archive sources s fun c hc => ?_
  rw [hc] at hselects
  cases hselects

/-- A selection that replaces the ring, and leaves the runs and the store alone. -/
theorem Remembers.replace (h : Remembers store sur fs hs s) {s' : Session FileSystem}
    {sources : Schema.Sources} {connection : Option String} {queries : List String}
    (hloaded : loaded store (hs ++ [.schema sources (.select connection)]) = queries)
    (hblank : ∀ q ∈ queries, Text.isBlankText q = false)
    (hcoordinator : s'.coordinator =
      { s.coordinator with ring := some (s.ring.replace queries) }) :
    Remembers store sur fs (hs ++ [.schema sources (.select connection)]) s' := by
  obtain ⟨r, hr, hcap, -⟩ := h.ring
  have hring : s.ring = r := by rw [Session.ring, hr, Option.getD_some]
  have hexecutions := executions_concat_schema hs sources (.select connection)
  obtain ⟨hcap', hentries'⟩ := History.Ring.replace_entries hcap hblank
  refine ⟨?_, ?_, r.replace queries, ?_, hcap', ?_⟩
  · rw [hcoordinator, hexecutions]
    exact ⟨h.follows.latest, h.follows.runs⟩
  · rw [hcoordinator, hexecutions]
    exact h.stored
  · rw [hcoordinator, hring]
  · rw [hentries', hloaded, recordedSince_select, List.map_nil, List.append_nil]

theorem Remembers.select
    (hholds : ∀ ops, History.Holds store (store.performAll sur fs ops) sur
      (History.expected store.cap.toNat ops))
    (h : Remembers store sur fs hs s) (sources : Schema.Sources) (connection : Option String) :
    Remembers store sur fs (hs ++ [.schema sources (.select connection)])
      ((Happening.schema sources (.select connection)).perform (some (store.archive sur)) s) := by
  have hloaded := loaded_select store hs sources connection
  cases connection with
  | none => exact h.replace hloaded (by simp) rfl
  | some c =>
      have htidy := History.expected_tidy store.cap.toNat (saves (recorded (executions hs))) c
      have hload : (store.archive sur).load s.coordinator.store c =
          .ok (retained store (recorded (executions hs)) c, []) := by
        show (store.load s.coordinator.store sur c).mapError _ = _
        rw [h.load hholds c]
        rfl
      exact h.replace hloaded htidy.notBlank (select_coordinator hload)

/-- A query that is put on record goes into the ring and into the store. -/
theorem Remembers.execute (h : Remembers store sur fs hs s) (event : Execution.Event) :
    Remembers store sur fs (hs ++ [.execution event])
      ((Happening.execution event).perform (some (store.archive sur)) s) := by
  obtain ⟨r, hr, hcap, hentries⟩ := h.ring
  have hconcat := executions_concat_execution hs event
  have hrecorded := recorded_concat (executions hs) event
  rw [← hconcat] at hrecorded
  obtain ⟨hring', hstore'⟩ := recorded_step h.follows (store.archive sur) event
  have hblank : ∀ q ∈ (((Ledger.ofEvents (executions hs)).decision? event).bind
      Decision.recorded?).toList, Text.isBlankText q.2 = false := by
    intro q hq
    have hmem : q ∈ recorded (executions (hs ++ [.execution event])) := by
      rw [hrecorded]
      exact List.mem_append_right _ hq
    exact not_blank_of_recorded hmem
  obtain ⟨hcap', hentries'⟩ := History.Ring.foldl_submit_entries hcap hentries hblank
  refine ⟨?_, ?_, _, ?_, hcap', ?_⟩
  · rw [hconcat, Ledger.ofEvents_concat]
    exact h.follows.step (some (store.archive sur)) event
  · rw [hrecorded, Archive.saveAll_append, ← h.stored]
    exact hstore'
  · rw [hr] at hring'
    exact hring'
  · rw [hentries', loaded_concat store hs rfl, recordedSince_concat rfl hrecorded,
      List.map_append, List.append_assoc]

/-- A session whose runs, store and ring are the same remembers the same. -/
theorem Remembers.unselected (h : Remembers store sur fs hs s) {s' : Session FileSystem}
    {sources : Schema.Sources} {event : Session.Event}
    (hselects : (Happening.schema sources event).selects = false)
    (hsame : s'.coordinator = s.coordinator) :
    Remembers store sur fs (hs ++ [.schema sources event]) s' := by
  obtain ⟨r, hr, hcap, hentries⟩ := h.ring
  have hexecutions := executions_concat_schema hs sources event
  have hrecorded : recorded (executions (hs ++ [.schema sources event])) =
      recorded (executions hs) ++ [] := by rw [hexecutions, List.append_nil]
  refine ⟨?_, ?_, r, ?_, hcap, ?_⟩
  · rw [hsame, hexecutions]
    exact h.follows
  · rw [hsame, hexecutions]
    exact h.stored
  · rw [hsame]
    exact hr
  · rw [hentries, loaded_concat store hs hselects, recordedSince_concat hselects hrecorded,
      List.append_nil]

/-- **Ring and store hold what was loaded and what was put on record**, whatever
happens. -/
theorem Remembers.perform
    (hholds : ∀ ops, History.Holds store (store.performAll sur fs ops) sur
      (History.expected store.cap.toNat ops))
    (h : Remembers store sur fs hs s) (e : Happening) :
    Remembers store sur fs (hs ++ [e]) (e.perform (some (store.archive sur)) s) := by
  have hother : ∀ sources event, (Happening.schema sources event).selects = false →
      Remembers store sur fs (hs ++ [.schema sources event])
        ((Happening.schema sources event).perform (some (store.archive sur)) s) := by
    intro sources event hselects
    exact h.unselected hselects (perform_coordinator _ s hselects)
  cases e with
  | execution event => exact h.execute event
  | schema sources event =>
      cases event with
      | select connection => exact h.select hholds sources connection
      | refresh => exact hother sources _ rfl
      | list n => exact hother sources _ rfl
      | report n => exact hother sources _ rfl

/-- **After any schedule** of a new session. -/
theorem remembers_after {settings : Settings}
    (hholds : ∀ ops, History.Holds store (store.performAll sur fs ops) sur
      (History.expected store.cap.toNat ops))
    (hcap : store.cap.toNat = settings.maxHistory) (hs : List Happening) :
    Remembers store sur fs hs (after (some (store.archive sur)) (.new settings fs) hs) := by
  induction hs using List.reverseRecOn with
  | nil =>
      refine ⟨⟨rfl, fun n => by cases n <;> rfl⟩, rfl, _, rfl, ?_, (History.newest_nil _).symm⟩
      rw [hcap]
  | append_singleton hs h ih =>
      rw [after_concat]
      exact ih.perform hholds h

end Remembers

/-! ## What the ring shares -/

/-- **What is still in the ring of a connection's own queries is still retained.** -/
theorem strip_mem_retained {n : Nat} {c : String} {before since : List (String × String)}
    (hbefore : ∀ q ∈ before, Text.isBlankText q.2 = false)
    (hsince : ∀ q ∈ since, Text.isBlankText q.2 = false) {q : String}
    (hq : q ∈ History.newest n
      (History.expected n (saves before) c ++ since.map (·.2)))
    (hown : ∀ c', (c', q) ∈ since → c' = c) :
    Text.strip q ∈ History.expected n (saves (before ++ since)) c := by
  have htidy := History.expected_tidy n (saves before) c
  -- Every entry goes with the connection whose query it is.
  have htagged : q ∈ (History.newest n
      ((History.expected n (saves before) c).map (c, ·) ++ since)).map (·.2) := by
    have huntagged : ((History.expected n (saves before) c).map (c, ·)).map (·.2) =
        History.expected n (saves before) c := by
      rw [List.map_map]
      exact List.map_id _
    rw [← History.newest_map, List.map_append, huntagged]
    exact hq
  obtain ⟨p, hp, rfl⟩ := List.mem_map.mp htagged
  have hpc : p.1 = c := by
    rcases List.mem_append.mp ((History.newest_sublist _ _).subset hp) with hseed | hrun
    · obtain ⟨q', -, rfl⟩ := List.mem_map.mp hseed
      rfl
    · exact hown p.1 hrun
  -- Without the queries of other connections it is among the newest all the more.
  have hfiltered := History.mem_newest_filter (p := fun p => p.1 = c) hp (by simpa using hpc)
  have hstripped : Text.strip p.2 ∈ History.newest n
      (History.expected n (saves before) c ++
        (since.filter fun p => p.1 = c).map fun p => Text.strip p.2) := by
    have hmem := List.mem_map_of_mem (f := fun p : String × String => Text.strip p.2) hfiltered
    rw [← History.newest_map, List.filter_append, List.map_append] at hmem
    have hseed : (((History.expected n (saves before) c).map (c, ·)).filter
        fun p => p.1 = c).map (fun p => Text.strip p.2) = History.expected n (saves before) c := by
      rw [List.filter_eq_self.mpr (by simp), List.map_map]
      exact List.map_congr_left htidy.stripped |>.trans (List.map_id _)
    rwa [hseed] at hmem
  have hretained := History.mem_newest_dedup hstripped
  have hall : ∀ q ∈ before ++ since, Text.isBlankText q.2 = false :=
    List.forall_mem_append.mpr ⟨hbefore, hsince⟩
  rw [History.expected, remembered_saves hbefore, History.newest_dedup_append] at hretained
  rw [History.expected, remembered_saves hall, List.filter_append, List.map_append]
  exact hretained

/-- **The ring is that of the selected connection, but for runs of other ones.**
Take a session over a store with as much room as its ring, whose file is absent
and can be made, and any schedule of it.  While a connection is selected, its
history is loaded without a report, and every entry of the ring is in it, without
the blanks around it, or was put on record by a run of another connection since
this one was selected. -/
theorem shared_ring_entries (store : History.Store) (settings : Settings) (fs : FileSystem)
    (sur : Surroundings) (hpos : 0 < store.cap) (hcap : store.cap = settings.maxHistory)
    (hwork : fs.IsDirectory sur.work)
    (hsave : (store.document.save fs sur (.object [])).2 = .ok ())
    (habsent : fs.read sur.work store.document.path = .error .notFound)
    (hs : List Happening) :
    let s := after (some (store.archive sur)) (.new settings fs) hs
    ∀ c, s.connection = some c →
      ∃ queries, store.load s.coordinator.store sur c = .ok (queries, []) ∧
        ∀ q ∈ s.ring.entries,
          Text.strip q ∈ queries ∨ ∃ c', c' ≠ c ∧ (c', q) ∈ recordedSince hs := by
  intro s c hc
  have hholds := History.holds_expected hpos hwork hsave habsent
  have hremembers : Remembers store sur fs hs s := remembers_after hholds (by omega) hs
  refine ⟨_, hremembers.load hholds c, ?_⟩
  intro q hq
  by_cases hforeign : ∃ c', c' ≠ c ∧ (c', q) ∈ recordedSince hs
  · exact .inr hforeign
  refine .inl ?_
  obtain ⟨r, hr, -, hentries⟩ := hremembers.ring
  have hselected : selected hs = some c := by
    rw [← connection_after (some (store.archive sur)) settings fs hs]
    exact hc
  have hloaded :
      loaded store hs = retained store (recorded (executions (untilSelection hs))) c := by
    rw [loaded, hselected]
  rw [Session.ring, hr, Option.getD_some, hentries, hloaded] at hq
  have hblank : ∀ q ∈ recordedSince hs, Text.isBlankText q.2 = false := by
    intro q hq
    have hmem : q ∈ recorded (executions hs) := by
      rw [← recorded_since hs]
      exact List.mem_append_right _ hq
    exact not_blank_of_recorded hmem
  have hown : ∀ c', (c', q) ∈ recordedSince hs → c' = c := by
    intro c' hmem
    by_contra hne
    exact hforeign ⟨c', hne, hmem⟩
  rw [← recorded_since hs]
  exact strip_mem_retained (fun q hq => not_blank_of_recorded hq) hblank hq hown

/-- A query of one connection whose run settles after another one was selected. -/
def lateRun : List Happening :=
  [.schema {} (.select (some "a")), .execution (.submit (some "a") "SELECT 1"),
    .execution (.start 1), .schema {} (.select (some "b")),
    .execution (.settle 1 (.success ⟨["1"], [], false, none⟩))]

/-- A store at the root of an empty file system. -/
theorem shared_ring_entries_late_run :
    let store : History.Store := ⟨⟨⟨"/", ["history.json"]⟩⟩, 100⟩
    let sur : Surroundings := { work := [], home := [], config := [] }
    let s := after (some (store.archive sur)) (.new {} []) lateRun
    0 < store.cap ∧ store.cap = ({} : Settings).maxHistory ∧
      FileSystem.IsDirectory [] sur.work ∧
      (store.document.save [] sur (.object [])).2 = .ok () ∧
      FileSystem.read [] sur.work store.document.path = .error .notFound ∧
      s.connection = some "b" ∧
      ∃ queries, store.load s.coordinator.store sur "b" = .ok (queries, []) ∧
        ∀ q ∈ s.ring.entries,
          Text.strip q ∈ queries ∨ ∃ c', c' ≠ "b" ∧ (c', q) ∈ recordedSince lateRun := by
  intro store sur
  have hpos : 0 < store.cap := by decide
  have hcap : store.cap = ({} : Settings).maxHistory := by decide
  have hwork : FileSystem.IsDirectory [] sur.work := FileSystem.isDirectory_root []
  have hsave : (store.document.save [] sur (.object [])).2 = .ok () := by decide +kernel
  have habsent : FileSystem.read [] sur.work store.document.path = .error .notFound := by rfl
  have hconnection := connection_after (some (store.archive sur)) {} [] lateRun
  exact ⟨hpos, hcap, hwork, hsave, habsent, hconnection,
    shared_ring_entries store {} [] sur hpos hcap hwork hsave habsent lateRun "b" hconnection⟩

/-- The query of the late run is recalled, though it was never run on the
connection that is selected. -/
theorem late_run_is_recalled :
    let store : History.Store := ⟨⟨⟨"/", ["history.json"]⟩⟩, 100⟩
    let sur : Surroundings := { work := [], home := [], config := [] }
    let s := after (some (store.archive sur)) (.new {} []) lateRun
    s.connection = some "b" ∧ "SELECT 1" ∈ s.ring.entries ∧
      ∃ queries, store.load s.coordinator.store sur "b" = .ok (queries, []) ∧
        Text.strip "SELECT 1" ∉ queries := by
  intro store sur s
  have hsave : (store.document.save [] sur (.object [])).2 = .ok () := by decide +kernel
  have hpos : 0 < store.cap := by decide
  have hholds := History.holds_expected hpos (FileSystem.isDirectory_root []) hsave rfl
  have hremembers : Remembers store sur [] lateRun s := remembers_after hholds (by decide) lateRun
  have hconnection : s.connection = some "b" :=
    connection_after (some (store.archive sur)) {} [] lateRun
  refine ⟨hconnection, by decide +kernel, _, hremembers.load hholds "b", ?_⟩
  decide +kernel

end Session

end QueryDesk
