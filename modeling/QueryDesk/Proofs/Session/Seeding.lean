import QueryDesk.History.Archive
import QueryDesk.Proofs.Execution.Ledger
import QueryDesk.Proofs.History.Keeping
import QueryDesk.Proofs.History.Rewriting
import QueryDesk.Proofs.Session.Schedule

/-!
# Seeding the ring

Selecting a connection hands the whole list that the history has for it to the ring,
which cuts it entry by entry.  The cap of the ring is that of the settings from the
start of the session on: runs submit to the ring, selections replace its entries and
keys move its cursor, and none of them touches the cap.

## Main results

* `capped_carriedOut` — the ring of a session has the cap of its settings.
* `select_loaded` — a selection leaves what the cap leaves of the loaded queries.
* `ring_keeps_newest` — a ring after any calls, and after a selection.
-/

namespace QueryDesk

/-! ## Runs and the ring -/

section Coordinators

open Execution

variable {σ : Type}

/-- An event of the runs leaves the ring alone, or submits a query to it. -/
theorem Execution.Coordinator.ring_step (archive : Option (Archive σ)) (c : Coordinator σ)
    (e : Execution.Event) :
    (Coordinator.step archive c e).1.ring = c.ring ∨
      ∃ sql, (Coordinator.step archive c e).1.ring = c.ring.map fun r => (r.submit sql).1 := by
  cases e with
  | submit connection sql =>
      left
      simp only [Coordinator.step, Coordinator.submit]
      split <;> rfl
  | start run queued =>
      left
      simp only [Coordinator.step, Coordinator.start]
      split
      · split
        · rfl
        · split <;> rfl
      · rfl
  | call run =>
      left
      simp only [Coordinator.step, Coordinator.call]
      split
      · split <;> rfl
      · rfl
  | settle run outcome =>
      simp only [Coordinator.step, Coordinator.settle]
      split
      · exact .inl rfl
      · rename_i r _
        split
        · exact .inl rfl
        · cases outcome with
          | success result =>
              simp only [Coordinator.succeed]
              split
              · exact .inl rfl
              · right
                refine ⟨r.sql, ?_⟩
                simp only [Coordinator.record_fst]
                rfl
          | failure f =>
              left
              simp only [Coordinator.fail]
              split <;> rfl
  | cancel run =>
      left
      simp only [Coordinator.step, Coordinator.cancel]
      split
      · rfl
      · split <;> rfl
  | reset =>
      left
      simp only [Coordinator.step, Coordinator.reset]
      split <;> rfl
  | subscribe listener => exact .inl rfl
  | unsubscribe name => exact .inl rfl

end Coordinators

namespace Session

open Execution History

/-! ## The cap -/

/-- What is done with a session: something happens to it, or a key is given to its
history. -/
inductive Deed where
  | happening (h : Happening)
  | press (key : String) (popup : Bool) (text : String)

variable {σ : Type}

/-- The session after a deed. -/
def Deed.perform (archive : Option (Archive σ)) (s : Session σ) : Deed → Session σ
  | happening h => h.perform archive s
  | press key popup text => (s.press key popup text).1

/-- The session after some deeds. -/
def carriedOut (archive : Option (Archive σ)) (s : Session σ) (deeds : List Deed) :
    Session σ :=
  deeds.foldl (Deed.perform archive) s

/-- A session whose ring has a cap. -/
def Capped (n : Nat) (s : Session σ) : Prop :=
  ∃ r, s.coordinator.ring = some r ∧ r.cap = some n

section Caps

variable {archive : Option (Archive σ)} {s : Session σ} {n : Nat}

theorem capped_new (settings : Settings) (store : σ) :
    Capped settings.maxHistory (.new settings store) := ⟨_, rfl, rfl⟩

theorem Capped.ring_cap (h : Capped n s) : s.ring.cap = some n := by
  obtain ⟨r, hr, hcap⟩ := h
  rw [Session.ring, hr, Option.getD_some, hcap]

/-- A session with the same ring has the same cap. -/
theorem Capped.of_ring (h : Capped n s) {s' : Session σ}
    (hring : s'.coordinator.ring = s.coordinator.ring) : Capped n s' := by
  obtain ⟨r, hr, hcap⟩ := h
  exact ⟨r, hring.trans hr, hcap⟩

/-- A ring with the cap takes the place of another one. -/
theorem Capped.of_replaced (h : Capped n s) {s' : Session σ} {queries : List String}
    (hring : s'.coordinator.ring = some (s.ring.replace queries)) : Capped n s' :=
  ⟨_, hring, (Ring.cap_replace _ _).trans h.ring_cap⟩

theorem Capped.execute (h : Capped n s) (event : Execution.Event) :
    Capped n (s.execute archive event).1 := by
  rcases s.coordinator.ring_step archive event with hsame | ⟨sql, hsubmitted⟩
  · exact h.of_ring hsame
  · obtain ⟨r, hr, hcap⟩ := h
    rw [hr] at hsubmitted
    exact ⟨_, hsubmitted, (Ring.cap_submit r sql).trans hcap⟩

theorem Capped.select (h : Capped n s) (connection : Option String) :
    Capped n (s.select archive connection).1 := by
  unfold Session.select
  cases connection with
  | none => exact h.of_replaced rfl
  | some c =>
      cases archive with
      | none => exact h.of_ring rfl
      | some archive =>
          simp only
          split
          · exact h.of_replaced rfl
          · exact h.of_ring rfl

/-- What happens to the schema leaves the runs, the ring and the store alone, unless
it is a selection. -/
theorem coordinator_step (archive : Option (Archive σ)) (sources : Schema.Sources)
    (s : Session σ) {event : Session.Event} (hselect : ∀ c, event ≠ .select c) :
    (s.step archive sources event).1.coordinator = s.coordinator := by
  cases event with
  | select connection => exact absurd rfl (hselect connection)
  | refresh =>
      simp only [step]
      split <;> rfl
  | list n =>
      simp only [step]
      split <;> rfl
  | report n =>
      simp only [step]
      split <;> rfl

theorem Capped.step (h : Capped n s) (sources : Schema.Sources) (event : Session.Event) :
    Capped n (s.step archive sources event).1 := by
  by_cases hselect : ∃ c, event = .select c
  · obtain ⟨c, rfl⟩ := hselect
    exact h.select c
  · have hsame := coordinator_step archive sources s fun c hc => hselect ⟨c, hc⟩
    exact h.of_ring (congrArg Coordinator.ring hsame)

theorem Capped.press (h : Capped n s) (key : String) (popup : Bool) (text : String) :
    Capped n (s.press key popup text).1 :=
  ⟨_, rfl, (s.settings.keys.press_keeps s.ring key popup text).2.trans h.ring_cap⟩

/-- **The ring keeps its cap**, whatever is done. -/
theorem Capped.perform (h : Capped n s) (d : Deed) : Capped n (d.perform archive s) := by
  cases d with
  | happening happening =>
      cases happening with
      | schema sources event => exact h.step sources event
      | execution event => exact h.execute event
  | press key popup text => exact h.press key popup text

/-- **The ring of a session has the cap of its settings.** -/
theorem capped_carriedOut (archive : Option (Archive σ)) (settings : Settings) (store : σ)
    (deeds : List Deed) :
    Capped settings.maxHistory (carriedOut archive (.new settings store) deeds) := by
  induction deeds using List.reverseRecOn with
  | nil => exact capped_new settings store
  | append_singleton deeds d ih =>
      rw [carriedOut, List.foldl_append]
      exact ih.perform d

end Caps

/-! ## Selections -/

/-- A run of events without selections leaves the coordinator alone. -/
theorem coordinator_steps (archive : Option (Archive σ)) (sources : Schema.Sources)
    {events : List Session.Event} (s : Session σ)
    (hselect : ∀ e ∈ events, ∀ c, e ≠ .select c) :
    (s.steps archive sources events).1.coordinator = s.coordinator := by
  induction events generalizing s with
  | nil => rfl
  | cons e es ih =>
      obtain ⟨he, hes⟩ := List.forall_mem_cons.mp hselect
      have hstep := coordinator_step archive sources s he
      simp only [steps]
      split
      · rename_i s' f logs hs
        rw [hs] at hstep
        exact hstep
      · rename_i s' logs hs
        rw [hs] at hstep
        exact (ih s' hes).trans hstep

/-- Loading the schema leaves the coordinator alone. -/
theorem coordinator_finish (archive : Option (Archive σ)) (sources : Schema.Sources)
    (s : Session σ) : (s.finish archive sources).1.coordinator = s.coordinator := by
  refine coordinator_steps archive sources s ?_
  intro e he c
  rw [List.mem_append, List.mem_map, List.mem_map] at he
  rcases he with ⟨n, -, rfl⟩ | ⟨n, -, rfl⟩
  · exact Session.Event.noConfusion
  · exact Session.Event.noConfusion

/-- The ring after a connection is selected and the schema is loaded. -/
def ringSelected (archive : Archive σ) (sources : Schema.Sources) (s : Session σ) (c : String) :
    Ring :=
  ((s.select (some archive) (some c)).1.finish (some archive) sources).1.ring

section Selections

variable {archive : Archive σ} {s : Session σ} {n : Nat} {c : String}

/-- **A selection leaves what the cap leaves of the loaded queries**, and the ring is
not browsing. -/
theorem select_loaded (h : Capped n s) {queries : List String} {logs : List Log.Record}
    (hload : archive.load s.coordinator.store c = .ok (queries, logs)) (sources : Schema.Sources) :
    ringSelected archive sources s c =
      { entries := Ring.kept (some n) queries, cap := some n } := by
  have hselected : (s.select (some archive) (some c)).1.ring = s.ring.replace queries := by
    simp only [select, hload]
    rfl
  rw [ringSelected, Session.ring, coordinator_finish, ← Session.ring, hselected, Ring.replace_eq,
    h.ring_cap]

/-- A selection whose history cannot be loaded fails as the load does, and leaves the
ring as it was. -/
theorem select_unloaded {f : Failure}
    (hload : archive.load s.coordinator.store c = .error f) (sources : Schema.Sources) :
    ringSelected archive sources s c = s.ring ∧
      (s.select (some archive) (some c)).2.1 = some f := by
  have hselected : s.select (some archive) (some c) =
      ({ s with connection := some c }, some f,
        [⟨.info, logSource, "Selected connection " ++ c, none⟩]) := by
    simp only [select, hload]
    rfl
  refine ⟨?_, congrArg (·.2.1) hselected⟩
  rw [ringSelected, Session.ring, coordinator_finish, hselected]
  rfl

end Selections

/-- The queries that are loaded from a document are all kept, up to the cap. -/
theorem kept_of_load {store : Store} {fs : Storage.FileSystem} {sur : Storage.Surroundings}
    {c : String} {queries : List String} {logs : List Log.Record}
    (h : (store.archive sur).load fs c = .ok (queries, logs)) (n : Nat) :
    Ring.kept (some n) queries = newest n queries := by
  have hload : (store.load fs sur c).mapError loadFailure = .ok (queries, logs) := h
  cases hstore : store.load fs sur c with
  | error e =>
      rw [hstore] at hload
      cases hload
  | ok loaded =>
      rw [hstore] at hload
      obtain rfl : loaded = (queries, logs) := Except.ok.inj hload
      obtain ⟨fields, -, rfl⟩ := exists_document_of_load hstore
      exact Ring.kept_of_filled fun q hq => notBlank_of_mem_queriesOf hq

/-- **A ring holds the newest of what it was given.**  Take a ring with any cap, or
without one, any initial queries and any calls.  Its entries are what the cap leaves of
the queries given since the entries were last replaced, without the blank ones, and its
cursor is at one of them, if at any.  A blank query changes nothing and is not added.
Any other one is added behind them, and any replacement takes their place; the ring
then is not browsing.

In a session, whatever is done with it, selecting a connection leaves in the ring what
the cap of the settings leaves of the queries that are loaded for it.  These are the
newest ones, where the history is kept in a document.  If they cannot be loaded, the
selection fails as the load does and the ring stays. -/
theorem ring_keeps_newest (cap : Option Nat) (initial : List String)
    (calls : List History.Call) (archive : Archive σ) (settings : Settings) (start : σ)
    (deeds : List Deed) (c : String) (sources : Schema.Sources) :
    (let r := (Ring.ofList initial cap).after calls
      let queries := given initial calls
      r.entries = Ring.kept cap queries ∧ r.Sound ∧
      (∀ q, r.submit q =
        if Text.isBlankText q then (r, false)
        else ({ entries := Ring.kept cap (queries ++ [q]), cap }, true)) ∧
      ∀ qs, r.replace qs = { entries := Ring.kept cap qs, cap }) ∧
    (let s := carriedOut (some archive) (.new settings start) deeds
     match archive.load s.coordinator.store c with
     | .ok (queries, _) =>
         ringSelected archive sources s c =
           { entries := Ring.kept (some settings.maxHistory) queries
             cap := some settings.maxHistory }
     | .error f =>
         ringSelected archive sources s c = s.ring ∧
           (s.select (some archive) (some c)).2.1 = some f) ∧
    ∀ (store : Store) (fs : Storage.FileSystem) (sur : Storage.Surroundings)
      (logs : List Log.Record) (queries : List String),
      (store.archive sur).load fs c = .ok (queries, logs) →
        Ring.kept (some settings.maxHistory) queries = newest settings.maxHistory queries := by
  refine ⟨?_, ?_, ?_⟩
  · intro r queries
    obtain ⟨hcap, hkeeps, hsound⟩ := keeps_after cap initial calls
    have hentries : r.entries = Ring.kept r.cap queries := hkeeps
    have hcap : r.cap = cap := hcap
    refine ⟨hcap ▸ hentries, hsound, fun q => ?_, fun qs => ?_⟩
    · have hsubmit := hkeeps.submit_eq q
      rwa [hcap] at hsubmit
    · rw [Ring.replace_eq, hcap]
  · intro s
    have hcapped : Capped settings.maxHistory s :=
      capped_carriedOut (some archive) settings start deeds
    split
    · rename_i hload
      exact select_loaded hcapped hload sources
    · rename_i hload
      exact select_unloaded hload sources
  · intro store fs sur logs queries hload
    exact kept_of_load hload _

end Session

end QueryDesk
