import QueryDesk.Proofs.OrderedMap
import QueryDesk.Proofs.Sqlite.Requests

/-!
# Connections that are kept

A connection is opened when a request first needs it, and kept under the path it was
asked for until it is closed.  The connections that are kept are then the live ones, and
each is kept under one path.  Every request preserves this: getting a connection either
changes nothing that is kept or adds a connection that the driver never gave before; work
on a connection opens none and closes none; and closing takes a connection out at the
same time.

## Main results

* `Kept.obtains`, `Kept.worked`, `Kept.close` — getting a connection, working on it and
  closing it.
* `Serves.supplied` — how a request comes by its connection.
* `kept_connections_live` — the same for any sequence of requests.
-/

namespace QueryDesk.Sqlite.Backend

open Execution (Failure)

variable {δ : Type} {driver : Driver δ} (numbering : Numbering driver)

/-! ## The connections that are kept -/

/-- The live connections are those that are kept, each under one path and no two under the
same one, and every call was made on a connection that was live then. -/
structure Accounted (b : Backend δ) : Prop where
  nodup : (OrderedMap.names b.connections).Nodup
  distinct : ∀ id id' h, b.connections.get? id = some h → b.connections.get? id' = some h → id = id'
  live_iff : ∀ h, Live b.calls h ↔ ∃ id, b.connections.get? id = some h
  orderly : Orderly b.calls

/-- The same, and the driver knows which connections it opened. -/
structure Kept (b : Backend δ) : Prop extends Accounted b where
  given : ∀ h, Opened b.calls h → numbering.given b.driver h

section Keeping

variable {numbering} {site : Site} {id : String} {b b₁ b' : Backend δ} {h : Handle}

theorem Kept.worked (hkept : Kept numbering b) (hget : b.connections.get? id = some h)
    (hworked : Worked numbering h b b') : Kept numbering b' := by
  obtain ⟨made, hcalls, hmade⟩ := hworked.calls
  refine ⟨⟨?_, ?_, ?_, ?_⟩, ?_⟩
  · rw [hworked.connections]
    exact hkept.nodup
  · rw [hworked.connections]
    exact hkept.distinct
  · intro k
    rw [hcalls, live_append_works hmade, hworked.connections]
    exact hkept.live_iff k
  · rw [hcalls]
    exact hkept.orderly.append_works ((hkept.live_iff h).mpr ⟨id, hget⟩) hmade
  · intro k hopened
    rw [hcalls, opened_append] at hopened
    exact hworked.given k (hkept.given k (hopened.resolve_right (not_opened_of_works hmade)))

/-- A connection that could not be opened changes nothing but the driver. -/
theorem Kept.failed (hkept : Kept numbering b) (path : String) :
    Kept numbering
      { b with driver := (driver.connect path b.driver).2
               calls := b.calls ++ [.connect path none] } := by
  have hopened : ∀ k, Opened (b.calls ++ [.connect path none]) k ↔ Opened b.calls k := by
    intro k
    simp [Opened]
  refine ⟨⟨hkept.nodup, hkept.distinct, ?_, hkept.orderly.connect path none⟩, ?_⟩
  · intro k
    simp only [Live, hopened, List.mem_append, List.mem_singleton, reduceCtorEq, or_false]
    exact hkept.live_iff k
  · exact fun k hk => numbering.connect path (hkept.given k ((hopened k).mp hk))

/-- A new connection is live, is none of those before, and is kept under its path. -/
theorem Kept.opened (hkept : Kept numbering b) (hnone : b.connections.get? id = none)
    {path : String} {d : δ} (hconnect : driver.connect path b.driver = (.ok h, d)) :
    Kept numbering
      { driver := d, connections := b.connections.put id h
        calls := b.calls ++ [.connect path (some h)] } := by
  obtain ⟨hnew, hgiven⟩ := numbering.connect_ok hconnect
  have hfresh : ¬ Opened b.calls h := fun hopened => hnew (hkept.given h hopened)
  have hunclosed : Call.close h ∉ b.calls := fun hclosed =>
    hfresh (hkept.orderly.opened_of_closed hclosed)
  have hunkept : ∀ id', b.connections.get? id' ≠ some h := fun id' hget =>
    hfresh ((hkept.live_iff h).mpr ⟨id', hget⟩).1
  have hopened : ∀ k,
      Opened (b.calls ++ [.connect path (some h)]) k ↔ Opened b.calls k ∨ k = h := by
    intro k
    simp [Opened, eq_comm, exists_or]
  -- What is answered under a path: the new connection, or one that was kept before.
  have hget : ∀ id' k, (b.connections.put id h).get? id' = some k ↔
      (id' = id ∧ k = h) ∨ (id' ≠ id ∧ b.connections.get? id' = some k) := by
    intro id' k
    by_cases hid : id' = id
    · subst hid
      simp [eq_comm]
    · simp [OrderedMap.get?_put_ne _ _ hid, hid]
  refine ⟨⟨OrderedMap.nodup_put hkept.nodup id h, ?_, ?_, hkept.orderly.connect path (some h)⟩, ?_⟩
  · intro id₁ id₂ k h₁ h₂
    rw [hget] at h₁ h₂
    rcases h₁ with ⟨rfl, rfl⟩ | ⟨-, h₁⟩
    · rcases h₂ with ⟨rfl, -⟩ | ⟨-, h₂⟩
      · rfl
      · exact absurd h₂ (hunkept id₂)
    · rcases h₂ with ⟨rfl, rfl⟩ | ⟨-, h₂⟩
      · exact absurd h₁ (hunkept id₁)
      · exact hkept.distinct id₁ id₂ k h₁ h₂
  · intro k
    simp only [Live, hopened, List.mem_append, List.mem_singleton, reduceCtorEq, or_false, hget]
    by_cases hk : k = h
    · subst hk
      exact ⟨fun _ => ⟨id, .inl ⟨rfl, rfl⟩⟩, fun _ => ⟨.inr rfl, hunclosed⟩⟩
    · have hold : Live b.calls k ↔ ∃ id', id' ≠ id ∧ b.connections.get? id' = some k := by
        rw [hkept.live_iff k]
        refine exists_congr fun id' => ⟨fun hid' => ⟨?_, hid'⟩, And.right⟩
        rintro rfl
        rw [hnone] at hid'
        cases hid'
      simpa [hk, Live] using hold
  · intro k hk
    rcases (hopened k).mp hk with hold | rfl
    · have hkeeps := numbering.connect path (hkept.given k hold)
      rw [hconnect] at hkeeps
      exact hkeeps
    · exact hgiven

/-- **Getting a connection keeps the live connections those that are kept.** -/
theorem Kept.obtains (hkept : Kept numbering b) {got : Except Failure Handle}
    (hobtains : Obtains driver site id b got b₁) : Kept numbering b₁ := by
  cases hobtains with
  | cached hget => exact hkept
  | refused hnone => exact hkept
  | @failed path f d hnone hpath hconnect =>
      have hfailed := hkept.failed path
      rw [hconnect] at hfailed
      exact hfailed
  | opened hnone hpath hconnect => exact hkept.opened hnone hconnect

theorem Kept.serves (hkept : Kept numbering b) (hserves : Serves numbering site id b b') :
    Kept numbering b' := by
  have hobtains := obtains_connection driver site id b
  cases hserves with
  | unconnected hconnection =>
      rw [hconnection] at hobtains
      exact hkept.obtains hobtains
  | connected hconnection hworked =>
      rw [hconnection] at hobtains
      exact (hkept.obtains hobtains).worked hobtains.get?_eq hworked

/-- Closing a connection makes it the only one that is no longer live, and no longer kept. -/
theorem Kept.closed (hkept : Kept numbering b) (hget : b.connections.get? id = some h) :
    Kept numbering
      { driver := driver.close h b.driver, connections := b.connections.remove id
        calls := b.calls ++ [.close h] } := by
  have hlive : Live b.calls h := (hkept.live_iff h).mpr ⟨id, hget⟩
  have hopened : ∀ k, Opened (b.calls ++ [.close h]) k ↔ Opened b.calls k := by
    intro k
    simp [Opened]
  have hget' : ∀ id' k, (b.connections.remove id).get? id' = some k ↔
      id' ≠ id ∧ b.connections.get? id' = some k := by
    intro id' k
    by_cases hid : id' = id
    · subst hid
      simp
    · simp [OrderedMap.get?_remove_ne _ hid, hid]
  refine ⟨⟨OrderedMap.nodup_remove hkept.nodup id, ?_, ?_, ?_⟩, ?_⟩
  · intro id₁ id₂ k h₁ h₂
    exact hkept.distinct id₁ id₂ k ((hget' id₁ k).mp h₁).2 ((hget' id₂ k).mp h₂).2
  · intro k
    simp only [Live, hopened, List.mem_append, List.mem_singleton, Call.close.injEq, not_or, hget']
    constructor
    · rintro ⟨hold, hunclosed, hne⟩
      obtain ⟨id', hid'⟩ := (hkept.live_iff k).mp ⟨hold, hunclosed⟩
      refine ⟨id', ?_, hid'⟩
      rintro rfl
      rw [hget] at hid'
      exact hne (Option.some.inj hid').symm
    · rintro ⟨id', hne, hid'⟩
      obtain ⟨hold, hunclosed⟩ := (hkept.live_iff k).mpr ⟨id', hid'⟩
      refine ⟨hold, hunclosed, ?_⟩
      rintro rfl
      exact hne (hkept.distinct id' id k hid' hget)
  · apply hkept.orderly.concat
    intro k hk
    obtain rfl : h = k := by simpa [Call.handle?] using hk
    exact hlive
  · exact fun k hk => numbering.close h (hkept.given k ((hopened k).mp hk))

/-- Closes the connection of one path. -/
def closeOne (driver : Driver δ) (b : Backend δ) (id : String) : Backend δ :=
  match b.connections.get? id with
  | none => b
  | some h =>
    { driver := driver.close h b.driver
      connections := b.connections.remove id
      calls := b.calls ++ [.close h] }

theorem Kept.closeOne (hkept : Kept numbering b) (id : String) :
    Kept numbering (closeOne driver b id) := by
  unfold Backend.closeOne
  cases hget : b.connections.get? id with
  | none => exact hkept
  | some h => exact hkept.closed hget

theorem get?_closeOne (b : Backend δ) (id id' : String) :
    (closeOne driver b id).connections.get? id' =
      if id' = id then none else b.connections.get? id' := by
  unfold closeOne
  by_cases hid : id' = id
  · subst hid
    cases hget : b.connections.get? id' with
    | none => simpa using hget
    | some h => simp
  · cases hget : b.connections.get? id with
    | none => rw [if_neg hid]
    | some h => simp only [OrderedMap.get?_remove_ne _ hid, if_neg hid]

/-- Closing some connections keeps the others. -/
theorem Kept.foldl_closeOne (hkept : Kept numbering b) (ids : List String) :
    Kept numbering (ids.foldl (Backend.closeOne driver) b) ∧
      ∀ id, (ids.foldl (Backend.closeOne driver) b).connections.get? id =
        if id ∈ ids then none else b.connections.get? id := by
  induction ids generalizing b with
  | nil => exact ⟨hkept, by simp⟩
  | cons first ids ih =>
      obtain ⟨hkept', hget⟩ := ih (hkept.closeOne first)
      refine ⟨hkept', fun id => ?_⟩
      rw [List.foldl_cons, hget, get?_closeOne]
      by_cases hid : id ∈ ids <;> by_cases hfirst : id = first <;> simp [hid, hfirst]

/-- **Closing keeps the live connections those that are kept.** -/
theorem Kept.close (hkept : Kept numbering b) (which : Option String) :
    Kept numbering (close driver which b) := by
  cases which with
  | none => exact (hkept.foldl_closeOne b.connections.names).1
  | some id => exact hkept.closeOne id

/-- When all are closed, none is left. -/
theorem Kept.get?_close_none (hkept : Kept numbering b) (id : String) :
    (Backend.close driver none b).connections.get? id = none := by
  have hget := (hkept.foldl_closeOne b.connections.names).2 id
  rw [show Backend.close driver none b =
    b.connections.names.foldl (Backend.closeOne driver) b from rfl, hget]
  by_cases hid : id ∈ b.connections.names
  · rw [if_pos hid]
  · rw [if_neg hid, OrderedMap.get?_eq_none hid]

/-- **A request keeps the live connections those that are kept.** -/
theorem Kept.serve (hkept : Kept numbering b) (site : Site) (maxRows : Option Int)
    (request : Request) : Kept numbering (serve driver site maxRows b request) := by
  cases hpath : request.path? with
  | some id => exact hkept.serves (serves_serve maxRows hpath)
  | none =>
      cases request with
      | close which => exact hkept.close which
      | execute id sql => cases hpath
      | listTables id => cases hpath
      | describe id => cases hpath

theorem Kept.serveAll (hkept : Kept numbering b) (maxRows : Option Int)
    (requests : List (Site × Request)) :
    Kept numbering (serveAll driver maxRows b requests) := by
  induction requests using List.reverseRecOn with
  | nil => exact hkept
  | append_singleton requests request ih =>
      rw [Backend.serveAll, List.foldl_append]
      exact ih.serve request.1 maxRows request.2

theorem kept_new (d : δ) : Kept numbering { driver := d } := by
  refine ⟨⟨List.nodup_nil, nofun, ?_, ?_⟩, ?_⟩
  · intro h
    simp [Live, Opened]
  · intro before c after hsplit
    simp at hsplit
  · rintro h ⟨path, hmem⟩
    cases hmem

end Keeping

/-! ## Whole sequences of requests -/

/-- How a request comes by its connection: there is one, and none is opened; there is none
and the driver has none to give, and none is kept; or one is opened for the path, and kept
under it.  All that is done then is work on that connection. -/
inductive Supplied (driver : Driver δ) (site : Site) (id : String) (b b' : Backend δ) : Prop where
  | again {h : Handle} {made : List Call} (hget : b.connections.get? id = some h)
      (hconnections : b'.connections = b.connections) (hcalls : b'.calls = b.calls ++ made)
      (hmade : ∀ c ∈ made, c.WorksOn h)
  | denied {f : Failure} {made : List Call} (hnone : NoConnection driver site id b f)
      (hconnections : b'.connections = b.connections) (hcalls : b'.calls = b.calls ++ made)
      (hmade : ∀ c ∈ made, ∃ path, c = .connect path none)
  | opened {path : String} {h : Handle} {made : List Call} (hget : b.connections.get? id = none)
      (hgot : ∀ f, ¬ NoConnection driver site id b f)
      (hpath : databasePath site.files site.surroundings id = .ok path)
      (hconnections : b'.connections = b.connections.put id h)
      (hcalls : b'.calls = b.calls ++ .connect path (some h) :: made)
      (hmade : ∀ c ∈ made, c.WorksOn h)

theorem Serves.supplied {numbering : Numbering driver} {site : Site} {id : String}
    {b b' : Backend δ} (hserves : Serves numbering site id b b') :
    Supplied driver site id b b' := by
  have hobtains := obtains_connection driver site id b
  cases hserves with
  | @unconnected f b₁ hconnection =>
      have hnone := (noConnection_of_error hconnection).1
      rw [hconnection] at hobtains
      cases hobtains with
      | refused hget => exact .denied hnone rfl (List.append_nil _).symm nofun
      | @failed path f d hget hpath hconnect => exact .denied hnone rfl rfl (by simp)
  | @connected h b₁ b' hconnection hworked =>
      have hgot : ∀ f, ¬ NoConnection driver site id b f := by
        intro f hnone
        have herror := hnone.connection_eq
        rw [hconnection] at herror
        cases herror
      rw [hconnection] at hobtains
      obtain ⟨made, hcalls, hmade⟩ := hworked.calls
      cases hobtains with
      | cached hget => exact .again hget hworked.connections hcalls hmade
      | @opened path h d hget hpath hconnect =>
          refine .opened hget hgot hpath hworked.connections ?_ hmade
          rw [hcalls, List.append_assoc, List.singleton_append]

/-- **The live connections are those that are kept.**  Take any requests to a new backend,
over a driver that tells its connections apart; any of them may break off, and files may
come and go between them.

Then the connections that were opened and not closed are those that are kept, one under
each path at most; every call of the driver was made on a connection that was live then,
and none was closed twice.  A request on a path whose connection is kept opens none; one
on a path without a file, or whose file the driver does not open, keeps none; any other
opens one for its path and keeps it.  Closing the connection of a path, or all of them,
leaves none there and the others as they are. -/
theorem kept_connections_live (driver : Driver δ) (numbering : Numbering driver)
    (maxRows : Option Int) (d : δ) (requests : List (Site × Request)) :
    let b := serveAll driver maxRows { driver := d } requests
    Accounted b ∧ (∀ h, b.calls.count (.close h) ≤ 1) ∧
      (∀ site request id, request.path? = some id →
        Supplied driver site id b (serve driver site maxRows b request)) ∧
      ∀ site id,
        (serve driver site maxRows b (.close none)).connections.get? id = none ∧
          ∀ id', (serve driver site maxRows b (.close (some id))).connections.get? id' =
            if id' = id then none else b.connections.get? id' := by
  intro b
  have hkept : Kept numbering b := (kept_new d).serveAll maxRows requests
  refine ⟨hkept.toAccounted, hkept.orderly.count_close_le, ?_, ?_⟩
  · intro site request id hpath
    have hserves : Serves numbering site id b _ := serves_serve maxRows hpath
    exact hserves.supplied
  · exact fun site id => ⟨hkept.get?_close_none id, get?_closeOne b id⟩

/-- The driver that refuses to delete anything numbers its connections in turn. -/
def refusingNumbering : Numbering refusing where
  given d h := h < d.length
  connect_ok := by
    intro path d h d' hconnect
    cases hconnect
    simp
  connect := by
    intro d k path hk
    simp only [refusing, List.length_append]
    exact Nat.lt_add_right 1 hk
  execute := by
    intro d k h sql hk
    simp only [refusing]
    split
    · simpa using hk
    · exact hk
  fetchMany _ _ := id
  fetchAll _ := id
  commit := by
    intro d k h hk
    simpa [refusing] using hk
  close _ := id

/-- A statement that was refused leaves its connection open.  The next request uses it,
and a request for a file that is not there keeps none. -/
theorem kept_connections_live_refused :
    let b := serveAll refusing none { driver := [] } [(nowhere, .execute inMemory deletion)]
    let missing := Failure.execution "Database file not found: /gone.db"
    (b.connections.get? inMemory = some 0 ∧
      (serve refusing nowhere none b (.describe inMemory)).connections = b.connections) ∧
      NoConnection refusing nowhere "gone.db" b missing ∧
        (serve refusing nowhere none b (.listTables "gone.db")).connections = b.connections := by
  intro b missing
  have hb : b = _ := congrArg Prod.snd perform_deletion
  have hget : b.connections.get? inMemory = some 0 := by
    rw [hb]
    rfl
  have hnone : NoConnection refusing nowhere "gone.db" b missing := by
    have hunkept : b.connections.get? "gone.db" = none := by
      rw [hb]
      decide
    have hpath : databasePath nowhere.files nowhere.surroundings "gone.db" = .ok "/gone.db" := rfl
    exact .missing hunkept hpath rfl rfl
  obtain ⟨-, -, hsupplied, -⟩ := kept_connections_live refusing refusingNumbering none []
    [(nowhere, .execute inMemory deletion)]
  refine ⟨⟨hget, ?_⟩, hnone, ?_⟩
  · cases hsupplied nowhere (.describe inMemory) inMemory rfl with
    | again hget' hconnections => exact hconnections
    | denied hnone hconnections => exact hconnections
    | opened hget' =>
        rw [hget] at hget'
        cases hget'
  · cases hsupplied nowhere (.listTables "gone.db") "gone.db" rfl with
    | again hget' hconnections => exact hconnections
    | denied hnone hconnections => exact hconnections
    | opened hget' hgot => exact absurd hnone (hgot missing)

end QueryDesk.Sqlite.Backend
