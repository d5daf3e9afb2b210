import QueryDesk.Proofs.Execution.Messages
import QueryDesk.Proofs.Sqlite.Transactions

/-!
# Calls that fail

A driver may fail at every call: when a connection is opened, when a cursor is made,
when the statement is executed, when its rows are fetched and when it is committed.  A
failure on an open connection is told as a failed execution with the driver's text.  A
connection that cannot be opened is told as the driver has it, since the connection is
got before failures are looked after; and so is what keeps the driver from being asked at
all.

## Main results

* `run_error_iff` — running a statement fails where a call of the driver fails.
* `noConnection_of_error` — why there is no connection.
* `execute_error_iff` — why a call fails, and what it answers then.
* `driver_failures_told` — the same, and when a driver's own error gets out.
* `unopened_told_as_is` — a connection that cannot be opened.
-/

namespace QueryDesk.Sqlite

open Execution (Failure Result genericMessage)

variable {δ : Type}

/-- The driver with cursors: one is made before a statement is executed with it, and that
may fail as well. -/
def Driver.withCursors (cursor : Handle → δ → Except Failure Unit × δ) (driver : Driver δ) :
    Driver δ :=
  { driver with
    execute := fun h sql d =>
      match cursor h d with
      | (.error f, d₁) => (.error f, d₁)
      | (.ok (), d₁) => driver.execute h sql d₁ }

namespace Backend

/-! ## On an open connection -/

/-- A call of the driver fails while a statement is run. -/
inductive Fails (cursor : Handle → δ → Except Failure Unit × δ) (driver : Driver δ) (query : Bool)
    (maxRows : Option Int) (h : Handle) (sql : String) (d : δ) (f : Failure) : Prop where
  | cursor {d₁ : δ} (hcursor : cursor h d = (.error f, d₁))
  | execute {d₁ d₂ : δ} (hcursor : cursor h d = (.ok (), d₁))
      (hexecute : driver.execute h sql d₁ = (.error f, d₂))
  | fetch {c : Cursor} {d₁ d₂ d₃ : δ} (hcursor : cursor h d = (.ok (), d₁))
      (hexecute : driver.execute h sql d₁ = (.ok c, d₂)) (hcolumns : c.columns ≠ [])
      (hfetch : fetch driver query maxRows h d₂ = (.error f, d₃))
  /-- A statement without rows is committed. -/
  | commit {c : Cursor} {d₁ d₂ d₃ : δ} (hcursor : cursor h d = (.ok (), d₁))
      (hexecute : driver.execute h sql d₁ = (.ok c, d₂)) (hcolumns : c.columns = [])
      (hcommit : driver.commit h d₂ = (.error f, d₃))
  /-- A statement with rows that is not taken for a query is committed behind them. -/
  | commitFetched {c : Cursor} {rows : List (List Value)} {d₁ d₂ d₃ d₄ : δ}
      (hquery : query = false) (hcursor : cursor h d = (.ok (), d₁))
      (hexecute : driver.execute h sql d₁ = (.ok c, d₂)) (hcolumns : c.columns ≠ [])
      (hfetch : driver.fetchAll h d₂ = (.ok rows, d₃))
      (hcommit : driver.commit h d₃ = (.error f, d₄))

section Run

variable {cursor : Handle → δ → Except Failure Unit × δ} {driver : Driver δ} {query : Bool}
  {maxRows : Option Int} {h : Handle} {sql : String} {d d' : δ} {f : Failure}

/-- A cursor cannot be made, or one is made and the statement cannot be executed. -/
theorem withCursors_execute_error {d₁ : δ}
    (hexecute : (driver.withCursors cursor).execute h sql d = (.error f, d₁)) :
    cursor h d = (.error f, d₁) ∨
      ∃ d₀, cursor h d = (.ok (), d₀) ∧ driver.execute h sql d₀ = (.error f, d₁) := by
  unfold Driver.withCursors at hexecute
  rcases hcursor : cursor h d with ⟨f' | _, d₀⟩
  · simp only [hcursor] at hexecute
    cases hexecute
    exact .inl rfl
  · simp only [hcursor] at hexecute
    exact .inr ⟨d₀, rfl, hexecute⟩

theorem withCursors_execute_ok {c : Cursor} {d₁ : δ}
    (hexecute : (driver.withCursors cursor).execute h sql d = (.ok c, d₁)) :
    ∃ d₀, cursor h d = (.ok (), d₀) ∧ driver.execute h sql d₀ = (.ok c, d₁) := by
  unfold Driver.withCursors at hexecute
  rcases hcursor : cursor h d with ⟨f' | _, d₀⟩
  · simp only [hcursor] at hexecute
    cases hexecute
  · simp only [hcursor] at hexecute
    exact ⟨d₀, rfl, hexecute⟩

/-- A statement fails only if a call of the driver does. -/
theorem Course.fails
    (hcourse : Course (driver.withCursors cursor) query maxRows h sql d (.error f) d') :
    Fails cursor driver query maxRows h sql d f := by
  cases hcourse with
  | failed hexecute =>
      rcases withCursors_execute_error hexecute with hcursor | ⟨d₀, hcursor, hexecute⟩
      · exact .cursor hcursor
      · exact .execute hcursor hexecute
  | unchanged hexecute hcolumns hcommit =>
      obtain ⟨d₀, hcursor, hexecute⟩ := withCursors_execute_ok hexecute
      exact .commit hcursor hexecute hcolumns hcommit
  | unfetched hexecute hcolumns hfetch =>
      obtain ⟨d₀, hcursor, hexecute⟩ := withCursors_execute_ok hexecute
      exact .fetch hcursor hexecute hcolumns hfetch
  | unwritten hquery hexecute hcolumns hfetch hcommit =>
      obtain ⟨d₀, hcursor, hexecute⟩ := withCursors_execute_ok hexecute
      exact .commitFetched hquery hcursor hexecute hcolumns hfetch hcommit

/-- Nothing is done behind a call that fails. -/
theorem Fails.run_eq {b : Backend δ} (hfails : Fails cursor driver query maxRows h sql b.driver f) :
    (perform b (run (driver.withCursors cursor) query maxRows h sql)).1 = .error f := by
  cases hfails with
  | cursor hcursor =>
      cases query <;> simp [run, runQuery, runOther, Driver.withCursors, hcursor]
  | execute hcursor hexecute =>
      cases query <;> simp [run, runQuery, runOther, Driver.withCursors, hcursor, hexecute]
  | fetch hcursor hexecute hcolumns hfetch =>
      cases query with
      | false =>
          have hall : driver.fetchAll h _ = _ := hfetch
          simp [run, runOther, Driver.withCursors, hcursor, hexecute, hcolumns, hall]
      | true =>
          cases maxRows with
          | none =>
              have hall : driver.fetchAll h _ = _ := hfetch
              simp [run, Except.map, runQuery, Driver.withCursors, hcursor, hexecute, hcolumns,
                hall]
          | some n =>
              have hmany : driver.fetchMany h (n + 1) _ = _ := hfetch
              simp [run, Except.map, runQuery, Driver.withCursors, hcursor, hexecute, hcolumns,
                hmany]
  | commit hcursor hexecute hcolumns hcommit =>
      cases query <;>
        simp [run, Except.map, runQuery, runOther, Driver.withCursors, hcursor, hexecute, hcolumns,
          hcommit]
  | commitFetched hquery hcursor hexecute hcolumns hfetch hcommit =>
      subst hquery
      simp [run, Except.map, runOther, Driver.withCursors, hcursor, hexecute, hcolumns, hfetch,
        hcommit]

/-- **Running a statement fails where a call of the driver fails.** -/
theorem run_error_iff {b : Backend δ} :
    (perform b (run (driver.withCursors cursor) query maxRows h sql)).1 = .error f ↔
      Fails cursor driver query maxRows h sql b.driver f := by
  refine ⟨?_, Fails.run_eq⟩
  intro hrun
  obtain ⟨hcourse, -⟩ := course_run (driver.withCursors cursor) query maxRows h sql b
  rw [hrun] at hcourse
  exact hcourse.fails

end Run

/-! ## Without a connection -/

/-- The connection for a path is not open yet, and the driver fails to open it. -/
structure FailsToOpen (driver : Driver δ) (site : Site) (id : String) (b : Backend δ)
    (f : Failure) : Prop where
  unopened : b.connections.get? id = none
  refused : ∃ path d, databasePath site.files site.surroundings id = .ok path ∧
    databaseExists site.files path = .ok true ∧ driver.connect path b.driver = (.error f, d)

/-- Why there is no connection for a path. -/
inductive NoConnection (driver : Driver δ) (site : Site) (id : String) (b : Backend δ)
    (f : Failure) : Prop where
  | misplaced {e : Storage.PathError} (hget : b.connections.get? id = none)
      (hpath : databasePath site.files site.surroundings id = .error e) (hf : f = pathFailure e)
  | hidden {path : String} {e : Storage.SystemError} (hget : b.connections.get? id = none)
      (hpath : databasePath site.files site.surroundings id = .ok path)
      (hexists : databaseExists site.files path = .error e) (hf : f = systemFailure path e)
  | missing {path : String} (hget : b.connections.get? id = none)
      (hpath : databasePath site.files site.surroundings id = .ok path)
      (hexists : databaseExists site.files path = .ok false)
      (hf : f = Failure.execution ("Database file not found: " ++ path))
  | unopened (hopen : FailsToOpen driver site id b f)

section Connection

variable {driver : Driver δ} {site : Site} {id : String} {b b₁ : Backend δ} {f : Failure}

/-- **Why there is no connection.**  What was open before stays open. -/
theorem noConnection_of_error
    (hconnection : perform b (connection driver site id) = (.error f, b₁)) :
    NoConnection driver site id b f ∧ b₁.connections = b.connections := by
  unfold connection at hconnection
  simp only [perform_bind, perform_get] at hconnection
  cases hget : b.connections.get? id with
  | some h =>
      simp only [hget, perform_pure] at hconnection
      cases hconnection
  | none =>
      simp only [hget] at hconnection
      cases hpath : databasePath site.files site.surroundings id with
      | error e =>
          simp only [hpath, perform_throw] at hconnection
          cases hconnection
          exact ⟨.misplaced hget hpath rfl, rfl⟩
      | ok path =>
          simp only [hpath] at hconnection
          cases hexists : databaseExists site.files path with
          | error e =>
              simp only [hexists, perform_throw] at hconnection
              cases hconnection
              exact ⟨.hidden hget hpath hexists rfl, rfl⟩
          | ok found =>
              cases found with
              | false =>
                  simp only [hexists, perform_throw] at hconnection
                  cases hconnection
                  exact ⟨.missing hget hpath hexists rfl, rfl⟩
              | true =>
                  simp only [hexists, perform_bind, perform_callingAs, perform_modify,
                    perform_pure] at hconnection
                  rcases hconnect : driver.connect path b.driver with ⟨f' | h, d⟩
                  · simp only [hconnect] at hconnection
                    cases hconnection
                    exact ⟨.unopened ⟨hget, path, d, hpath, hexists, hconnect⟩, rfl⟩
                  · simp only [hconnect] at hconnection
                    cases hconnection

theorem NoConnection.connection_eq (hnone : NoConnection driver site id b f) :
    (perform b (connection driver site id)).1 = .error f := by
  unfold connection
  cases hnone with
  | misplaced hget hpath hf => simp [hget, hpath, hf]
  | hidden hget hpath hexists hf => simp [hget, hpath, hexists, hf]
  | missing hget hpath hexists hf => simp [hget, hpath, hexists, hf]
  | unopened hopen =>
      obtain ⟨hget, path, d, hpath, hexists, hconnect⟩ := hopen
      simp [hget, hpath, hexists, hconnect]

/-- The driver's own error is the reason only if it failed to open the connection. -/
theorem NoConnection.failsToOpen (hnone : NoConnection driver site id b f)
    (herror : f.kind.isDriverError = true) : FailsToOpen driver site id b f := by
  cases hnone with
  | @misplaced e hget hpath hf =>
      rw [hf] at herror
      cases e <;> cases herror
  | hidden hget hpath hexists hf =>
      rw [hf] at herror
      cases herror
  | missing hget hpath hexists hf =>
      rw [hf] at herror
      cases herror
  | unopened hopen => exact hopen

end Connection

/-! ## Whole calls -/

/-- How an error of the driver is told: as a failed execution with its text, without the
blanks around it, or a generic text if nothing is left. -/
def told (f : Failure) : Failure :=
  ⟨.execution, if Text.isBlankText f.text then genericMessage else Text.strip f.text, false⟩

theorem driverFailure_eq_told {f : Failure} (herror : f.kind.isDriverError = true) :
    driverFailure f = told f := by
  have htext := Execution.Failure.text_execution f.text
  rw [Execution.executionMessage_eq] at htext
  rw [driverFailure, if_pos herror, told, ← htext]
  rfl

/-- Why a call fails, and what it answers then. -/
inductive CallFails (cursor : Handle → δ → Except Failure Unit × δ) (driver : Driver δ)
    (site : Site) (maxRows : Option Int) (id sql : String) (b : Backend δ) (f : Failure) :
    Prop where
  /-- The driver has an error on an open connection. -/
  | told {h : Handle} {b₁ : Backend δ} {query : Bool} {g : Failure}
      (hconnection : perform b (connection driver site id) = (.ok h, b₁))
      (hread : site.returnsRows sql = .ok query)
      (hfails : Fails cursor driver query maxRows h sql b₁.driver g)
      (herror : g.kind.isDriverError = true) (hf : f = told g)
  /-- The driver fails otherwise on an open connection. -/
  | passed {h : Handle} {b₁ : Backend δ} {query : Bool}
      (hconnection : perform b (connection driver site id) = (.ok h, b₁))
      (hread : site.returnsRows sql = .ok query)
      (hfails : Fails cursor driver query maxRows h sql b₁.driver f)
      (herror : f.kind.isDriverError = false)
  | unread {h : Handle} {b₁ : Backend δ} {e : Statement.Excess}
      (hconnection : perform b (connection driver site id) = (.ok h, b₁))
      (hread : site.returnsRows sql = .error e) (hf : f = excessFailure e)
  | unconnected (hnone : NoConnection driver site id b f)

section Call

variable {cursor : Handle → δ → Except Failure Unit × δ} {driver : Driver δ} {site : Site}
  {maxRows : Option Int} {id sql : String} {b : Backend δ} {f : Failure}

/-- **Why a call fails, and what it answers then.** -/
theorem execute_error_iff :
    (perform b (execute (driver.withCursors cursor) site maxRows id sql)).1 = .error f ↔
      CallFails cursor driver site maxRows id sql b f := by
  -- A cursor is not made before there is a connection.
  have hsame : connection (driver.withCursors cursor) site id = connection driver site id := rfl
  refine ⟨?_, ?_⟩
  · intro herror
    rcases hconnection : perform b (connection driver site id) with ⟨f' | h, b₁⟩
    · rw [execute_of_unconnected (hsame ▸ hconnection)] at herror
      cases herror
      exact .unconnected (noConnection_of_error hconnection).1
    cases hread : site.returnsRows sql with
    | error e =>
        rw [execute_of_unread (hsame ▸ hconnection) hread] at herror
        cases herror
        exact .unread hconnection hread rfl
    | ok query =>
        rw [execute_of_read (hsame ▸ hconnection) hread] at herror
        rcases hrun : (perform b₁ (run (driver.withCursors cursor) query maxRows h sql)).1
          with g | r
        · rw [hrun] at herror
          obtain rfl := Except.error.inj herror
          have hfails := run_error_iff.mp hrun
          cases hkind : g.kind.isDriverError with
          | true => exact .told hconnection hread hfails hkind (driverFailure_eq_told hkind)
          | false =>
              have hpassed : driverFailure g = g := by
                rw [driverFailure, if_neg (by simp [hkind])]
              rw [hpassed]
              exact .passed hconnection hread hfails hkind
        · rw [hrun] at herror
          cases herror
  · intro hfails
    cases hfails with
    | told hconnection hread hfails herror hf =>
        rw [execute_of_read (hsame ▸ hconnection) hread, hfails.run_eq, hf,
          ← driverFailure_eq_told herror]
        rfl
    | passed hconnection hread hfails herror =>
        rw [execute_of_read (hsame ▸ hconnection) hread, hfails.run_eq]
        simp [Except.mapError, driverFailure, herror]
    | unread hconnection hread hf =>
        rw [execute_of_unread (hsame ▸ hconnection) hread, hf]
    | unconnected hnone =>
        have hconnection : perform b (connection driver site id) = (.error f, _) :=
          Prod.ext hnone.connection_eq rfl
        rw [execute_of_unconnected (hsame ▸ hconnection)]

/-- **What a call answers, whatever the driver fails at.**  A call fails for these reasons
and no others: there is no connection, the statement is not looked into, or the driver
fails while the statement is run, when a cursor is made, when it is executed, when its
rows are fetched or when it is committed.  In the last case an error of the driver is told
as a failed execution with the driver's text.

So the driver's own error gets out only if the driver failed to open the connection.  It
does then; nothing is open for the path afterwards, and all other connections are as they
were. -/
theorem driver_failures_told (cursor : Handle → δ → Except Failure Unit × δ) (driver : Driver δ)
    (site : Site) (maxRows : Option Int) (id sql : String) (b : Backend δ) :
    let answered := perform b (execute (driver.withCursors cursor) site maxRows id sql)
    (∀ f, answered.1 = .error f ↔ CallFails cursor driver site maxRows id sql b f) ∧
      (∀ f, answered.1 = .error f → f.kind.isDriverError = true →
        FailsToOpen driver site id b f) ∧
      ∀ f, FailsToOpen driver site id b f → answered.1 = .error f ∧
        answered.2.connections = b.connections ∧ answered.2.connections.get? id = none := by
  intro answered
  refine ⟨fun f => execute_error_iff, ?_, ?_⟩
  · intro f herror hkind
    cases execute_error_iff.mp herror with
    | told hconnection hread hfails herror hf =>
        rw [hf] at hkind
        cases hkind
    | passed hconnection hread hfails herror =>
        rw [herror] at hkind
        cases hkind
    | unread hconnection hread hf =>
        rw [hf] at hkind
        cases hkind
    | unconnected hnone => exact hnone.failsToOpen hkind
  · intro f hopen
    have hnone : NoConnection driver site id b f := .unopened hopen
    have hconnection : perform b (connection (driver.withCursors cursor) site id) = (.error f, _) :=
      Prod.ext hnone.connection_eq rfl
    have hconnections := (noConnection_of_error hconnection).2
    have hanswered : answered = (.error f, _) := execute_of_unconnected hconnection
    rw [hanswered]
    refine ⟨rfl, hconnections, ?_⟩
    rw [hconnections]
    exact hopen.unopened

end Call

/-! ## A path that cannot be opened -/

/-- What a driver says of a directory. -/
def cannotOpen : Failure := ⟨.operational, "unable to open database file", false⟩

/-- A driver that opens nothing. -/
def opensNothing : Driver Unit where
  connect _ d := (.error cannotOpen, d)
  totalChanges _ _ := 0
  execute _ _ d := (.ok {}, d)
  fetchMany _ _ d := (.ok [], d)
  fetchAll _ d := (.ok [], d)
  commit _ d := (.ok (), d)
  close _ d := d

/-- A cursor can always be made. -/
def anyCursor (_ : Handle) (d : δ) : Except Failure Unit × δ := (.ok (), d)

/-- The root directory is there, and cannot be opened; a statement that is refused is told
as a failed execution. -/
theorem driver_failures_told_root :
    let opening := perform { driver := () }
      (execute (opensNothing.withCursors anyCursor) nowhere none "/" deletion)
    let sending := perform { driver := [] }
      (execute (refusing.withCursors anyCursor) nowhere none inMemory deletion)
    (opening.1 = .error cannotOpen ∧ opening.2.connections = []) ∧
      sending.1 = .error ⟨.execution, "FOREIGN KEY constraint failed", false⟩ := by
  have hopen : FailsToOpen opensNothing nowhere "/" { driver := () } cannotOpen :=
    ⟨rfl, "/", (), rfl, rfl, rfl⟩
  obtain ⟨herror, hconnections, -⟩ := (driver_failures_told anyCursor opensNothing nowhere none
    "/" deletion { driver := () }).2.2 cannotOpen hopen
  refine ⟨⟨herror, hconnections⟩, ?_⟩
  obtain ⟨query, hread⟩ := returnsRows_deletion
  have hfails : Fails anyCursor refusing query none 0 deletion [false]
      ⟨.integrity, "FOREIGN KEY constraint failed", false⟩ := .execute rfl rfl
  apply ((driver_failures_told anyCursor refusing nowhere none inMemory deletion
    { driver := [] }).1 _).mpr
  exact .told perform_connection_refusing hread hfails rfl (by decide +kernel)

/-- **A connection that cannot be opened is told as the driver has it**, and not as a failed
execution; and a path that no file can have is not told as one either. -/
theorem unopened_told_as_is :
    (perform { driver := () } (execute opensNothing nowhere none "/" deletion)).1 =
        .error cannotOpen ∧
      cannotOpen.kind.isDriverError = true ∧
      (perform { driver := () } (execute opensNothing nowhere none "a\x00b" deletion)).1 =
        .error ⟨.value, Storage.PathError.nulCharacter.message, true⟩ := by
  refine ⟨?_, ?_, ?_⟩
  · rfl
  · rfl
  · rfl

end Backend

end QueryDesk.Sqlite
