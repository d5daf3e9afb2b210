import QueryDesk.Sqlite.Backend

/-!
# What actions do

An action over the connections may fail at every call of the driver, and what it
did until then stays done.  `perform` says what an action answers and what it
leaves; the equations here take it apart, one for each way of putting actions
together.  With them a call of the backend is two stages: it gets a connection,
which may be open already, and it runs the statement on it.  Each stage is a
relation with one case for every way in which it can end.  For a statement there
are two of them: its courses with all that is answered, and what is left of these
where the rows do not matter.

## Main results

* `obtains_connection`, `connects_connection` — all that getting a connection can do, with
  the calls that are made and without them.
* `course_run` — the courses that running a statement can take.
* `runs_run` — the same for whatever rows.
* `execute_of_unconnected`, `execute_of_unread`, `execute_of_read` — a call fails without a
  connection, or with a statement that is not looked into; any other statement is run.
-/

namespace QueryDesk.Sqlite.Backend

open Execution (Failure Result)

variable {δ α β : Type}

/-! ## Putting actions together -/

@[simp] theorem perform_pure (b : Backend δ) (a : α) :
    perform b (pure a : Action δ α) = (.ok a, b) := rfl

@[simp] theorem perform_throw (b : Backend δ) (f : Failure) :
    perform b (throw f : Action δ α) = (.error f, b) := rfl

@[simp] theorem perform_get (b : Backend δ) :
    perform b (get : Action δ (Backend δ)) = (.ok b, b) := rfl

@[simp] theorem perform_modify (b : Backend δ) (f : Backend δ → Backend δ) :
    perform b (modify f : Action δ PUnit) = (.ok ⟨⟩, f b) := rfl

/-- What comes next is done if nothing failed before it. -/
@[simp] theorem perform_bind (b : Backend δ) (a : Action δ α) (f : α → Action δ β) :
    perform b (a >>= f) =
      match perform b a with
      | (.ok x, b') => perform b' (f x)
      | (.error e, b') => (.error e, b') := by
  unfold perform ExceptT.run StateT.run
  simp only [bind, ExceptT.bind, ExceptT.mk, StateT.bind, ExceptT.bindCont]
  rcases a b with ⟨x | e, b'⟩ <;> rfl

/-- An answer is turned into another one if nothing failed before it. -/
@[simp] theorem perform_map (b : Backend δ) (f : α → β) (a : Action δ α) :
    perform b (f <$> a) = ((perform b a).1.map f, (perform b a).2) := by
  rw [← bind_pure_comp, perform_bind]
  rcases perform b a with ⟨e | x, b'⟩ <;> rfl

/-- A failure is handled after all that was done before it. -/
@[simp] theorem perform_tryCatch (b : Backend δ) (a : Action δ α)
    (handler : Failure → Action δ α) :
    perform b (tryCatch a handler) =
      match perform b a with
      | (.ok x, b') => (.ok x, b')
      | (.error e, b') => perform b' (handler e) := by
  unfold perform ExceptT.run StateT.run
  simp only [tryCatch, tryCatchThe, MonadExceptOf.tryCatch, ExceptT.tryCatch, ExceptT.mk, bind,
    StateT.bind]
  rcases a b with ⟨x | e, b'⟩ <;> rfl

/-- A call changes the driver's state and is written down, whatever is answered. -/
@[simp] theorem perform_callingAs (b : Backend δ) (call : Option α → Call)
    (f : δ → Except Failure α × δ) :
    perform b (callingAs call f) =
      ((f b.driver).1,
        { b with
          driver := (f b.driver).2
          calls := b.calls ++ [call (f b.driver).1.toOption] }) := by
  unfold callingAs
  simp only [perform_bind, perform_get]
  rcases f b.driver with ⟨e | a, d⟩ <;> rfl

@[simp] theorem perform_calling (b : Backend δ) (call : Call) (f : δ → Except Failure α × δ) :
    perform b (calling call f) =
      ((f b.driver).1, { b with driver := (f b.driver).2, calls := b.calls ++ [call] }) :=
  perform_callingAs b _ f

/-! ## Getting a connection -/

/-- All that getting the connection for a path can do, with the calls that are made. -/
inductive Obtains (driver : Driver δ) (site : Site) (id : String) (b : Backend δ) :
    Except Failure Handle → Backend δ → Prop where
  /-- It is open already. -/
  | cached {h : Handle} (hget : b.connections.get? id = some h) : Obtains driver site id b (.ok h) b
  /-- The driver is not asked for it. -/
  | refused {f : Failure} (hget : b.connections.get? id = none) :
      Obtains driver site id b (.error f) b
  | failed {path : String} {f : Failure} {d : δ} (hget : b.connections.get? id = none)
      (hpath : databasePath site.files site.surroundings id = .ok path)
      (hconnect : driver.connect path b.driver = (.error f, d)) :
      Obtains driver site id b (.error f)
        { b with driver := d, calls := b.calls ++ [.connect path none] }
  | opened {path : String} {h : Handle} {d : δ} (hget : b.connections.get? id = none)
      (hpath : databasePath site.files site.surroundings id = .ok path)
      (hconnect : driver.connect path b.driver = (.ok h, d)) :
      Obtains driver site id b (.ok h)
        { driver := d, connections := b.connections.put id h
          calls := b.calls ++ [.connect path (some h)] }

/-- **All that getting a connection can do, with the calls that are made.** -/
theorem obtains_connection (driver : Driver δ) (site : Site) (id : String) (b : Backend δ) :
    Obtains driver site id b (perform b (connection driver site id)).1
      (perform b (connection driver site id)).2 := by
  unfold connection
  simp only [perform_bind, perform_get]
  cases hget : b.connections.get? id with
  | some h => exact .cached hget
  | none =>
      simp only
      cases hpath : databasePath site.files site.surroundings id with
      | error e => exact .refused hget
      | ok path =>
          simp only
          cases databaseExists site.files path with
          | error e => exact .refused hget
          | ok found =>
              cases found with
              | false => exact .refused hget
              | true =>
                  simp only [perform_bind, perform_callingAs, perform_modify, perform_pure]
                  rcases hconnect : driver.connect path b.driver with ⟨f | h, d⟩
                  · exact .failed hget hpath hconnect
                  · exact .opened hget hpath hconnect

/-- What is kept for a path afterwards is the connection that was got. -/
theorem Obtains.get?_eq {driver : Driver δ} {site : Site} {id : String} {b b' : Backend δ}
    {got : Except Failure Handle} (h : Obtains driver site id b got b') :
    b'.connections.get? id = got.toOption := by
  cases h with
  | cached hget => exact hget
  | refused hget => exact hget
  | failed hget hpath hconnect => exact hget
  | opened hget hpath hconnect => exact OrderedMap.get?_put_self _ _ _

/-- All that getting the connection for a path can do, whatever the calls are. -/
inductive Connects (driver : Driver δ) (id : String) (b : Backend δ) :
    Except Failure Handle → Backend δ → Prop where
  /-- It is open already. -/
  | cached {h : Handle} (hget : b.connections.get? id = some h) :
      Connects driver id b (.ok h) b
  /-- The driver is not asked for it. -/
  | refused {f : Failure} (hget : b.connections.get? id = none) :
      Connects driver id b (.error f) b
  | failed {path : String} {f : Failure} {b' : Backend δ}
      (hget : b.connections.get? id = none)
      (hconnect : driver.connect path b.driver = (.error f, b'.driver))
      (hconnections : b'.connections = b.connections) : Connects driver id b (.error f) b'
  | opened {path : String} {h : Handle} {b' : Backend δ}
      (hget : b.connections.get? id = none)
      (hconnect : driver.connect path b.driver = (.ok h, b'.driver))
      (hconnections : b'.connections = b.connections.put id h) : Connects driver id b (.ok h) b'

theorem Obtains.connects {driver : Driver δ} {site : Site} {id : String} {b b' : Backend δ}
    {got : Except Failure Handle} (h : Obtains driver site id b got b') :
    Connects driver id b got b' := by
  cases h with
  | cached hget => exact .cached hget
  | refused hget => exact .refused hget
  | failed hget hpath hconnect => exact .failed hget hconnect rfl
  | opened hget hpath hconnect => exact .opened hget hconnect rfl

/-- **All that getting a connection can do.** -/
theorem connects_connection (driver : Driver δ) (site : Site) (id : String) (b : Backend δ) :
    Connects driver id b (perform b (connection driver site id)).1
      (perform b (connection driver site id)).2 :=
  (obtains_connection driver site id b).connects

/-! ## Running a statement -/

/-- The rows of a statement are asked for: if it is taken for a query and there is a cap,
those that the cap allows and one more. -/
def fetch (driver : Driver δ) (query : Bool) (maxRows : Option Int) (h : Handle) (d : δ) :
    Except Failure (List (List Value)) × δ :=
  match query, maxRows with
  | true, some n => driver.fetchMany h (n + 1) d
  | _, _ => driver.fetchAll h d

/-- The answer to a statement without rows. -/
def changed (driver : Driver δ) (query : Bool) (h : Handle) (d : δ) (c : Cursor) : Result :=
  let affected :=
    if query then (if c.rowCount < 0 then c.totalChanges - driver.totalChanges h d else c.rowCount)
    else max c.rowCount 0
  { columns := [], rows := [], rowsAffected := some affected }

/-- The answer to a query with rows. -/
def found (maxRows : Option Int) (c : Cursor) (rows : List (List Value)) : Result :=
  match maxRows with
  | some n =>
    { columns := c.columns, rows := if n < rows.length then firstRows n rows else rows
      truncated := decide (n < rows.length) }
  | none => { columns := c.columns, rows }

/-- The courses that running a statement can take.  It is executed; what has no rows is
committed; rows are fetched, and committed if the statement is not taken for a query.
Nothing is done after a failure. -/
inductive Course (driver : Driver δ) (query : Bool) (maxRows : Option Int) (h : Handle)
    (sql : String) (d : δ) : Except Failure Result → δ → Prop where
  | failed {f : Failure} {d₁ : δ} (hexecute : driver.execute h sql d = (.error f, d₁)) :
      Course driver query maxRows h sql d (.error f) d₁
  | unchanged {c : Cursor} {f : Failure} {d₁ d₂ : δ}
      (hexecute : driver.execute h sql d = (.ok c, d₁)) (hcolumns : c.columns = [])
      (hcommit : driver.commit h d₁ = (.error f, d₂)) :
      Course driver query maxRows h sql d (.error f) d₂
  | changed {c : Cursor} {d₁ d₂ : δ}
      (hexecute : driver.execute h sql d = (.ok c, d₁)) (hcolumns : c.columns = [])
      (hcommit : driver.commit h d₁ = (.ok (), d₂)) :
      Course driver query maxRows h sql d (.ok (changed driver query h d c)) d₂
  | unfetched {c : Cursor} {f : Failure} {d₁ d₂ : δ}
      (hexecute : driver.execute h sql d = (.ok c, d₁)) (hcolumns : c.columns ≠ [])
      (hfetch : fetch driver query maxRows h d₁ = (.error f, d₂)) :
      Course driver query maxRows h sql d (.error f) d₂
  | found {c : Cursor} {rows : List (List Value)} {d₁ d₂ : δ} (hquery : query = true)
      (hexecute : driver.execute h sql d = (.ok c, d₁)) (hcolumns : c.columns ≠ [])
      (hfetch : fetch driver query maxRows h d₁ = (.ok rows, d₂)) :
      Course driver query maxRows h sql d (.ok (found maxRows c rows)) d₂
  | unwritten {c : Cursor} {rows : List (List Value)} {f : Failure} {d₁ d₂ d₃ : δ}
      (hquery : query = false) (hexecute : driver.execute h sql d = (.ok c, d₁))
      (hcolumns : c.columns ≠ []) (hfetch : driver.fetchAll h d₁ = (.ok rows, d₂))
      (hcommit : driver.commit h d₂ = (.error f, d₃)) :
      Course driver query maxRows h sql d (.error f) d₃
  | written {c : Cursor} {rows : List (List Value)} {d₁ d₂ d₃ : δ}
      (hquery : query = false) (hexecute : driver.execute h sql d = (.ok c, d₁))
      (hcolumns : c.columns ≠ []) (hfetch : driver.fetchAll h d₁ = (.ok rows, d₂))
      (hcommit : driver.commit h d₂ = (.ok (), d₃)) :
      Course driver query maxRows h sql d
        (.ok { columns := c.columns, rows, rowsAffected := some rows.length }) d₃

/-- What an action of the backend answers and leaves is a course of a statement, and the
connections stay open. -/
def CourseOf (driver : Driver δ) (query : Bool) (maxRows : Option Int) (h : Handle) (sql : String)
    (b : Backend δ) (r : Except Failure Result × Backend δ) : Prop :=
  Course driver query maxRows h sql b.driver r.1 r.2.driver ∧ r.2.connections = b.connections

/-- **All that running a query can do.** -/
theorem course_runQuery (driver : Driver δ) (maxRows : Option Int) (h : Handle) (sql : String)
    (b : Backend δ) :
    CourseOf driver true maxRows h sql b (perform b (runQuery driver h maxRows sql)) := by
  unfold runQuery
  simp only [perform_bind, perform_get, perform_calling]
  rcases hexecute : driver.execute h sql b.driver with ⟨f | c, d₁⟩
  · exact ⟨.failed hexecute, rfl⟩
  simp only
  by_cases hcolumns : c.columns = []
  · simp only [hcolumns, List.isEmpty_nil, if_true, perform_bind, perform_calling, perform_pure]
    rcases hcommit : driver.commit h d₁ with ⟨f | _, d₂⟩
    · exact ⟨.unchanged hexecute hcolumns hcommit, rfl⟩
    · exact ⟨.changed hexecute hcolumns hcommit, rfl⟩
  · have hrows : c.columns.isEmpty = false := by simpa using hcolumns
    simp only [hrows, Bool.false_eq_true, if_false]
    cases maxRows with
    | some n =>
        simp only [perform_bind, perform_calling, perform_pure]
        rcases hmany : driver.fetchMany h (n + 1) d₁ with ⟨f | rows, d₂⟩
        · exact ⟨.unfetched hexecute hcolumns hmany, rfl⟩
        · have hfound : Course driver true (some n) h sql b.driver _ d₂ :=
            .found rfl hexecute hcolumns hmany
          refine ⟨?_, rfl⟩
          simpa only [found, decide_eq_true_eq] using hfound
    | none =>
        simp only [perform_bind, perform_calling, perform_pure]
        rcases hall : driver.fetchAll h d₁ with ⟨f | rows, d₂⟩
        · exact ⟨.unfetched hexecute hcolumns hall, rfl⟩
        · exact ⟨.found rfl hexecute hcolumns hall, rfl⟩

/-- **All that running another statement can do.** -/
theorem course_runOther (driver : Driver δ) (maxRows : Option Int) (h : Handle) (sql : String)
    (b : Backend δ) :
    CourseOf driver false maxRows h sql b (perform b (runOther driver h sql)) := by
  unfold runOther
  simp only [perform_bind, perform_calling]
  rcases hexecute : driver.execute h sql b.driver with ⟨f | c, d₁⟩
  · exact ⟨.failed hexecute, rfl⟩
  simp only
  by_cases hcolumns : c.columns = []
  · simp only [hcolumns, List.isEmpty_nil, if_true, perform_bind, perform_calling, perform_pure]
    rcases hcommit : driver.commit h d₁ with ⟨f | _, d₂⟩
    · exact ⟨.unchanged hexecute hcolumns hcommit, rfl⟩
    · exact ⟨.changed hexecute hcolumns hcommit, rfl⟩
  · have hrows : c.columns.isEmpty = false := by simpa using hcolumns
    simp only [hrows, Bool.false_eq_true, if_false, perform_bind, perform_calling, perform_pure]
    rcases hall : driver.fetchAll h d₁ with ⟨f | rows, d₂⟩
    · exact ⟨.unfetched hexecute hcolumns hall, rfl⟩
    · simp only
      rcases hcommit : driver.commit h d₂ with ⟨f | _, d₃⟩
      · exact ⟨.unwritten rfl hexecute hcolumns hall hcommit, rfl⟩
      · exact ⟨.written rfl hexecute hcolumns hall hcommit, rfl⟩

/-- Rows are asked for, some or all of them. -/
inductive Fetches (driver : Driver δ) (h : Handle) (d : δ) :
    Except Failure (List (List Value)) → δ → Prop where
  | many (count : Int) :
      Fetches driver h d (driver.fetchMany h count d).1 (driver.fetchMany h count d).2
  | all : Fetches driver h d (driver.fetchAll h d).1 (driver.fetchAll h d).2

theorem fetches_fetch (driver : Driver δ) (query : Bool) (maxRows : Option Int) (h : Handle)
    (d : δ) :
    Fetches driver h d (fetch driver query maxRows h d).1 (fetch driver query maxRows h d).2 := by
  unfold fetch
  split
  · exact .many _
  · exact .all

/-- All that running a statement can do to the driver, and what it answers then, whatever
the rows are.  A `query` is a statement that is expected to have rows. -/
inductive Runs (driver : Driver δ) (query : Bool) (h : Handle) (sql : String) (d : δ) :
    Except Failure Result → δ → Prop where
  | failed {f : Failure} {d₁ : δ} (hexecute : driver.execute h sql d = (.error f, d₁)) :
      Runs driver query h sql d (.error f) d₁
  | unfetched {c : Cursor} {f : Failure} {d₁ d₂ : δ}
      (hexecute : driver.execute h sql d = (.ok c, d₁))
      (hfetch : Fetches driver h d₁ (.error f) d₂) : Runs driver query h sql d (.error f) d₂
  /-- The rows of a query are fetched, and that is all. -/
  | fetched {c : Cursor} {rows : List (List Value)} {r : Result} {d₁ d₂ : δ}
      (hquery : query = true) (hexecute : driver.execute h sql d = (.ok c, d₁))
      (hcolumns : c.columns ≠ []) (hfetch : Fetches driver h d₁ (.ok rows) d₂)
      (hr : r.columns = c.columns) : Runs driver query h sql d (.ok r) d₂
  | uncommitted {c : Cursor} {f : Failure} {d₁ d₂ d₃ : δ}
      (hexecute : driver.execute h sql d = (.ok c, d₁))
      (hfetch : d₂ = d₁ ∨ ∃ rows, Fetches driver h d₁ (.ok rows) d₂)
      (hcommit : driver.commit h d₂ = (.error f, d₃)) : Runs driver query h sql d (.error f) d₃
  | committed {c : Cursor} {r : Result} {d₁ d₂ d₃ : δ}
      (hexecute : driver.execute h sql d = (.ok c, d₁))
      (hfetch : d₂ = d₁ ∨ ∃ rows, Fetches driver h d₁ (.ok rows) d₂)
      (hcommit : driver.commit h d₂ = (.ok (), d₃)) (hr : query = false ∨ r.columns = []) :
      Runs driver query h sql d (.ok r) d₃

/-- What an action of the backend answers and leaves is a run of a statement, and the
connections stay open. -/
def RunsAs (driver : Driver δ) (query : Bool) (h : Handle) (sql : String) (b : Backend δ)
    (r : Except Failure Result × Backend δ) : Prop :=
  Runs driver query h sql b.driver r.1 r.2.driver ∧ r.2.connections = b.connections

theorem Course.runs {driver : Driver δ} {query : Bool} {maxRows : Option Int} {h : Handle}
    {sql : String} {d d' : δ} {answer : Except Failure Result}
    (hcourse : Course driver query maxRows h sql d answer d') :
    Runs driver query h sql d answer d' := by
  cases hcourse with
  | failed hexecute => exact .failed hexecute
  | unchanged hexecute hcolumns hcommit => exact .uncommitted hexecute (.inl rfl) hcommit
  | changed hexecute hcolumns hcommit => exact .committed hexecute (.inl rfl) hcommit (.inr rfl)
  | @unfetched c f d₁ d₂ hexecute hcolumns hfetch =>
      have hfetches := fetches_fetch driver query maxRows h d₁
      rw [hfetch] at hfetches
      exact .unfetched hexecute hfetches
  | @found c rows d₁ d₂ hquery hexecute hcolumns hfetch =>
      have hfetches := fetches_fetch driver query maxRows h d₁
      rw [hfetch] at hfetches
      have hr : (Backend.found maxRows c rows).columns = c.columns := by cases maxRows <;> rfl
      exact .fetched hquery hexecute hcolumns hfetches hr
  | @unwritten c rows f d₁ d₂ d₃ hquery hexecute hcolumns hfetch hcommit =>
      have hfetches : Fetches driver h d₁ _ _ := .all
      rw [hfetch] at hfetches
      exact .uncommitted hexecute (.inr ⟨rows, hfetches⟩) hcommit
  | @written c rows d₁ d₂ d₃ hquery hexecute hcolumns hfetch hcommit =>
      have hfetches : Fetches driver h d₁ _ _ := .all
      rw [hfetch] at hfetches
      exact .committed hexecute (.inr ⟨rows, hfetches⟩) hcommit (.inl hquery)

/-! ## A whole call -/

/-- Runs a statement as what it is taken for. -/
def run (driver : Driver δ) (query : Bool) (maxRows : Option Int) (h : Handle) (sql : String) :
    Action δ Result :=
  if query then runQuery driver h maxRows sql else runOther driver h sql

/-- **All that running a statement can do.** -/
theorem course_run (driver : Driver δ) (query : Bool) (maxRows : Option Int) (h : Handle)
    (sql : String) (b : Backend δ) :
    CourseOf driver query maxRows h sql b (perform b (run driver query maxRows h sql)) := by
  cases query with
  | true => exact course_runQuery driver maxRows h sql b
  | false => exact course_runOther driver maxRows h sql b

theorem runs_run (driver : Driver δ) (query : Bool) (maxRows : Option Int) (h : Handle)
    (sql : String) (b : Backend δ) :
    RunsAs driver query h sql b (perform b (run driver query maxRows h sql)) := by
  obtain ⟨hcourse, hconnections⟩ := course_run driver query maxRows h sql b
  exact ⟨hcourse.runs, hconnections⟩

section Call

variable {driver : Driver δ} {site : Site} {maxRows : Option Int} {id sql : String}
  {b b₁ : Backend δ} {h : Handle}

/-- Without a connection nothing is run. -/
theorem execute_of_unconnected {f : Failure}
    (hconnection : perform b (connection driver site id) = (.error f, b₁)) :
    perform b (execute driver site maxRows id sql) = (.error f, b₁) := by
  unfold execute
  rw [perform_bind, hconnection]

/-- A statement that is not looked into is not run. -/
theorem execute_of_unread {e : Statement.Excess}
    (hconnection : perform b (connection driver site id) = (.ok h, b₁))
    (hread : site.returnsRows sql = .error e) :
    perform b (execute driver site maxRows id sql) = (.error (excessFailure e), b₁) := by
  unfold execute
  rw [perform_bind, hconnection]
  simp only [hread, perform_throw]

/-- Any other statement is run on the connection, and a failure of the driver is told as a
failed execution. -/
theorem execute_of_read {query : Bool}
    (hconnection : perform b (connection driver site id) = (.ok h, b₁))
    (hread : site.returnsRows sql = .ok query) :
    perform b (execute driver site maxRows id sql) =
      ((perform b₁ (run driver query maxRows h sql)).1.mapError driverFailure,
        (perform b₁ (run driver query maxRows h sql)).2) := by
  unfold execute
  rw [perform_bind, hconnection]
  simp only [hread, perform_tryCatch, perform_throw, run]
  rcases perform b₁ (if query = true then runQuery driver h maxRows sql
    else runOther driver h sql) with ⟨f | r, b₂⟩
  · rfl
  · rfl

end Call

end QueryDesk.Sqlite.Backend
