import QueryDesk.Proofs.Sqlite.Failing

/-!
# Requests and their connections

A request on a path gets a connection and works on it, and it may break off at any call
of the driver.  What it leaves is said here without regard to its answer: it got no
connection, or it got one and worked on that one alone.  One kind of request asks for its
connection twice, and gets the same one.

The calls of the driver that were written down tell which connections are live: those
that were opened and not closed since.  A driver may name its connections as it likes,
as long as it does not use a name again (`Numbering`).

## Main results

* `Orderly.count_close_le` — no connection is closed twice if every call is made on a live one.
* `actsOn_run`, `actsOn_listing`, `actsOn_columnsOf` — with a connection, a request works
  on it alone.
* `serves_serve` — all that a request on a path can do.
-/

namespace QueryDesk.Sqlite

open Execution (Failure Result)

variable {δ : Type}

/-! ## Calls of the driver -/

/-- The connection that a call is made on.  Opening one is done on none. -/
def Call.handle? : Call → Option Handle
  | .connect _ _ => none
  | .execute h _ => some h
  | .fetchMany h _ => some h
  | .fetchAll h => some h
  | .commit h => some h
  | .close h => some h

/-- A call is made on a connection and does not close it. -/
def Call.WorksOn (h : Handle) (c : Call) : Prop := c.handle? = some h ∧ c ≠ .close h

/-- A connection was opened. -/
def Opened (calls : List Call) (h : Handle) : Prop := ∃ path, Call.connect path (some h) ∈ calls

/-- A connection was opened, and is not closed. -/
def Live (calls : List Call) (h : Handle) : Prop := Opened calls h ∧ Call.close h ∉ calls

/-- Every call was made on a connection that was live then. -/
def Orderly (calls : List Call) : Prop :=
  ∀ before c after, calls = before ++ c :: after → ∀ h, c.handle? = some h → Live before h

section Calls

variable {calls made : List Call} {c : Call} {h k : Handle}

theorem opened_append : Opened (calls ++ made) k ↔ Opened calls k ∨ Opened made k := by
  simp only [Opened, List.mem_append, exists_or]

theorem not_opened_of_works (hmade : ∀ c ∈ made, c.WorksOn h) : ¬ Opened made k := by
  rintro ⟨path, hmem⟩
  cases (hmade _ hmem).1

/-- Work on a connection opens none and closes none. -/
theorem live_append_works (hmade : ∀ c ∈ made, c.WorksOn h) :
    Live (calls ++ made) k ↔ Live calls k := by
  have hclose : Call.close k ∉ made := by
    intro hmem
    obtain ⟨hhandle, hne⟩ := hmade _ hmem
    obtain rfl : k = h := by simpa [Call.handle?] using hhandle
    exact hne rfl
  simp only [Live, opened_append, not_opened_of_works hmade, or_false, List.mem_append, hclose]

theorem Orderly.concat (horderly : Orderly calls)
    (hlive : ∀ h, c.handle? = some h → Live calls h) : Orderly (calls ++ [c]) := by
  intro before c' after hsplit h hh
  rcases List.eq_nil_or_concat after with rfl | ⟨after', last, rfl⟩
  · obtain ⟨rfl, hlast⟩ := List.append_inj' hsplit rfl
    obtain rfl := List.singleton_inj.mp hlast
    exact hlive h hh
  · rw [List.concat_eq_append, ← List.cons_append, ← List.append_assoc] at hsplit
    obtain ⟨hcalls, -⟩ := List.append_inj' hsplit rfl
    exact horderly before c' after' hcalls h hh

/-- Opening a connection needs none that is live. -/
theorem Orderly.connect (horderly : Orderly calls) (path : String) (got : Option Handle) :
    Orderly (calls ++ [.connect path got]) := by
  apply horderly.concat
  intro h hh
  cases hh

theorem Orderly.of_append (horderly : Orderly (calls ++ made)) : Orderly calls := by
  intro before c after hsplit
  exact horderly before c (after ++ made) (by rw [hsplit]; simp)

theorem Orderly.append_works (horderly : Orderly calls) (hlive : Live calls h)
    (hmade : ∀ c ∈ made, c.WorksOn h) : Orderly (calls ++ made) := by
  induction made using List.reverseRecOn with
  | nil =>
      rw [List.append_nil]
      exact horderly
  | append_singleton made c ih =>
      have hearlier : ∀ c ∈ made, c.WorksOn h := fun c hc => hmade c (List.mem_append_left _ hc)
      rw [← List.append_assoc]
      apply (ih hearlier).concat
      intro k hk
      obtain rfl : h = k := by
        have hhandle := (hmade c (by simp)).1
        rw [hk] at hhandle
        exact (Option.some.inj hhandle).symm
      exact (live_append_works hearlier).mpr hlive

/-- A connection that was closed had been opened before. -/
theorem Orderly.opened_of_closed (horderly : Orderly calls) (hclosed : Call.close h ∈ calls) :
    Opened calls h := by
  obtain ⟨before, after, hsplit⟩ := List.append_of_mem hclosed
  have hopened := (horderly before _ after hsplit h rfl).1
  rw [hsplit]
  exact opened_append.mpr (.inl hopened)

/-- **No connection is closed twice**, since the second time it would not be live. -/
theorem Orderly.count_close_le (horderly : Orderly calls) (h : Handle) :
    calls.count (.close h) ≤ 1 := by
  induction calls using List.reverseRecOn with
  | nil => simp
  | append_singleton calls c ih =>
      rw [List.count_append]
      by_cases hc : c = .close h
      · subst hc
        have hlive := horderly calls _ [] rfl h rfl
        rw [List.count_eq_zero.mpr hlive.2]
        simp
      · rw [List.count_singleton, if_neg (by simpa using hc)]
        exact ih horderly.of_append

end Calls

/-! ## Drivers that tell connections apart -/

/-- A driver gives every connection a handle of its own: a new one is none that was given
before, whatever was done in between. -/
structure Numbering (driver : Driver δ) where
  /-- The handles that were given so far. -/
  given : δ → Handle → Prop
  connect_ok : ∀ {path d h d'}, driver.connect path d = (.ok h, d') → ¬ given d h ∧ given d' h
  connect : ∀ {d k} path, given d k → given (driver.connect path d).2 k
  execute : ∀ {d k} h sql, given d k → given (driver.execute h sql d).2 k
  fetchMany : ∀ {d k} h n, given d k → given (driver.fetchMany h n d).2 k
  fetchAll : ∀ {d k} h, given d k → given (driver.fetchAll h d).2 k
  commit : ∀ {d k} h, given d k → given (driver.commit h d).2 k
  close : ∀ {d k} h, given d k → given (driver.close h d) k

namespace Backend

variable {driver : Driver δ} (numbering : Numbering driver)

/-! ## Work on one connection -/

/-- Between two states only work on one connection was done. -/
structure Worked (h : Handle) (b b' : Backend δ) : Prop where
  connections : b'.connections = b.connections
  calls : ∃ made, b'.calls = b.calls ++ made ∧ ∀ c ∈ made, c.WorksOn h
  given : ∀ k, numbering.given b.driver k → numbering.given b'.driver k

/-- An action does nothing but work on one connection. -/
def ActsOn {α : Type} (h : Handle) (a : Action δ α) : Prop :=
  ∀ b, Worked numbering h b (perform b a).2

section Acting

variable {numbering} {α β : Type} {h : Handle} {b b₁ b₂ : Backend δ} {a : Action δ α}
  {f : α → Action δ β}

theorem Worked.refl (h : Handle) (b : Backend δ) : Worked numbering h b b :=
  ⟨rfl, ⟨[], by simp⟩, fun _ => id⟩

theorem Worked.trans (h₁ : Worked numbering h b b₁) (h₂ : Worked numbering h b₁ b₂) :
    Worked numbering h b b₂ := by
  obtain ⟨made₁, hcalls₁, hmade₁⟩ := h₁.calls
  obtain ⟨made₂, hcalls₂, hmade₂⟩ := h₂.calls
  refine ⟨h₂.connections.trans h₁.connections, ⟨made₁ ++ made₂, ?_, ?_⟩,
    fun k hk => h₂.given k (h₁.given k hk)⟩
  · rw [hcalls₂, hcalls₁, List.append_assoc]
  · intro c hc
    rcases List.mem_append.mp hc with hc | hc
    · exact hmade₁ c hc
    · exact hmade₂ c hc

theorem actsOn_pure (x : α) : ActsOn numbering h (pure x : Action δ α) := fun b => .refl h b

theorem actsOn_throw (e : Failure) : ActsOn numbering h (throw e : Action δ α) :=
  fun b => .refl h b

theorem actsOn_get : ActsOn numbering h (get : Action δ (Backend δ)) := fun b => .refl h b

theorem actsOn_bind (ha : ActsOn numbering h a) (hf : ∀ x, ActsOn numbering h (f x)) :
    ActsOn numbering h (a >>= f) := by
  intro b
  have hfirst := ha b
  rw [perform_bind]
  rcases hanswer : perform b a with ⟨e | x, b₁⟩
  · rw [hanswer] at hfirst
    exact hfirst
  · rw [hanswer] at hfirst
    exact hfirst.trans (hf x b₁)

theorem actsOn_tryCatch {handler : Failure → Action δ α} (ha : ActsOn numbering h a)
    (hhandler : ∀ e, ActsOn numbering h (handler e)) :
    ActsOn numbering h (tryCatch a handler) := by
  intro b
  have hfirst := ha b
  rw [perform_tryCatch]
  rcases hanswer : perform b a with ⟨e | x, b₁⟩
  · rw [hanswer] at hfirst
    exact hfirst.trans (hhandler e b₁)
  · rw [hanswer] at hfirst
    exact hfirst

theorem actsOn_mapM {xs : List α} (hf : ∀ x, ActsOn numbering h (f x)) :
    ActsOn numbering h (xs.mapM f) := by
  induction xs with
  | nil =>
      rw [List.mapM_nil]
      exact actsOn_pure []
  | cons x xs ih =>
      rw [List.mapM_cons]
      exact actsOn_bind (hf x) fun y => actsOn_bind ih fun ys => actsOn_pure (y :: ys)

/-- A call on the connection is work on it, whatever the driver answers. -/
theorem actsOn_calling {c : Call} {g : δ → Except Failure α × δ} (hc : c.WorksOn h)
    (hgiven : ∀ d k, numbering.given d k → numbering.given (g d).2 k) :
    ActsOn numbering h (calling c g) := by
  intro b
  rw [perform_calling]
  exact ⟨rfl, ⟨[c], rfl, List.forall_mem_singleton.mpr hc⟩, hgiven b.driver⟩

theorem actsOn_execute (sql : String) :
    ActsOn numbering h (calling (.execute h sql) (driver.execute h sql)) :=
  actsOn_calling ⟨rfl, nofun⟩ fun _ _ => numbering.execute h sql

theorem actsOn_fetchMany (n : Int) :
    ActsOn numbering h (calling (.fetchMany h n) (driver.fetchMany h n)) :=
  actsOn_calling ⟨rfl, nofun⟩ fun _ _ => numbering.fetchMany h n

theorem actsOn_fetchAll : ActsOn numbering h (calling (.fetchAll h) (driver.fetchAll h)) :=
  actsOn_calling ⟨rfl, nofun⟩ fun _ _ => numbering.fetchAll h

theorem actsOn_commit : ActsOn numbering h (calling (.commit h) (driver.commit h)) :=
  actsOn_calling ⟨rfl, nofun⟩ fun _ _ => numbering.commit h

end Acting

/-! ## Requests -/

/-- What is asked of the backend. -/
inductive Request where
  | execute (id sql : String)
  | listTables (id : String)
  | describe (id : String)
  /-- One connection is closed, or all of them are. -/
  | close (id : Option String)

/-- The path that a request needs a connection for. -/
def Request.path? : Request → Option String
  | .execute id _ => some id
  | .listTables id => some id
  | .describe id => some id
  | .close _ => none

/-- The connections after a request. -/
def serve (driver : Driver δ) (site : Site) (maxRows : Option Int) (b : Backend δ) :
    Request → Backend δ
  | .execute id sql => (perform b (execute driver site maxRows id sql)).2
  | .listTables id => (perform b (listTables driver site id)).2
  | .describe id => (perform b (describe driver site id)).2
  | .close id => close driver id b

/-- The connections after some requests, each with the files that are there then. -/
def serveAll (driver : Driver δ) (maxRows : Option Int) (b : Backend δ)
    (requests : List (Site × Request)) : Backend δ :=
  requests.foldl (fun b request => serve driver request.1 maxRows b request.2) b

/-- What a request for the tables does with its connection. -/
def listing (driver : Driver δ) (h : Handle) : Action δ (List Value) := do
  let _ ← calling (.execute h tablesStatement) (driver.execute h tablesStatement)
  let rows ← calling (.fetchAll h) (driver.fetchAll h)
  rows.mapM (cellAt · 0)

/-- What a request to run a statement does with its connection. -/
def running (driver : Driver δ) (site : Site) (maxRows : Option Int) (sql : String)
    (h : Handle) : Action δ Result :=
  match site.returnsRows sql with
  | .error e => throw (excessFailure e)
  | .ok query => tryCatch (run driver query maxRows h sql) fun f => throw (driverFailure f)

/-- All that a request for a path can do. -/
inductive Serves (site : Site) (id : String) (b : Backend δ) : Backend δ → Prop where
  | unconnected {f : Failure} {b₁ : Backend δ}
      (hconnection : perform b (connection driver site id) = (.error f, b₁)) :
      Serves site id b b₁
  | connected {h : Handle} {b₁ b' : Backend δ}
      (hconnection : perform b (connection driver site id) = (.ok h, b₁))
      (hworked : Worked numbering h b₁ b') : Serves site id b b'

section Serving

variable {numbering} {α : Type} {h : Handle} {site : Site} {id : String} {b : Backend δ}

theorem actsOn_cellAt (row : List Value) (i : Nat) :
    ActsOn numbering h (cellAt row i : Action δ Value) := by
  unfold cellAt
  split
  · exact actsOn_pure _
  · exact actsOn_throw _

/-- **Running a statement is work on its connection**, wherever it breaks off. -/
theorem actsOn_run (query : Bool) (maxRows : Option Int) (sql : String) :
    ActsOn numbering h (run driver query maxRows h sql) := by
  cases query with
  | false =>
      refine actsOn_bind (actsOn_execute sql) fun c => ?_
      by_cases hcolumns : c.columns.isEmpty
      · rw [if_pos hcolumns]
        exact actsOn_bind actsOn_commit fun _ => actsOn_pure _
      · rw [if_neg hcolumns]
        exact actsOn_bind actsOn_fetchAll fun _ => actsOn_bind actsOn_commit fun _ => actsOn_pure _
  | true =>
      refine actsOn_bind actsOn_get fun before => actsOn_bind (actsOn_execute sql) fun c => ?_
      by_cases hcolumns : c.columns.isEmpty
      · rw [if_pos hcolumns]
        exact actsOn_bind actsOn_commit fun _ => actsOn_pure _
      · rw [if_neg hcolumns]
        cases maxRows with
        | none => exact actsOn_bind actsOn_fetchAll fun _ => actsOn_pure _
        | some n => exact actsOn_bind (actsOn_fetchMany (n + 1)) fun _ => actsOn_pure _

theorem actsOn_running (site : Site) (maxRows : Option Int) (sql : String) :
    ActsOn numbering h (running driver site maxRows sql h) := by
  unfold running
  split
  · exact actsOn_throw _
  · exact actsOn_tryCatch (actsOn_run _ maxRows sql) fun _ => actsOn_throw _

theorem actsOn_listing : ActsOn numbering h (listing driver h) :=
  actsOn_bind (actsOn_execute tablesStatement) fun _ =>
    actsOn_bind actsOn_fetchAll fun _ => actsOn_mapM fun row => actsOn_cellAt row 0

theorem actsOn_columnsOf (table : Value) : ActsOn numbering h (columnsOf driver h table) := by
  unfold columnsOf
  split
  · exact actsOn_bind (actsOn_execute _) fun _ =>
      actsOn_bind actsOn_fetchAll fun _ => actsOn_mapM fun row => actsOn_cellAt row 1
  · exact actsOn_throw _
  · exact actsOn_throw _

theorem serves_of_bind {rest : Handle → Action δ α} (hrest : ∀ h, ActsOn numbering h (rest h)) :
    Serves numbering site id b (perform b (connection driver site id >>= rest)).2 := by
  rw [perform_bind]
  rcases hconnection : perform b (connection driver site id) with ⟨f | h, b₁⟩
  · exact .unconnected hconnection
  · exact .connected hconnection (hrest h b₁)

/-- A connection that was got is kept. -/
theorem get?_of_connection {b₁ : Backend δ}
    (hconnection : perform b (connection driver site id) = (.ok h, b₁)) :
    b₁.connections.get? id = some h := by
  have hobtains := obtains_connection driver site id b
  rw [hconnection] at hobtains
  exact hobtains.get?_eq

/-- A connection that is kept is got without a call. -/
theorem perform_connection_of_get? (hget : b.connections.get? id = some h) :
    perform b (connection driver site id) = (.ok h, b) := by
  unfold connection
  simp only [perform_bind, perform_get, hget, perform_pure]

/-- A request for the columns of all tables asks for its connection twice, and gets the
same one. -/
theorem serves_describe :
    Serves numbering site id b (perform b (describe driver site id)).2 := by
  have hlist : listTables driver site id = connection driver site id >>= listing driver := rfl
  unfold describe
  rw [perform_bind, hlist, perform_bind]
  rcases hconnection : perform b (connection driver site id) with ⟨f | h, b₁⟩
  · exact .unconnected hconnection
  have hlisted : Worked numbering h b₁ (perform b₁ (listing driver h)).2 := actsOn_listing b₁
  refine .connected hconnection ?_
  simp only
  rcases hanswer : perform b₁ (listing driver h) with ⟨f | tables, b₂⟩
  · rw [hanswer] at hlisted
    exact hlisted
  · rw [hanswer] at hlisted
    have hget : b₂.connections.get? id = some h := by
      rw [hlisted.connections]
      exact get?_of_connection hconnection
    simp only [perform_bind, perform_connection_of_get? hget]
    refine hlisted.trans (actsOn_mapM (fun table => ?_) b₂)
    exact actsOn_bind (actsOn_columnsOf table) fun _ => actsOn_pure _

/-- **All that a request for a path can do**: it gets no connection, or it gets one and
works on that one alone. -/
theorem serves_serve (maxRows : Option Int) {request : Request} (hpath : request.path? = some id) :
    Serves numbering site id b (serve driver site maxRows b request) := by
  cases request with
  | execute id' sql =>
      cases hpath
      exact serves_of_bind fun _ => actsOn_running site maxRows sql
  | listTables id' =>
      cases hpath
      exact serves_of_bind fun _ => actsOn_listing
  | describe id' =>
      cases hpath
      exact serves_describe
  | close which => cases hpath

end Serving

end Backend

end QueryDesk.Sqlite
