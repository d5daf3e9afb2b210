import Mathlib.Data.List.Induction
import Mathlib.Logic.Function.Basic
import QueryDesk.Proofs.Sqlite.Actions
import QueryDesk.Proofs.Statement.Reading

/-!
# Transactions that stay open

A driver opens a transaction by itself before a statement that writes, and leaves it
open until it is told to commit or to roll back.  The backend commits at the end of a
call that gives an answer, but for a query with rows, and it never rolls back.  So a
call that fails after its statement was sent leaves the transaction open, on a
connection that is kept and used again: whatever is done next on that connection is
done in it, until a later call commits the whole.

`Isolation` says what is expected of a driver; nothing else about it is used.  What a
statement does to the transaction is not read off its text: it depends on the connection
and on what the driver finds there, since a statement that does not fit the database, for
one, opens none.

## Main results

* `Runs.leaves` — what running a statement leaves of the transaction.
* `leaves_execute` — the same for a whole call, for all connections.
* `uncommitted_calls_stay_open` — which calls of any sequence leave a transaction open.
* `failed_deletion_stays_open` — a statement that fails leaves one.
-/

namespace QueryDesk.Sqlite

open Execution (Failure Result)

variable {δ : Type}

/-! ## Drivers with transactions -/

/-- What a statement does to the transaction of its connection. -/
inductive Effect where
  /-- A transaction is opened before it, and is open after it, also if it fails. -/
  | begins
  /-- It leaves the transaction as it is, unless it fails. -/
  | keeps
  /-- It may end the transaction. -/
  | ends
  deriving DecidableEq, Repr

/-- What is expected of a driver with transactions.  A connection that is not open has
no status, and the status of one is that of no other. -/
structure Isolation (driver : Driver δ) where
  /-- Whether a transaction is open on a connection. -/
  status : δ → Handle → Option Bool
  /-- What a statement does when it is sent. -/
  effect : Handle → String → δ → Effect
  connect_ok : ∀ {path d h d'}, driver.connect path d = (.ok h, d') →
    status d h = none ∧ status d' = Function.update (status d) h (some false)
  connect_error : ∀ {path d f d'}, driver.connect path d = (.error f, d') → status d' = status d
  execute_begins : ∀ {sql d h t answer d'}, effect h sql d = .begins → status d h = some t →
    driver.execute h sql d = (answer, d') → status d' = Function.update (status d) h (some true)
  execute_keeps : ∀ {sql d h t c d'}, effect h sql d = .keeps → status d h = some t →
    driver.execute h sql d = (.ok c, d') → status d' = status d
  /-- No other statement opens a transaction. -/
  execute_other : ∀ {sql d h t answer d'}, effect h sql d ≠ .begins → status d h = some t →
    driver.execute h sql d = (answer, d') →
    ∃ t', status d' = Function.update (status d) h (some t') ∧ (t' = true → t = true)
  fetchMany : ∀ h n d, status (driver.fetchMany h n d).2 = status d
  fetchAll : ∀ h d, status (driver.fetchAll h d).2 = status d
  commit_ok : ∀ {d h t d'}, status d h = some t → driver.commit h d = (.ok (), d') →
    status d' = Function.update (status d) h (some false)
  commit_error : ∀ {d h f d'}, driver.commit h d = (.error f, d') → status d' = status d

namespace Backend

variable {driver : Driver δ} (iso : Isolation driver)

/-- A statement is committed: it gives an answer, which is not made of the rows of a
query. -/
def Committed (query : Bool) (answer : Except Failure Result) : Prop :=
  ∃ r, answer = .ok r ∧ (query = false ∨ r.columns = [])

/-- A call commits. -/
def Commits (site : Site) (sql : String) (answer : Except Failure Result) : Prop :=
  ∃ query, site.returnsRows sql = .ok query ∧ Committed query answer

/-- Whether a transaction is open on the connection for a path. -/
def isOpen (b : Backend δ) (id : String) : Bool :=
  (b.connections.get? id).bind (iso.status b.driver) = some true

/-! ## Running a statement -/

section Run

variable {iso} {query : Bool} {h : Handle} {sql : String} {d d' : δ} {t : Bool}
  {answer : Except Failure Result}

/-- What a run of a statement leaves of a transaction that was open or not. -/
structure RunLeaves (effect : Effect) (query : Bool) (answer : Except Failure Result)
    (t t' : Bool) : Prop where
  committed : Committed query answer → t' = false
  begun : ¬ Committed query answer → effect = .begins → t' = true
  kept : ¬ Committed query answer → (∃ r, answer = .ok r) → effect = .keeps → t' = t
  not_begun : effect ≠ .begins → t' = true → t = true

/-- A failure leaves what the statement left that was sent. -/
theorem RunLeaves.of_error {effect : Effect} {f : Failure} {t' : Bool}
    (hbegins : effect = .begins → t' = true) (hother : effect ≠ .begins → t' = true → t = true) :
    RunLeaves effect query (.error f) t t' := by
  refine ⟨?_, fun _ => hbegins, ?_, hother⟩
  · rintro ⟨r, hr, -⟩
    cases hr
  · rintro - ⟨r, hr⟩
    cases hr

theorem Fetches.status {rows : Except Failure (List (List Value))}
    (h : Fetches driver h d rows d') : iso.status d' = iso.status d := by
  cases h with
  | many count => exact iso.fetchMany ..
  | all => exact iso.fetchAll ..

/-- Rows that were fetched, or not, leave the transaction as it is. -/
theorem status_fetched {d₁ d₂ : δ}
    (h : d₂ = d₁ ∨ ∃ rows, Fetches driver h d₁ (.ok rows) d₂) : iso.status d₂ = iso.status d₁ := by
  rcases h with rfl | ⟨rows, hfetch⟩
  · rfl
  · exact hfetch.status

/-- The transaction after a statement was sent, whatever the driver answered. -/
theorem status_sent (hopen : iso.status d h = some t) {c : Except Failure Cursor}
    (hexecute : driver.execute h sql d = (c, d')) :
    ∃ t', iso.status d' = Function.update (iso.status d) h (some t') ∧
      (iso.effect h sql d = .begins → t' = true) ∧
      (∀ cursor, c = .ok cursor → iso.effect h sql d = .keeps → t' = t) ∧
      (iso.effect h sql d ≠ .begins → t' = true → t = true) := by
  cases heffect : iso.effect h sql d with
  | begins =>
      refine ⟨true, iso.execute_begins heffect hopen hexecute, fun _ => rfl, ?_, ?_⟩
      · intro _ _ h
        cases h
      · intro h
        exact absurd rfl h
  | keeps =>
      cases c with
      | error f =>
          obtain ⟨t', ht', hle⟩ := iso.execute_other (by rw [heffect]; decide) hopen hexecute
          exact ⟨t', ht', nofun, nofun, fun _ => hle⟩
      | ok cursor =>
          refine ⟨t, ?_, nofun, fun _ _ _ => rfl, fun _ => id⟩
          rw [iso.execute_keeps heffect hopen hexecute, ← hopen, Function.update_eq_self]
  | ends =>
      obtain ⟨t', ht', hle⟩ := iso.execute_other (by rw [heffect]; decide) hopen hexecute
      exact ⟨t', ht', nofun, nofun, fun _ => hle⟩

/-- **What running a statement leaves of the transaction**: only the last call of the
driver commits, and it is reached only if nothing failed. -/
theorem Runs.leaves (hopen : iso.status d h = some t)
    (hruns : Runs driver query h sql d answer d') :
    ∃ t', iso.status d' = Function.update (iso.status d) h (some t') ∧
      RunLeaves (iso.effect h sql d) query answer t t' := by
  cases hruns with
  | failed hexecute =>
      obtain ⟨t', ht', hbegins, -, hother⟩ := status_sent hopen hexecute
      exact ⟨t', ht', .of_error hbegins hother⟩
  | unfetched hexecute hfetch =>
      obtain ⟨t', ht', hbegins, -, hother⟩ := status_sent hopen hexecute
      exact ⟨t', hfetch.status.trans ht', .of_error hbegins hother⟩
  | @fetched c rows r d₁ d₂ hquery hexecute hcolumns hfetch hr =>
      obtain ⟨t', ht', hbegins, hkeeps, hother⟩ := status_sent hopen hexecute
      refine ⟨t', hfetch.status.trans ht', ?_, fun _ => hbegins, fun _ _ => hkeeps c rfl, hother⟩
      rintro ⟨r', hr', hcommitted | hcommitted⟩
      · rw [hquery] at hcommitted
        cases hcommitted
      · cases hr'
        rw [hr] at hcommitted
        exact absurd hcommitted hcolumns
  | @uncommitted c f d₁ d₂ d₃ hexecute hfetch hcommit =>
      obtain ⟨t', ht', hbegins, -, hother⟩ := status_sent hopen hexecute
      have hfetched : iso.status d₂ = iso.status d₁ := status_fetched hfetch
      exact ⟨t', (iso.commit_error hcommit).trans (hfetched.trans ht'), .of_error hbegins hother⟩
  | @committed c r d₁ d₂ d₃ hexecute hfetch hcommit hr =>
      obtain ⟨t', ht', -, -, -⟩ := status_sent hopen hexecute
      have hfetched : iso.status d₂ = Function.update (iso.status d) h (some t') :=
        (status_fetched hfetch).trans ht'
      have hstill : iso.status d₂ h = some t' := by
        rw [hfetched, Function.update_self]
      have hcommitted : Committed query (.ok r) := ⟨r, rfl, hr⟩
      refine ⟨false, ?_, fun _ => rfl, ?_, ?_, nofun⟩
      · rw [iso.commit_ok hstill hcommit, hfetched, Function.update_idem]
      · exact fun hnot => absurd hcommitted hnot
      · exact fun hnot => absurd hcommitted hnot

end Run

/-! ## Whole calls -/

/-- Every open connection has a status, and no two paths share a connection. -/
structure Known (b : Backend δ) : Prop where
  status : ∀ id h, b.connections.get? id = some h → ∃ t, iso.status b.driver h = some t
  distinct : ∀ id id' h, b.connections.get? id = some h → b.connections.get? id' = some h → id = id'

/-- What the statement of a call does to the transaction of its connection. It does
nothing if it is not sent: there is no connection then, or the statement is not looked
into. -/
def effectOf (site : Site) (b : Backend δ) (id sql : String) : Option Effect :=
  match perform b (connection driver site id), site.returnsRows sql with
  | (.ok h, b₁), .ok _ => some (iso.effect h sql b₁.driver)
  | _, _ => none

/-- What a call leaves of the transactions of all connections. -/
structure Leaves (site : Site) (b : Backend δ) (id sql : String)
    (r : Except Failure Result × Backend δ) : Prop where
  others : ∀ id', id' ≠ id → isOpen iso r.2 id' = isOpen iso b id'
  committed : Commits site sql r.1 → isOpen iso r.2 id = false
  begun : ¬ Commits site sql r.1 → effectOf iso site b id sql = some .begins →
    isOpen iso r.2 id = true
  kept : ¬ Commits site sql r.1 → (∃ answer, r.1 = .ok answer) →
    effectOf iso site b id sql = some .keeps → isOpen iso r.2 id = isOpen iso b id
  not_begun : effectOf iso site b id sql ≠ some .begins → isOpen iso r.2 id = true →
    isOpen iso b id = true

section Call

variable {iso} {site : Site} {b b' : Backend δ} {id sql : String}

theorem isOpen_of_get? {h : Handle} {t : Bool} (hget : b.connections.get? id = some h)
    (hstatus : iso.status b.driver h = some t) : isOpen iso b id = t := by
  cases t <;> simp [isOpen, hget, hstatus]

theorem isOpen_of_none (hget : b.connections.get? id = none) : isOpen iso b id = false := by
  simp [isOpen, hget]

/-- What is open depends on the connections and on their status. -/
theorem isOpen_congr (hconnections : b'.connections = b.connections)
    (hstatus : iso.status b'.driver = iso.status b.driver) (id : String) :
    isOpen iso b' id = isOpen iso b id := by
  rw [isOpen, isOpen, hconnections, hstatus]

/-- When one connection is given a status, the others keep theirs. -/
theorem exists_status_of_update {h h' : Handle} {t : Bool}
    (hstatus : iso.status b'.driver = Function.update (iso.status b.driver) h (some t))
    (hbefore : h' ≠ h → ∃ t, iso.status b.driver h' = some t) :
    ∃ t, iso.status b'.driver h' = some t := by
  rw [hstatus]
  by_cases hsame : h' = h
  · exact ⟨t, by rw [hsame, Function.update_self]⟩
  · rw [Function.update_of_ne hsame]
    exact hbefore hsame

/-- What happens on one connection is not seen on another. -/
theorem isOpen_of_other {h : Handle} {t : Bool} {id' : String}
    (hstatus : iso.status b'.driver = Function.update (iso.status b.driver) h (some t))
    (hsame : b'.connections.get? id' = b.connections.get? id')
    (hother : b.connections.get? id' ≠ some h) : isOpen iso b' id' = isOpen iso b id' := by
  rw [isOpen, isOpen, hsame, hstatus]
  cases hget' : b.connections.get? id' with
  | none => rfl
  | some h' =>
      have hne : h' ≠ h := by
        rintro rfl
        exact hother hget'
      rw [Option.bind_some, Option.bind_some, Function.update_of_ne hne]

/-- What happens on one connection leaves the others alone. -/
theorem Known.isOpen_of_update (hknown : Known iso b) {h : Handle} {t : Bool}
    (hget : b.connections.get? id = some h) (hconnections : b'.connections = b.connections)
    (hstatus : iso.status b'.driver = Function.update (iso.status b.driver) h (some t)) :
    Known iso b' ∧ isOpen iso b' id = t ∧
      ∀ id', id' ≠ id → isOpen iso b' id' = isOpen iso b id' := by
  refine ⟨⟨?_, ?_⟩, ?_, ?_⟩
  · intro id' h' hget'
    rw [hconnections] at hget'
    apply exists_status_of_update hstatus
    exact fun _ => hknown.status id' h' hget'
  · rw [hconnections]
    exact hknown.distinct
  · apply isOpen_of_get? (hconnections ▸ hget)
    rw [hstatus, Function.update_self]
  · intro id' hne
    apply isOpen_of_other hstatus (by rw [hconnections])
    intro hget'
    exact hne (hknown.distinct id' id h hget' hget)

/-- **A new connection has no transaction**, and the others are as they were. -/
theorem Connects.known (hknown : Known iso b) {got : Except Failure Handle}
    (h : Connects driver id b got b') :
    Known iso b' ∧ (∀ id', isOpen iso b' id' = isOpen iso b id') ∧
      b'.connections.get? id = got.toOption := by
  cases h with
  | cached hget => exact ⟨hknown, fun _ => rfl, hget⟩
  | refused hget => exact ⟨hknown, fun _ => rfl, hget⟩
  | failed hget hconnect hconnections =>
      have hstatus := iso.connect_error hconnect
      refine ⟨⟨?_, ?_⟩, isOpen_congr hconnections hstatus, ?_⟩
      · rw [hconnections, hstatus]
        exact hknown.status
      · rw [hconnections]
        exact hknown.distinct
      · rw [hconnections]
        exact hget
  | @opened path h b' hget hconnect hconnections =>
      obtain ⟨hnew, hstatus⟩ := iso.connect_ok hconnect
      -- The handle is new to the driver, so no path has it yet.
      have hfresh : ∀ id', b.connections.get? id' ≠ some h := by
        intro id' hget'
        obtain ⟨t, ht⟩ := hknown.status id' h hget'
        rw [hnew] at ht
        cases ht
      have hself : b'.connections.get? id = some h := by
        rw [hconnections, OrderedMap.get?_put_self]
      have hother : ∀ id', id' ≠ id → b'.connections.get? id' = b.connections.get? id' := by
        intro id' hne
        rw [hconnections, OrderedMap.get?_put_ne _ _ hne]
      have honly : ∀ {id'}, b'.connections.get? id' = some h → id' = id := by
        intro id' hget'
        by_contra hne
        rw [hother id' hne] at hget'
        exact hfresh id' hget'
      have hold : ∀ {id' h'}, b'.connections.get? id' = some h' → h' ≠ h →
          b.connections.get? id' = some h' := by
        intro id' h' hget' hne
        rw [← hother id' ?_]
        · exact hget'
        · rintro rfl
          rw [hself] at hget'
          exact hne (Option.some.inj hget').symm
      refine ⟨⟨?_, ?_⟩, ?_, hself⟩
      · intro id' h' hget'
        apply exists_status_of_update hstatus
        exact fun hne => hknown.status id' h' (hold hget' hne)
      · intro id' id'' h' hget' hget''
        by_cases hsame : h' = h
        · rw [hsame] at hget' hget''
          exact (honly hget').trans (honly hget'').symm
        · exact hknown.distinct id' id'' h' (hold hget' hsame) (hold hget'' hsame)
      · intro id'
        by_cases hid' : id' = id
        · rw [hid', isOpen_of_none hget]
          exact isOpen_of_get? hself (by rw [hstatus, Function.update_self])
        · exact isOpen_of_other hstatus (hother id' hid') (hfresh id')

/-- A call whose statement was not sent fails, and leaves every transaction as it is. -/
theorem Leaves.of_unsent (hsame : ∀ id', isOpen iso b' id' = isOpen iso b id')
    (hsent : effectOf iso site b id sql = none) (f : Failure) :
    Leaves iso site b id sql (.error f, b') where
  others id' _ := hsame id'
  committed := by
    rintro ⟨query, -, r, hr, -⟩
    cases hr
  begun _ h := by
    rw [hsent] at h
    cases h
  kept := by
    rintro - ⟨r, hr⟩
    cases hr
  not_begun _ h := hsame id ▸ h

/-- A failure that is told in other words is no answer all the same. -/
theorem mapError_eq_ok {x : Except Failure Result} {f : Failure → Failure} {r : Result} :
    x.mapError f = .ok r ↔ x = .ok r := by
  cases x with
  | error e => exact ⟨nofun, nofun⟩
  | ok r' => exact Iff.rfl

/-- What a call leaves whose statement was sent on a connection that was got for it. -/
theorem Leaves.of_runs {b₁ : Backend δ} (hknown : Known iso b₁) {h : Handle} {query : Bool}
    {ran : Except Failure Result × Backend δ} (hget : b₁.connections.get? id = some h)
    (hrows : site.returnsRows sql = .ok query) (hran : RunsAs driver query h sql b₁ ran)
    (heffect : effectOf iso site b id sql = some (iso.effect h sql b₁.driver))
    (hsame : ∀ id', isOpen iso b₁ id' = isOpen iso b id') :
    Known iso ran.2 ∧ Leaves iso site b id sql (ran.1.mapError driverFailure, ran.2) := by
  obtain ⟨hruns, hconnections⟩ := hran
  obtain ⟨t, ht⟩ := hknown.status id h hget
  obtain ⟨t', hstatus, hleaves⟩ := hruns.leaves ht
  obtain ⟨hknown', hself, hothers⟩ := hknown.isOpen_of_update hget hconnections hstatus
  have hbefore : isOpen iso b id = t := (hsame id).symm.trans (isOpen_of_get? hget ht)
  have hcommits : Commits site sql (ran.1.mapError driverFailure) ↔ Committed query ran.1 := by
    simp only [Commits, Committed, hrows, mapError_eq_ok, Except.ok.injEq, exists_eq_left']
  refine ⟨hknown', fun id' hne => (hothers id' hne).trans (hsame id'), ?_, ?_, ?_, ?_⟩ <;>
    simp only [heffect, Option.some.injEq, ne_eq, hcommits, hself, hbefore]
  · exact hleaves.committed
  · exact hleaves.begun
  · rintro hnot ⟨answer, hanswer⟩ hkeeps
    exact hleaves.kept hnot ⟨answer, mapError_eq_ok.mp hanswer⟩ hkeeps
  · exact hleaves.not_begun

/-- **What a call leaves of the transactions** of all connections. -/
theorem leaves_execute (hknown : Known iso b) (site : Site) (maxRows : Option Int)
    (id sql : String) :
    Known iso (perform b (execute driver site maxRows id sql)).2 ∧
      Leaves iso site b id sql (perform b (execute driver site maxRows id sql)) := by
  have hconnects := connects_connection driver site id b
  rcases hconnection : perform b (connection driver site id) with ⟨f | h, b₁⟩
  · rw [hconnection] at hconnects
    obtain ⟨hknown₁, hsame, -⟩ := hconnects.known hknown
    rw [execute_of_unconnected hconnection]
    exact ⟨hknown₁, .of_unsent hsame (by simp only [effectOf, hconnection]) f⟩
  · rw [hconnection] at hconnects
    obtain ⟨hknown₁, hsame, hget⟩ := hconnects.known hknown
    cases hrows : site.returnsRows sql with
    | error e =>
        rw [execute_of_unread hconnection hrows]
        exact ⟨hknown₁, .of_unsent hsame (by simp only [effectOf, hconnection, hrows]) _⟩
    | ok query =>
        rw [execute_of_read hconnection hrows]
        exact Leaves.of_runs hknown₁ hget hrows (runs_run driver query maxRows h sql b₁)
          (by simp only [effectOf, hconnection, hrows]) hsame

end Call

/-! ## Sequences of calls -/

/-- The connections after some calls, each of a path and a statement. -/
def executeAll (driver : Driver δ) (site : Site) (maxRows : Option Int) (b : Backend δ)
    (calls : List (String × String)) : Backend δ :=
  calls.foldl (fun b call => (perform b (execute driver site maxRows call.1 call.2)).2) b

/-- What a call answers and leaves after some calls. -/
def reply (driver : Driver δ) (site : Site) (maxRows : Option Int) (b : Backend δ)
    (calls : List (String × String)) (id sql : String) : Except Failure Result × Backend δ :=
  perform (executeAll driver site maxRows b calls) (execute driver site maxRows id sql)

/-- A call opens a transaction and does not commit it, and no later call on the same
connection commits. -/
structure LeftOpen (site : Site) (maxRows : Option Int) (b : Backend δ) (id : String)
    (calls before : List (String × String)) (sql : String) (since : List (String × String)) :
    Prop where
  split : calls = before ++ (id, sql) :: since
  begins : effectOf iso site (executeAll driver site maxRows b before) id sql = some .begins
  uncommitted : ¬ Commits site sql (reply driver site maxRows b before id sql).1
  never : ∀ first sql' rest, since = first ++ (id, sql') :: rest →
    ¬ Commits site sql' (reply driver site maxRows b (before ++ (id, sql) :: first) id sql').1

section Calls

variable {iso} {site : Site} {maxRows : Option Int} {b : Backend δ} {id sql : String}
  {calls before since : List (String × String)}

@[simp] theorem executeAll_concat (id sql : String) :
    executeAll driver site maxRows b (calls ++ [(id, sql)]) =
      (reply driver site maxRows b calls id sql).2 := by
  simp [executeAll, reply]

theorem known_executeAll (hknown : Known iso b) (site : Site) (maxRows : Option Int)
    (calls : List (String × String)) : Known iso (executeAll driver site maxRows b calls) := by
  induction calls using List.reverseRecOn with
  | nil => exact hknown
  | append_singleton calls call ih =>
      rw [executeAll_concat]
      exact (leaves_execute ih site maxRows call.1 call.2).1

/-- **What a call leaves of the transactions** after some calls. -/
theorem leaves_reply (hknown : Known iso b) (site : Site) (maxRows : Option Int)
    (calls : List (String × String)) (id sql : String) :
    Leaves iso site (executeAll driver site maxRows b calls) id sql
      (reply driver site maxRows b calls id sql) :=
  (leaves_execute (known_executeAll hknown site maxRows calls) site maxRows id sql).2

/-- A later call on another connection, or one that does not commit, leaves the
transaction the one that was left open. -/
theorem LeftOpen.concat (h : LeftOpen iso site maxRows b id calls before sql since)
    {call : String × String}
    (hcall : call.1 = id → ¬ Commits site call.2 (reply driver site maxRows b calls id call.2).1) :
    LeftOpen iso site maxRows b id (calls ++ [call]) before sql (since ++ [call]) := by
  refine ⟨by rw [h.split]; simp, h.begins, h.uncommitted, fun first sql' rest hsplit => ?_⟩
  rcases List.eq_nil_or_concat rest with rfl | ⟨rest', last, rfl⟩
  · obtain ⟨rfl, hlast⟩ := List.append_inj' hsplit rfl
    obtain rfl := List.singleton_inj.mp hlast
    rw [← h.split]
    exact hcall rfl
  · rw [List.concat_eq_append, ← List.cons_append, ← List.append_assoc] at hsplit
    obtain ⟨hsince, -⟩ := List.append_inj' hsplit rfl
    exact h.never first sql' rest' hsince

/-- **An open transaction was left open** by a call that began it and did not commit. -/
theorem exists_leftOpen (hknown : Known iso b) (hnone : isOpen iso b id = false)
    (h : isOpen iso (executeAll driver site maxRows b calls) id = true) :
    ∃ before sql since, LeftOpen iso site maxRows b id calls before sql since := by
  induction calls using List.reverseRecOn with
  | nil =>
      rw [show executeAll driver site maxRows b [] = b from rfl, hnone] at h
      cases h
  | append_singleton calls call ih =>
      obtain ⟨id', sql'⟩ := call
      have hleaves := leaves_reply hknown site maxRows calls id' sql'
      rw [executeAll_concat] at h
      by_cases hid : id' = id
      · subst hid
        have hcommits : ¬ Commits site sql' (reply driver site maxRows b calls id' sql').1 := by
          intro hcommits
          rw [hleaves.committed hcommits] at h
          cases h
        by_cases hbegins :
            effectOf iso site (executeAll driver site maxRows b calls) id' sql' = some .begins
        · exact ⟨calls, sql', [], rfl, hbegins, hcommits, by simp⟩
        · have hopen := hleaves.not_begun hbegins h
          obtain ⟨before, sql, since, hleft⟩ := ih hopen
          exact ⟨before, sql, _, hleft.concat fun _ => hcommits⟩
      · rw [hleaves.others id fun heq => hid heq.symm] at h
        obtain ⟨before, sql, since, hleft⟩ := ih h
        exact ⟨before, sql, _, hleft.concat fun heq => absurd heq hid⟩

/-- **A transaction that was left open stays open** as long as only queries follow on
its connection. -/
theorem isOpen_of_leftOpen (hknown : Known iso b) {before since : List (String × String)}
    (h : LeftOpen iso site maxRows b id calls before sql since)
    (hqueries : ∀ first sql' rest, since = first ++ (id, sql') :: rest →
      effectOf iso site (executeAll driver site maxRows b (before ++ (id, sql) :: first)) id sql' =
          some .keeps ∧
        ∃ answer, (reply driver site maxRows b (before ++ (id, sql) :: first) id sql').1 =
          .ok answer) :
    isOpen iso (executeAll driver site maxRows b calls) id = true := by
  induction since using List.reverseRecOn generalizing calls with
  | nil =>
      rw [h.split, executeAll_concat]
      exact (leaves_reply hknown site maxRows before id sql).begun h.uncommitted h.begins
  | append_singleton since call ih =>
      obtain ⟨id', sql'⟩ := call
      have hearlier : LeftOpen iso site maxRows b id (before ++ (id, sql) :: since) before sql
          since := by
        refine ⟨rfl, h.begins, h.uncommitted, fun first sql'' rest hsplit => ?_⟩
        exact h.never first sql'' (rest ++ [(id', sql')]) (by rw [hsplit]; simp)
      have hopen := ih hearlier fun first sql'' rest hsplit =>
        hqueries first sql'' (rest ++ [(id', sql')]) (by rw [hsplit]; simp)
      have hleaves := leaves_reply hknown site maxRows (before ++ (id, sql) :: since) id' sql'
      rw [h.split, ← List.cons_append, ← List.append_assoc, executeAll_concat]
      by_cases hid : id' = id
      · subst hid
        obtain ⟨hkeeps, hanswer⟩ := hqueries since sql' [] rfl
        rw [hleaves.kept (h.never since sql' [] rfl) hanswer hkeeps]
        exact hopen
      · rw [hleaves.others id fun heq => hid heq.symm]
        exact hopen

end Calls

/-- **Calls that do not commit leave their transaction open.**  Take any calls of a
backend without connections, over any driver with transactions.

A call touches no transaction but that of its own connection.  If it commits, none is
open on that connection afterwards.  If it does not commit and its statement opens a
transaction, that is open afterwards, whether the call gave an answer or failed; a
query that is answered leaves the transaction as it was, and no call opens one in
another way.

So a transaction is open only if a call on the connection opened it and did not
commit, and no later call on that connection committed.  Such a transaction stays
open as long as the calls on its connection are queries that are answered, and
whatever is called on other connections. -/
theorem uncommitted_calls_stay_open (driver : Driver δ) (iso : Isolation driver) (site : Site)
    (maxRows : Option Int) (d : δ) (calls : List (String × String)) (id : String) :
    let start : Backend δ := { driver := d }
    let b := executeAll driver site maxRows start calls
    (∀ sql, Leaves iso site b id sql (perform b (execute driver site maxRows id sql))) ∧
      (isOpen iso b id = true →
        ∃ before sql since, LeftOpen iso site maxRows start id calls before sql since) ∧
      ∀ before sql since, LeftOpen iso site maxRows start id calls before sql since →
        (∀ first sql' rest, since = first ++ (id, sql') :: rest →
          effectOf iso site (executeAll driver site maxRows start (before ++ (id, sql) :: first)) id
              sql' = some .keeps ∧
            ∃ answer, (reply driver site maxRows start (before ++ (id, sql) :: first) id sql').1 =
              .ok answer) →
        isOpen iso b id = true := by
  intro start b
  have hknown : Known iso start := ⟨nofun, nofun⟩
  refine ⟨fun sql => leaves_reply hknown site maxRows calls id sql, ?_, ?_⟩
  · exact exists_leftOpen hknown (isOpen_of_none rfl)
  · exact fun before sql since => isOpen_of_leftOpen hknown

/-! ## A driver that refuses a statement -/

/-- Whether a statement deletes something. -/
def deletes (sql : String) : Bool := "DELETE".toList.isPrefixOf sql.toList

/-- A driver that knows of each connection whether a transaction is open, refuses to
delete anything, and answers every other statement with one row. -/
def refusing : Driver (List Bool) where
  connect _ d := (.ok d.length, d ++ [false])
  totalChanges _ _ := 0
  execute h sql d :=
    if deletes sql then (.error ⟨.integrity, "FOREIGN KEY constraint failed", false⟩, d.set h true)
    else (.ok { columns := ["1"] }, d)
  fetchMany _ _ d := (.ok [[.int 1]], d)
  fetchAll _ d := (.ok [[.int 1]], d)
  commit h d := (.ok (), d.set h false)
  close _ d := d

namespace Refusing

variable {d d' : List Bool} {h : Handle} {t : Bool} {sql : String} {answer : Except Failure Cursor}

/-- What a statement does to a transaction of this driver. -/
def effect (sql : String) : Effect := if deletes sql then .begins else .keeps

theorem deletes_of_begins (heffect : effect sql = .begins) : deletes sql = true := by
  by_contra hnot
  rw [effect, if_neg hnot] at heffect
  cases heffect

theorem not_deletes (heffect : effect sql ≠ .begins) : deletes sql = false := by
  by_contra hdeletes
  apply heffect
  rw [effect, if_pos (by simpa using hdeletes)]

/-- A new connection touches no other. -/
theorem status_concat (d : List Bool) (t : Bool) :
    (fun k => (d ++ [t])[k]?) = Function.update (fun k => d[k]?) d.length (some t) := by
  funext k
  by_cases hk : k = d.length
  · rw [hk, Function.update_self, List.getElem?_concat_length]
  · rw [Function.update_of_ne hk]
    rcases Nat.lt_or_gt_of_ne hk with hlt | hgt
    · exact List.getElem?_append_left hlt
    · have hlength : (d ++ [t]).length ≤ k := by
        rw [List.length_append]
        exact hgt
      rw [List.getElem?_eq_none hlength, List.getElem?_eq_none (Nat.le_of_lt hgt)]

/-- Setting the status of an open connection touches no other. -/
theorem status_set (hopen : d[h]? = some t) (t' : Bool) :
    (fun k => (d.set h t')[k]?) = Function.update (fun k => d[k]?) h (some t') := by
  obtain ⟨hlt, -⟩ := List.getElem?_eq_some_iff.mp hopen
  funext k
  by_cases hk : k = h
  · rw [hk, Function.update_self, List.getElem?_set_self hlt]
  · rw [Function.update_of_ne hk, List.getElem?_set_ne fun heq => hk heq.symm]

theorem execute_begins (heffect : effect sql = .begins) (hopen : d[h]? = some t)
    (hexecute : refusing.execute h sql d = (answer, d')) :
    (fun k => d'[k]?) = Function.update (fun k => d[k]?) h (some true) := by
  simp only [refusing, deletes_of_begins heffect, if_true] at hexecute
  cases hexecute
  exact status_set hopen true

/-- A statement that deletes nothing changes nothing. -/
theorem execute_same (heffect : effect sql ≠ .begins)
    (hexecute : refusing.execute h sql d = (answer, d')) : d' = d := by
  simp only [refusing, not_deletes heffect, Bool.false_eq_true, if_false] at hexecute
  cases hexecute
  rfl

theorem execute_keeps (heffect : effect sql = .keeps)
    (hexecute : refusing.execute h sql d = (answer, d')) : d' = d := by
  apply execute_same _ hexecute
  intro hbegins
  rw [heffect] at hbegins
  cases hbegins

theorem execute_other (heffect : effect sql ≠ .begins) (hopen : d[h]? = some t)
    (hexecute : refusing.execute h sql d = (answer, d')) :
    ∃ t', (fun k => d'[k]?) = Function.update (fun k => d[k]?) h (some t') ∧
      (t' = true → t = true) := by
  rw [execute_same heffect hexecute]
  refine ⟨t, ?_, id⟩
  rw [← hopen, Function.update_eq_self]

end Refusing

/-- What is expected of a driver is true of this one. -/
def refusingIsolation : Isolation refusing where
  status d h := d[h]?
  effect _ sql _ := Refusing.effect sql
  connect_ok := by
    intro path d h d' hconnect
    cases hconnect
    exact ⟨List.getElem?_eq_none (Nat.le_refl _), Refusing.status_concat d false⟩
  connect_error := by
    intro path d f d' hconnect
    cases hconnect
  execute_begins := Refusing.execute_begins
  execute_keeps := by
    intro sql d h t c d' heffect hopen hexecute
    rw [Refusing.execute_keeps heffect hexecute]
  execute_other := Refusing.execute_other
  fetchMany _ _ _ := rfl
  fetchAll _ _ := rfl
  commit_ok := by
    intro d h t d' hopen hcommit
    cases hcommit
    exact Refusing.status_set hopen false
  commit_error := by
    intro d h f d' hcommit
    cases hcommit

/-- A statement that deletes. -/
def deletion : String := "DELETE FROM t"

section Reading

open Statement

theorem tokens_deletion :
    tokens deletion.toList =
      [⟨.manipulation, "DELETE".toList⟩, ⟨.blank, [' ']⟩, ⟨.keyword, "FROM".toList⟩,
        ⟨.blank, [' ']⟩, ⟨.name, ['t']⟩] := by
  apply ReadAs.tokensAfter_eq
  simp only [ReadAs, front, placedWord?, phrase?, phrasesLength?_eq]
  decide +kernel

/-- The statement is looked into. -/
theorem returnsRows_deletion : ∃ query, returnsRows deletion = .ok query := by
  have hgroup : ((statements (tokens deletion.toList)).mapM group).isOk = true := by
    rw [tokens_deletion]
    decide +kernel
  unfold returnsRows
  cases htrees : (statements (tokens deletion.toList)).mapM group with
  | error e =>
      rw [htrees] at hgroup
      cases hgroup
  | ok trees => exact ⟨_, rfl⟩

end Reading

/-- A site without files. -/
def nowhere : Site := ⟨[], { work := [], home := [], config := [] }, Statement.returnsRows⟩

/-- The first connection of the driver that refuses to delete. -/
theorem perform_connection_refusing :
    perform { driver := [] } (connection refusing nowhere inMemory) =
      (.ok 0, { driver := [false], connections := [(inMemory, 0)],
                calls := [.connect inMemory (some 0)] }) := rfl

/-- The call fails after its statement was sent, and that is all. -/
theorem perform_deletion :
    perform { driver := [] } (execute refusing nowhere none inMemory deletion) =
      (.error (Failure.execution "FOREIGN KEY constraint failed"),
        { driver := [true], connections := [(inMemory, 0)],
          calls := [.connect inMemory (some 0), .execute 0 deletion] }) := by
  obtain ⟨query, hread⟩ : ∃ query, nowhere.returnsRows deletion = .ok query := returnsRows_deletion
  rw [execute_of_read perform_connection_refusing hread]
  cases query <;> rfl

/-- The statement opens a transaction. -/
theorem effectOf_deletion :
    effectOf refusingIsolation nowhere { driver := [] } inMemory deletion = some .begins := by
  obtain ⟨query, hread⟩ : ∃ query, nowhere.returnsRows deletion = .ok query := returnsRows_deletion
  simp only [effectOf, perform_connection_refusing, hread]
  rfl

/-- The transaction of the statement that was refused is left open. -/
theorem uncommitted_calls_stay_open_refused :
    let start : Backend (List Bool) := { driver := [] }
    LeftOpen refusingIsolation nowhere none start inMemory [(inMemory, deletion)] [] deletion [] ∧
      isOpen refusingIsolation
        (executeAll refusing nowhere none start [(inMemory, deletion)]) inMemory = true := by
  intro start
  have hreply : reply refusing nowhere none start [] inMemory deletion =
      perform start (execute refusing nowhere none inMemory deletion) := rfl
  have hleft : LeftOpen refusingIsolation nowhere none start inMemory [(inMemory, deletion)] []
      deletion [] := by
    refine ⟨rfl, effectOf_deletion, ?_, by simp⟩
    rw [hreply, perform_deletion]
    rintro ⟨query, -, r, hr, -⟩
    cases hr
  exact ⟨hleft, (uncommitted_calls_stay_open refusing refusingIsolation nowhere none []
    [(inMemory, deletion)] inMemory).2.2 [] deletion [] hleft (by simp)⟩

/-- **A statement that fails leaves its transaction open** on a connection that is kept. -/
theorem failed_deletion_stays_open :
    let start : Backend (List Bool) := { driver := [] }
    let failed := perform start (execute refusing nowhere none inMemory deletion)
    failed.1 = .error (Failure.execution "FOREIGN KEY constraint failed") ∧
      failed.2.connections.get? inMemory = some 0 ∧
      refusingIsolation.status failed.2.driver 0 = some true := by
  intro start failed
  have hfailed : failed = _ := perform_deletion
  rw [hfailed]
  exact ⟨rfl, rfl, rfl⟩

end Backend

end QueryDesk.Sqlite
