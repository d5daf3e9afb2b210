import QueryDesk.Proofs.CommandLine.Steps
import QueryDesk.Proofs.Execution.Ledger
import QueryDesk.Proofs.Execution.Messages
import QueryDesk.Proofs.History.Rewriting
import QueryDesk.Proofs.Report.Alignment
import QueryDesk.Sqlite.Script

/-!
# How a statement ends that is run from the command line

A command that runs a statement has many ways to fail: it may ask for no statement,
the system may refuse to read a file, the database may have no place, the executor may
answer with a failure.  What the user gets for it is one line that begins with a word
for an error, and the code one, or else nothing at all and a failure that nothing
handles.  The second happens at four places and at no other: a file whose name or whose
bytes are no text, a limit without a number, a database without a place, and a result
that cannot be printed to its end, since a row of its table is too long or a value in it
has no text.

Whatever happens, the history is only written when the executor answers with a result.
Then it holds the statement, unless that is blank.

## Main results

* `perform_query_failure`, `perform_query_result` — what a statement leaves.
* `query_command_ends` — all that a command that runs a statement can do.
* `undecodable_file_raises` — a file that is no text is not told as an error.
-/

namespace QueryDesk

open Execution

/-! ## A run of a new session -/

/-- Nothing is given back of a query that the archive takes. -/
theorem Coordinator.record_eq_none {σ : Type} {archive : Archive σ} {c : Coordinator σ}
    {connection sql : String}
    (hsave : Text.isBlankText sql = false → (archive.save c.store connection sql).2.1 = .ok ()) :
    (c.record (some archive) connection sql).2.1 = none := by
  unfold Coordinator.record
  cases hblank : Text.isBlankText sql with
  | true => simp
  | false => simp [hsave hblank]

/-- What becomes of a history document when a statement is recorded that is not blank,
or is not recorded because it is: either way the file tells which. -/
theorem History.Store.archived_session (store : History.Store) (hcap : 0 < store.cap)
    {fs : Storage.FileSystem} {s : Storage.Surroundings} {fields : Storage.Fields}
    {logs : List Log.Record} (hready : store.document.Ready fs s)
    (hload : store.document.load fs s = .ok (fields, logs)) (connection sql : String) :
    let files := Coordinator.archived (some (store.archive s)) fs connection sql
    (Text.isBlankText sql = true → files = fs) ∧
      (Text.isBlankText sql = false →
        ((store.archive s).save fs connection sql).2.1 = .ok ()) ∧
      ∃ queries logs', store.load files s connection = .ok (queries, logs') ∧
        (Text.strip sql ∈ queries ↔ Text.isBlankText sql = false) := by
  intro files
  cases hblank : Text.isBlankText sql with
  | true =>
      have hfiles : files = fs := by simp [files, Coordinator.archived, hblank]
      refine ⟨fun _ => hfiles, nofun, History.queriesOf fields connection, logs, ?_, ?_⟩
      · rw [hfiles]
        exact History.load_of_document hload connection
      · have hnot : Text.strip sql ∉ History.queriesOf fields connection := fun hmem => by
          have hkept := History.notBlank_of_mem_queriesOf hmem
          rw [Text.isBlankText_strip, hblank] at hkept
          cases hkept
        simp [hnot]
  | false =>
      have hstrip : Text.strip sql ≠ "" := fun h => by
        rw [Text.strip_eq_empty_iff.mp h] at hblank
        cases hblank
      obtain ⟨fs', hsave, hloaded⟩ := History.save_of_load hready hload connection hstrip
      have hfiles : files = fs' := by
        simp [files, Coordinator.archived, hblank, History.Store.archive, hsave]
      let after := History.recorded store.cap fields connection (Text.strip sql)
      refine ⟨nofun, fun _ => ?_, History.queriesOf after connection, [], ?_, ?_⟩
      · simp [History.Store.archive, hsave, Except.mapError]
      · rw [hfiles]
        exact History.load_of_document hloaded connection
      · have hmem := History.mem_queriesOf_recorded hcap fields connection
          ((Text.isBlankText_strip sql).trans hblank)
        exact iff_of_true hmem rfl

namespace Session

variable {σ : Type} (settings : Settings) (store : σ) {connection : String}

/-- The coordinator of a new session whose only run waits for its answer. -/
def awaiting : Coordinator σ :=
  { state := .pending, latest := 1, ring := some { cap := some settings.maxHistory }, store }

/-- A run that nothing interrupts is the executor's answer to a waiting one. -/
theorem run_new (archive : Option (Archive σ)) (hconnection : connection ≠ "") (sql : String)
    (outcome : Outcome) :
    let r := (Session.new settings store).run archive (some connection) sql fun _ _ => outcome
    let answer := Coordinator.answer archive (awaiting settings store) 1 ⟨connection, sql, .called⟩
      outcome
    r.1.coordinator = answer.1 ∧ r.2.reply = answer.2.reply ∧ r.2.logs = answer.2.logs := by
  have hsubmit : ((Session.new settings store).coordinator).submit (some connection) sql =
      ({ awaiting settings store with runs := [(1, ⟨connection, sql, .accepted⟩)] },
        { reply := .accepted 1 }) := by
    simp [Coordinator.submit, Session.new, Coordinator.transition, OrderedMap.put, awaiting]
  simp only [Session.run, Session.execute, Coordinator.step, hsubmit]
  cases outcome <;> exact ⟨rfl, rfl, rfl⟩

/-- A failure of the executor is told, and nothing is recorded. -/
theorem run_new_failure (archive : Option (Archive σ)) (hconnection : connection ≠ "")
    (sql : String) (f : Failure) :
    let r := (Session.new settings store).run archive (some connection) sql fun _ _ => .failure f
    r.1.coordinator.store = store ∧ r.2.reply = .raised f.asExecution f.cause? := by
  obtain ⟨hcoordinator, hreply, -⟩ := run_new settings store archive hconnection sql (.failure f)
  exact ⟨congrArg Coordinator.store hcoordinator, hreply⟩

/-- A result is answered, if the archive takes what there is to record. -/
theorem run_new_success (archive : Archive σ) (hconnection : connection ≠ "") {sql : String}
    (hsave : Text.isBlankText sql = false → (archive.save store connection sql).2.1 = .ok ())
    (result : Result) :
    let r := (Session.new settings store).run (some archive) (some connection) sql
      fun _ _ => .success result
    r.1.coordinator.store = Coordinator.archived (some archive) store connection sql ∧
      r.2.reply = .answered result := by
  obtain ⟨hcoordinator, hreply, -⟩ :=
    run_new settings store (some archive) hconnection sql (.success result)
  constructor
  · rw [hcoordinator]
    simp [Coordinator.answer, Coordinator.succeed, awaiting, Coordinator.record_fst,
      Coordinator.transition]
  · have hrecord : (Coordinator.record (some archive)
        ({ awaiting settings store with result := some result }.transition .succeeded).1
        connection sql).2.1 = none :=
      Coordinator.record_eq_none hsave
    rw [hreply]
    have hlatest : ¬ (1 ≠ (awaiting settings store).latest) := not_not_intro rfl
    simp only [Coordinator.answer, Coordinator.succeed, if_neg hlatest, hrecord]

end Session

namespace CommandLine

open Storage

namespace Terminal

variable {δ : Type}

/-- The store of the history. -/
def store (t : Terminal δ) (settings : Settings) : History.Store :=
  History.Store.at (Location.path (t.surroundings.config ++ ["query_history.json"]))
    (some settings.maxHistory)

theorem store_cap_pos (t : Terminal δ) (settings : Settings) : 0 < (t.store settings).cap := by
  unfold store History.Store.at
  simp only [Option.getD_some]
  split
  · decide
  · omega

/-- The settings can be read, and the history can be read and written. -/
structure Works (t : Terminal δ) (settings : Settings) : Prop where
  reads : ∃ path logs, Settings.path t.surroundings t.settingsPath = .ok path ∧
    Settings.load ⟨path⟩ t.files t.surroundings = .ok (settings, logs)
  ready : (t.store settings).document.Ready t.files t.surroundings
  loads : ∃ fields logs,
    (t.store settings).document.load t.files t.surroundings = .ok (fields, logs)

/-- The cap on the rows that a limit stands for. -/
def capFor (settings : Settings) : Given Int → Option Int
  | .value n => if 0 < n then some n else none
  | _ => some settings.maxRows

/-- What the executor answers to a statement, over new connections. -/
def executed (t : Terminal δ) (driver : Sqlite.Driver δ) (cap : Option Int)
    (connection sql : String) : Except Failure Result × Sqlite.Backend δ :=
  ({ driver := t.driver } : Sqlite.Backend δ).perform
    (Sqlite.Backend.execute driver t.site cap connection sql)

/-! ## The parts of running a statement -/

section Parts

variable {t : Terminal δ} {settings : Settings}

theorem perform_settings {path : Path} {logs : List Log.Record}
    (hpath : Settings.path t.surroundings t.settingsPath = .ok path)
    (hload : Settings.load ⟨path⟩ t.files t.surroundings = .ok (settings, logs)) :
    t.perform Step.settings = (.ok settings, t.logged logs) := by
  simp only [Step.settings, perform_bind, perform_get, hpath, perform_unlessError,
    Except.mapError, hload, perform_log, perform_pure]

theorem perform_rowCap {limit : Given Int} (hlimit : limit ≠ .blank) :
    t.perform (Step.rowCap settings limit) = (.ok (capFor settings limit), t) := by
  cases limit with
  | blank => exact absurd rfl hlimit
  | nothing | value => rfl

theorem perform_database (t : Terminal δ) (path : String) :
    t.perform (Step.database path) =
      ((Sqlite.databasePath t.files t.surroundings path).mapError Sqlite.pathFailure, t) := by
  simp [Step.database]

theorem perform_withBackend {α : Type} (t : Terminal δ) (b : Sqlite.Backend δ)
    (a : Sqlite.Action δ α) :
    t.perform (Step.withBackend b a) =
      (.ok ({ b with calls := [] }.perform a),
        { t with driver := ({ b with calls := [] }.perform a).2.driver
                 calls := t.calls ++ ({ b with calls := [] }.perform a).2.calls }) := by
  rfl

/-- The full path of a database is never empty. -/
theorem databasePath_ne_empty {fs : FileSystem} {s : Surroundings} {path connection : String}
    (h : Sqlite.databasePath fs s path = .ok connection) : connection ≠ "" := by
  unfold Sqlite.databasePath at h
  split at h
  next hmemory =>
      obtain rfl := Except.ok.inj h
      rw [hmemory]
      decide
  next =>
      cases hexpand : (Path.ofString path).expand s with
      | error e => simp [hexpand, bind, Except.bind] at h
      | ok p =>
          cases hresolve : fs.resolve s p with
          | error e => simp [hexpand, hresolve, bind, Except.bind] at h
          | ok l =>
              obtain rfl : l.text = connection := by
                simpa [hexpand, hresolve, bind, Except.bind, pure, Except.pure] using h
              simp [Location.text, Location.path, Path.text]

end Parts

/-! ## Running a statement -/

section Queries

variable {t : Terminal δ} {settings : Settings} {driver : Sqlite.Driver δ}
  {path sql connection : String} {format : Report.Format} {limit : Given Int}

@[simp] theorem history_logged (t : Terminal δ) (records : List Log.Record) :
    (t.logged records).history settings = t.history settings := by
  simp [history]

/-- Where the executor is not asked, because the limit has no number or the database no
place, nothing is printed and nothing handles the failure. -/
theorem perform_query_unasked (driver : Sqlite.Driver δ) (sql : String) (format : Report.Format)
    (hworks : t.Works settings)
    (h : limit = .blank ∨ ∃ e, Sqlite.databasePath t.files t.surroundings path = .error e) :
    ∃ f after, t.perform (Step.query driver path sql format limit) = (.error f, after) ∧
      after.files = t.files ∧ after.out = t.out := by
  obtain ⟨place, logs, hplace, hload⟩ := hworks.reads
  by_cases hlimit : limit = .blank
  · refine ⟨⟨.type, "not a number", true⟩, t.logged logs, ?_, files_logged .., out_logged ..⟩
    simp only [hlimit, Step.query, perform_bind, perform_settings hplace hload, Step.rowCap,
      perform_throw]
  · obtain ⟨e, hpath⟩ := h.resolve_left hlimit
    refine ⟨Sqlite.pathFailure e, t.logged logs, ?_, files_logged .., out_logged ..⟩
    simp only [Step.query, perform_bind, perform_settings hplace hload, perform_rowCap hlimit,
      perform_database, surroundings_logged, files_logged, hpath, Except.mapError]

/-- **What running a statement does**: the executor answers, the session makes of it what
is kept, and what is printed is left to the end. -/
theorem perform_query (driver : Sqlite.Driver δ) (sql : String) (format : Report.Format)
    (hworks : t.Works settings) (hlimit : limit ≠ .blank)
    (hpath : Sqlite.databasePath t.files t.surroundings path = .ok connection) :
    ∃ records,
      let e := t.executed driver (capFor settings limit) connection sql
      let r := (Session.new settings t.files).run (some (t.history settings)) (some connection) sql
        fun _ _ => Step.outcomeOf e.1
      t.perform (Step.query driver path sql format limit) =
        ({ t.logged records with
            files := r.1.coordinator.store
            driver := e.2.driver
            calls := t.calls ++ e.2.calls
            out := t.out } : Terminal δ).perform (Step.tell format r.2.reply) := by
  obtain ⟨place, logs, hplace, hload⟩ := hworks.reads
  let e := t.executed driver (capFor settings limit) connection sql
  let r := (Session.new settings t.files).run (some (t.history settings)) (some connection) sql
    fun _ _ => Step.outcomeOf e.1
  have hdatabase :
      (t.logged logs).perform (Step.database path) = (.ok connection, t.logged logs) := by
    rw [perform_database, surroundings_logged, files_logged, hpath]
    rfl
  have hdone : t.perform (Step.query driver path sql format limit) =
      (({ t.logged logs with
            files := r.1.coordinator.store
            driver := e.2.driver
            calls := t.calls ++ e.2.calls
            out := t.out } : Terminal δ).logged r.2.logs).perform (Step.tell format r.2.reply) := by
    simp only [Step.query, perform_bind, perform_settings hplace hload, perform_rowCap hlimit,
      hdatabase, perform_get, perform_withBackend, perform_modify, perform_log, files_logged,
      surroundings_logged, site_logged, driver_logged, calls_logged, out_logged, history_logged]
    rfl
  refine ⟨logs ++ r.2.logs, ?_⟩
  rw [hdone, logged_with, logged_append]

/-- What is printed of a result at a terminal. -/
def print (t : Terminal δ) (format : Report.Format) (r : Result) : Report.Printout :=
  Report.print t.surroundings.room format r

/-- The code of a result that was printed, or the failure that broke it off. -/
def printed (p : Report.Printout) : Except Failure Nat :=
  match p.failure with
  | none => .ok 0
  | some b => .error (Step.breakFailure b)

theorem perform_tell_answered (t : Terminal δ) (format : Report.Format) (r : Result) :
    t.perform (Step.tell format (.answered r)) =
      (printed (t.print format r),
        { t with out := t.out ++ (t.print format r).out
                 err := t.err ++ (t.print format r).err }) := by
  simp only [Step.tell, perform_bind, perform_get, perform_write, perform_complain, print, printed]
  cases (Report.print t.surroundings.room format r).failure with
  | none => rw [perform_pure]
  | some b => rw [perform_throw]

theorem perform_tell_failure (t : Terminal δ) (format : Report.Format) (f : Failure)
    (cause : Option FailureKind) :
    t.perform (Step.tell format (.raised f.asExecution cause)) =
      (.ok 1, { t with out := t.out ++ ("Error: " ++ f.asExecution.text ++ "\n") }) := by
  simp only [Step.tell, Failure.kind_asExecution, decide_true, Bool.true_or, if_true, perform_bind,
    perform_write, perform_pure]

/-- **A failure of the executor** is told in one line, and nothing is recorded. -/
theorem perform_query_failure (format : Report.Format) (hworks : t.Works settings)
    (hlimit : limit ≠ .blank)
    (hpath : Sqlite.databasePath t.files t.surroundings path = .ok connection) {f : Failure}
    (hf : (t.executed driver (capFor settings limit) connection sql).1 = .error f) :
    ∃ after, t.perform (Step.query driver path sql format limit) = (.ok 1, after) ∧
      after.files = t.files ∧ after.out = t.out ++ ("Error: " ++ f.asExecution.text ++ "\n") ∧
      ∃ records, after.err = (t.logged records).err := by
  obtain ⟨records, hquery⟩ := perform_query driver sql format hworks hlimit hpath
  obtain ⟨hstore, hreply⟩ := Session.run_new_failure settings t.files (some (t.history settings))
    (databasePath_ne_empty hpath) sql f
  simp only [hf, Step.outcomeOf, hstore, hreply, perform_tell_failure] at hquery
  exact ⟨_, hquery, rfl, rfl, records, rfl⟩

/-- **A result of the executor** is printed, and its statement is in the history unless it
is blank. -/
theorem perform_query_result (format : Report.Format) (hworks : t.Works settings)
    (hlimit : limit ≠ .blank)
    (hpath : Sqlite.databasePath t.files t.surroundings path = .ok connection) {r : Result}
    (hr : (t.executed driver (capFor settings limit) connection sql).1 = .ok r) :
    ∃ after, t.perform (Step.query driver path sql format limit) =
        (printed (t.print format r), after) ∧
      after.out = t.out ++ (t.print format r).out ∧
      (∃ records, after.err = (t.logged records).err ++ (t.print format r).err) ∧
      (Text.isBlankText sql = true → after.files = t.files) ∧
      ∃ queries logs,
        (t.store settings).load after.files t.surroundings connection = .ok (queries, logs) ∧
        (Text.strip sql ∈ queries ↔ Text.isBlankText sql = false) := by
  obtain ⟨records, hquery⟩ := perform_query driver sql format hworks hlimit hpath
  obtain ⟨fields, logs, hload⟩ := hworks.loads
  obtain ⟨hblank, hsave, queries, logs', hqueries, hmem⟩ :=
    (t.store settings).archived_session (t.store_cap_pos settings) hworks.ready hload connection sql
  obtain ⟨hstore, hreply⟩ := Session.run_new_success settings t.files (t.history settings)
    (databasePath_ne_empty hpath) hsave r
  simp only [hr, Step.outcomeOf, hstore, hreply, perform_tell_answered, print,
    surroundings_logged] at hquery
  exact ⟨_, hquery, rfl, ⟨records, rfl⟩, hblank, queries, logs', hqueries, hmem⟩

end Queries

/-! ## The whole command -/

/-- A result with columns that cannot be printed to its end at a terminal. -/
def BreaksOff (t : Terminal δ) (format : Report.Format) (r : Result) : Prop :=
  r.columns ≠ [] ∧ Report.Unprinted t.surroundings.room r format

section Command

variable {t : Terminal δ} {settings : Settings} {driver : Sqlite.Driver δ} {path : String}
  {sql file : Option String} {format : Report.Format} {limit : Given Int}

theorem perform_queryCommand_told {message : String} (h : t.Asks sql file (.error message)) :
    t.perform (Step.queryCommand driver path sql file format limit) =
      (.ok 1, { t with out := t.out ++ message }) := by
  simp only [Step.queryCommand, perform_bind, perform_statement h, perform_pure]

theorem perform_queryCommand_asked {statement : String} (h : t.Asks sql file (.ok statement)) :
    t.perform (Step.queryCommand driver path sql file format limit) =
      t.perform (Step.query driver path statement format limit) := by
  simp only [Step.queryCommand, perform_bind, perform_statement h]

theorem perform_queryCommand_undecodable (driver : Sqlite.Driver δ) (path : String)
    (format : Report.Format) (limit : Given Int) (h : t.Undecodable sql file) :
    ∃ f, t.perform (Step.queryCommand driver path sql file format limit) = (.error f, t) := by
  obtain ⟨f, hf⟩ := perform_statement_undecodable h
  exact ⟨f, by simp only [Step.queryCommand, perform_bind, hf]⟩

/-- How a command that runs a statement ends: its code or its failure, and what it leaves
behind. -/
structure CommandEnds (driver : Sqlite.Driver δ) (t : Terminal δ) (settings : Settings)
    (path : String) (sql file : Option String) (format : Report.Format) (limit : Given Int)
    (answer : Except Failure Nat) (after : Terminal δ) : Prop where
  /-- Where there is no statement, a message that says so is all that happens. -/
  told : ∀ message, t.Asks sql file (.error message) →
    answer = .ok 1 ∧ after = { t with out := t.out ++ message } ∧
      "Error".toList <+: message.toList
  /-- Where the executor fails, its failure is all that is printed but for the log, and no
  file changes. -/
  failed : ∀ statement connection f, t.Asks sql file (.ok statement) → limit ≠ .blank →
    Sqlite.databasePath t.files t.surroundings path = .ok connection →
    (t.executed driver (capFor settings limit) connection statement).1 = .error f →
    answer = .ok 1 ∧ after.files = t.files ∧
      after.out = t.out ++ ("Error: " ++ f.asExecution.text ++ "\n") ∧
      ∃ records, after.err = (t.logged records).err
  /-- Where it answers with a result, that is printed, and the statement is in the history
  of the database unless it is blank. -/
  answered : ∀ statement connection r, t.Asks sql file (.ok statement) → limit ≠ .blank →
    Sqlite.databasePath t.files t.surroundings path = .ok connection →
    (t.executed driver (capFor settings limit) connection statement).1 = .ok r →
    (¬ t.BreaksOff format r → answer = .ok 0) ∧
      after.out = t.out ++ (t.print format r).out ∧
      (∃ records, after.err = (t.logged records).err ++ (t.print format r).err) ∧
      ∃ queries logs,
        (t.store settings).load after.files t.surroundings connection = .ok (queries, logs) ∧
        (Text.strip statement ∈ queries ↔ Text.isBlankText statement = false)
  /-- A failure that nothing handles: of a file that is no text, of a limit without a
  number, of a database without a place, or of a result that cannot be printed to its
  end. -/
  raised : (∃ f, answer = .error f) ↔ t.Undecodable sql file ∨
    ∃ statement, t.Asks sql file (.ok statement) ∧
      (limit = .blank ∨ (∃ e, Sqlite.databasePath t.files t.surroundings path = .error e) ∨
        ∃ connection r, limit ≠ .blank ∧
          Sqlite.databasePath t.files t.surroundings path = .ok connection ∧
          (t.executed driver (capFor settings limit) connection statement).1 = .ok r ∧
          t.BreaksOff format r)
  /-- Of a file that is no text nothing at all is told. -/
  untold : t.Undecodable sql file → after = t
  /-- Nor is anything printed where the executor is not asked. -/
  unasked : ∀ statement, t.Asks sql file (.ok statement) →
    (limit = .blank ∨ ∃ e, Sqlite.databasePath t.files t.surroundings path = .error e) →
    after.out = t.out ∧ after.files = t.files
  /-- Files change for nothing but a result of a statement that is not blank. -/
  kept : after.files ≠ t.files → ∃ statement connection r, t.Asks sql file (.ok statement) ∧
    limit ≠ .blank ∧ Sqlite.databasePath t.files t.surroundings path = .ok connection ∧
    (t.executed driver (capFor settings limit) connection statement).1 = .ok r ∧
    Text.isBlankText statement = false

/-- A result is answered with a failure exactly if it cannot be printed to its end. -/
theorem printed_error_iff {r : Result} :
    (∃ f, printed (t.print format r) = .error f) ↔ t.BreaksOff format r := by
  rw [BreaksOff, ← Report.print_breaks_off_iff]
  show (∃ f, printed (t.print format r) = .error f) ↔ (t.print format r).failure ≠ none
  unfold printed
  cases (t.print format r).failure <;> simp

/-- A result that can be printed to its end is answered with the code of success. -/
theorem printed_eq_ok {r : Result} (h : ¬ t.BreaksOff format r) :
    printed (t.print format r) = .ok 0 := by
  rw [BreaksOff, ← Report.print_breaks_off_iff, not_not] at h
  unfold printed
  rw [show (t.print format r).failure = none from h]

/-- What running a statement comes to. -/
inductive QueryEnds (driver : Sqlite.Driver δ) (t : Terminal δ) (settings : Settings)
    (path statement : String) (format : Report.Format) (limit : Given Int)
    (answer : Except Failure Nat) (after : Terminal δ) : Prop
  /-- The executor is not asked: the limit has no number, or the database no place. -/
  | unasked {f : Failure}
      (h : limit = .blank ∨ ∃ e, Sqlite.databasePath t.files t.surroundings path = .error e)
      (hanswer : answer = .error f) (hfiles : after.files = t.files)
  | failed (hanswer : answer = .ok 1) (hfiles : after.files = t.files)
  | answered {connection : String} {r : Result} (hlimit : limit ≠ .blank)
      (hpath : Sqlite.databasePath t.files t.surroundings path = .ok connection)
      (hr : (t.executed driver (capFor settings limit) connection statement).1 = .ok r)
      (hanswer : (∃ f, answer = .error f) ↔ t.BreaksOff format r)
      (hblank : Text.isBlankText statement = true → after.files = t.files)

theorem query_ends (driver : Sqlite.Driver δ) (path : String) (format : Report.Format)
    (limit : Given Int) (hworks : t.Works settings) (statement : String) :
    QueryEnds driver t settings path statement format limit
      (t.perform (Step.query driver path statement format limit)).1
      (t.perform (Step.query driver path statement format limit)).2 := by
  by_cases h : limit = .blank ∨ ∃ e, Sqlite.databasePath t.files t.surroundings path = .error e
  · obtain ⟨f, after, hrun, hfiles, -⟩ := perform_query_unasked driver statement format hworks h
    rw [hrun]
    exact .unasked h rfl hfiles
  · obtain ⟨hlimit, hplace⟩ := not_or.mp h
    cases hpath : Sqlite.databasePath t.files t.surroundings path with
    | error e => exact absurd ⟨e, hpath⟩ hplace
    | ok connection =>
        cases hexecuted : (t.executed driver (capFor settings limit) connection statement).1 with
        | error f =>
            obtain ⟨after, hrun, hfiles, -⟩ :=
              perform_query_failure format hworks hlimit hpath hexecuted
            rw [hrun]
            exact .failed rfl hfiles
        | ok r =>
            obtain ⟨after, hrun, -, -, hblank, -⟩ :=
              perform_query_result format hworks hlimit hpath hexecuted
            rw [hrun]
            exact .answered hlimit hpath hexecuted printed_error_iff hblank

/-- Which statements end in a failure that nothing handles. -/
theorem query_raises_iff (hworks : t.Works settings) (statement : String) :
    (∃ f, (t.perform (Step.query driver path statement format limit)).1 = .error f) ↔
      limit = .blank ∨ (∃ e, Sqlite.databasePath t.files t.surroundings path = .error e) ∨
        ∃ connection r, limit ≠ .blank ∧
          Sqlite.databasePath t.files t.surroundings path = .ok connection ∧
          (t.executed driver (capFor settings limit) connection statement).1 = .ok r ∧
          t.BreaksOff format r := by
  have hends := query_ends driver path format limit hworks statement
  constructor
  · rintro ⟨f, hf⟩
    cases hends with
    | unasked h => exact h.imp_right .inl
    | failed hanswer => cases hanswer.symm.trans hf
    | answered hlimit hpath hr hanswer =>
        exact .inr (.inr ⟨_, _, hlimit, hpath, hr, hanswer.mp ⟨f, hf⟩⟩)
  · intro h
    rcases or_assoc.mpr h with hunasked | ⟨connection, r, hlimit, hpath, hr, hover⟩
    · obtain ⟨f, after, hrun, -⟩ := perform_query_unasked driver statement format hworks hunasked
      exact ⟨f, congrArg Prod.fst hrun⟩
    · obtain ⟨after, hrun, -⟩ := perform_query_result format hworks hlimit hpath hr
      rw [hrun]
      exact printed_error_iff.mpr hover

/-- A statement that changes a file has a result and is not blank. -/
theorem query_keeps (hworks : t.Works settings) (statement : String)
    (h : (t.perform (Step.query driver path statement format limit)).2.files ≠ t.files) :
    ∃ connection r, limit ≠ .blank ∧
      Sqlite.databasePath t.files t.surroundings path = .ok connection ∧
      (t.executed driver (capFor settings limit) connection statement).1 = .ok r ∧
      Text.isBlankText statement = false := by
  cases query_ends driver path format limit hworks statement with
  | unasked _ _ hfiles => exact absurd hfiles h
  | failed _ hfiles => exact absurd hfiles h
  | answered hlimit hpath hr _ hblank =>
      exact ⟨_, _, hlimit, hpath, hr, Bool.eq_false_iff.mpr fun hb => h (hblank hb)⟩

/-- **How a command that runs a statement ends**, whatever is asked for, whatever the file
holds and whatever the executor answers. -/
theorem query_command_ends (driver : Sqlite.Driver δ) (t : Terminal δ) (settings : Settings)
    (hworks : t.Works settings) (path : String) (sql file : Option String)
    (format : Report.Format) (limit : Given Int) :
    CommandEnds driver t settings path sql file format limit
      (t.perform (Step.queryCommand driver path sql file format limit)).1
      (t.perform (Step.queryCommand driver path sql file format limit)).2 where
  told message hasked := by
    rw [perform_queryCommand_told hasked]
    exact ⟨rfl, rfl, hasked.error_prefix⟩
  failed statement connection f hasked hlimit hpath hf := by
    obtain ⟨after, hrun, hfiles, hout, herr⟩ :=
      perform_query_failure format hworks hlimit hpath hf
    rw [perform_queryCommand_asked hasked, hrun]
    exact ⟨rfl, hfiles, hout, herr⟩
  answered statement connection r hasked hlimit hpath hr := by
    obtain ⟨after, hrun, hout, herr, -, hhistory⟩ :=
      perform_query_result format hworks hlimit hpath hr
    rw [perform_queryCommand_asked hasked, hrun]
    exact ⟨printed_eq_ok, hout, herr, hhistory⟩
  raised := by
    constructor
    · rintro ⟨f, hf⟩
      rcases t.asks_or_undecodable sql file with ⟨asked, hasked⟩ | hundecodable
      · cases asked with
        | error message =>
            rw [perform_queryCommand_told hasked] at hf
            cases hf
        | ok statement =>
            rw [perform_queryCommand_asked hasked] at hf
            exact .inr ⟨statement, hasked, (query_raises_iff hworks statement).mp ⟨f, hf⟩⟩
      · exact .inl hundecodable
    · rintro (hundecodable | ⟨statement, hasked, hends⟩)
      · obtain ⟨f, hf⟩ := perform_queryCommand_undecodable driver path format limit hundecodable
        exact ⟨f, by rw [hf]⟩
      · rw [perform_queryCommand_asked hasked]
        exact (query_raises_iff hworks statement).mpr hends
  untold hundecodable := by
    obtain ⟨f, hf⟩ := perform_queryCommand_undecodable driver path format limit hundecodable
    rw [hf]
  unasked statement hasked h := by
    obtain ⟨f, after, hrun, hfiles, hout⟩ :=
      perform_query_unasked driver statement format hworks h
    rw [perform_queryCommand_asked hasked, hrun]
    exact ⟨hout, hfiles⟩
  kept hchanged := by
    rcases t.asks_or_undecodable sql file with ⟨asked, hasked⟩ | hundecodable
    · cases asked with
      | error message =>
          rw [perform_queryCommand_told hasked] at hchanged
          exact absurd rfl hchanged
      | ok statement =>
          rw [perform_queryCommand_asked hasked] at hchanged
          obtain ⟨connection, r, hends⟩ := query_keeps hworks statement hchanged
          exact ⟨statement, connection, r, hasked, hends⟩
    · obtain ⟨f, hf⟩ := perform_queryCommand_undecodable driver path format limit hundecodable
      rw [hf] at hchanged
      exact absurd rfl hchanged

end Command

/-! ## A file beside the history -/

/-- A terminal at the root, with a file of some bytes in it and a driver that answers one
statement with a row. -/
def atRoot (bytes : List UInt8) : Terminal Sqlite.Script :=
  { files := [(["q.sql"], .file bytes 0o600)]
    surroundings := { work := [], home := [], config := [] }
    driver := { items := [{ columns := ["n"], rows := [[.int 1]] }] }
    returnsRows := Statement.returnsRows
    layout := fun _ => "" }

theorem works_atRoot (bytes : List UInt8) : (atRoot bytes).Works {} where
  reads := ⟨Location.path ["settings.json"], [], rfl, rfl⟩
  ready := by
    -- The place of the history does not depend on the bytes of the other file.
    have hhoused : ((atRoot []).store {}).document.Housed (atRoot bytes).files
        (atRoot bytes).surroundings (atRoot bytes).files [] := by
      refine ⟨⟨rfl, rfl, FileSystem.isDirectory_root _⟩, rfl, by decide, by decide, by decide, ?_⟩
      rintro ⟨mode, hmode⟩
      cases hmode
    exact ⟨FileSystem.isDirectory_root _, _, _, hhoused⟩
  loads := ⟨[], [], rfl⟩

/-- A statement in a file. -/
theorem query_command_ends_file :
    let t := atRoot (Text.Utf8.encode "SELECT 1".toList)
    let ended := t.perform
      (Step.queryCommand Sqlite.Script.driver ":memory:" none (some "q.sql") .csv .nothing)
    t.Works {} ∧ CommandEnds Sqlite.Script.driver t {} ":memory:" none (some "q.sql") .csv
      .nothing ended.1 ended.2 :=
  ⟨works_atRoot _, query_command_ends _ _ _ (works_atRoot _) _ _ _ _ _⟩

/-- **A file that is no text raises**: its only byte begins no character, and the command
ends in a failure that nothing handles, with nothing printed. -/
theorem undecodable_file_raises :
    let t := atRoot [0xff]
    t.Works {} ∧ ∃ f, t.perform
      (Step.queryCommand Sqlite.Script.driver ":memory:" none (some "q.sql") .csv .nothing) =
        (.error f, t) := by
  intro t
  have hbytes : ∀ cs, [0xff] ≠ Text.Utf8.encode cs := fun cs h => by
    have hdecode : Text.Utf8.decode? [0xff] = some cs := Text.Utf8.decode?_eq_some_iff.mpr h
    rw [show Text.Utf8.decode? [0xff] = none by decide +kernel] at hdecode
    exact nomatch hdecode
  have hundecodable : t.Undecodable none (some "q.sql") :=
    .bytes rfl (by decide) rfl rfl hbytes
  exact ⟨works_atRoot _, perform_queryCommand_undecodable _ _ _ _ hundecodable⟩

end Terminal

end CommandLine

end QueryDesk
