import QueryDesk.CommandLine.Invocation
import QueryDesk.CommandLine.Offer
import QueryDesk.History.Archive
import QueryDesk.Json.Writer
import QueryDesk.Session
import QueryDesk.Sqlite.Backend

/-!
# The program

What an invocation does to the terminal it is called from: the files, the two
channels that it writes to, its log and the driver of the databases. An
invocation ends with a code, or with a failure that nothing handles; what was
written until then stays.
-/

namespace QueryDesk.CommandLine

open Execution (Archive Failure Outcome)
open Sqlite (Backend Driver)
open Storage

/-- Where the records of the log go. -/
inductive LogTarget where
  /-- The error channel. -/
  | channel
  /-- A file, because the editor owns the terminal. -/
  | file
  deriving DecidableEq, Repr

/-- How the log is kept. -/
structure Logging where
  threshold : Option Log.Level
  target : LogTarget
  deriving DecidableEq, Repr

/-- The editor as it was opened. -/
structure Opening where
  connection : Option String
  settings : Settings
  deriving Repr

/-- What an invocation finds and leaves behind. -/
structure Terminal (δ : Type) where
  files : FileSystem
  surroundings : Surroundings
  /-- The path of the settings, if it was set. -/
  settingsPath : Option String := none
  /-- What is typed in. -/
  input : String := ""
  /-- The driver of the databases. -/
  driver : δ
  /-- Whether a statement is expected to have rows. -/
  returnsRows : String → Except Statement.Excess Bool
  /-- How a record is written in the log. -/
  layout : Log.Record → String
  out : String := ""
  err : String := ""
  logging : Option Logging := none
  /-- The records that passed the threshold. -/
  logs : List Log.Record := []
  /-- The calls of the driver. -/
  calls : List Sqlite.Call := []
  opened : List Opening := []

/-- Something done at a terminal, which may fail on the way. -/
abbrev Step (δ : Type) := ExceptT Failure (StateM (Terminal δ))

namespace Terminal

variable {δ : Type}

/-- Adds a record to the log if it passes the threshold. -/
def record (t : Terminal δ) (r : Log.Record) : Terminal δ :=
  if !Log.passes (t.logging.bind (·.threshold)) r.level then t
  else
    let t := { t with logs := t.logs ++ [r] }
    match t.logging with
    | some { target := .channel, .. } => { t with err := t.err ++ t.layout r }
    | _ => t

/-- The document of the history. -/
def history (t : Terminal δ) (settings : Settings) : Archive FileSystem :=
  let path := Location.path (t.surroundings.config ++ ["query_history.json"])
  (History.Store.at path (some settings.maxHistory)).archive t.surroundings

/-- What the connections of a terminal are made and used with. -/
def site (t : Terminal δ) : Sqlite.Site := ⟨t.files, t.surroundings, t.returnsRows⟩

end Terminal

namespace Step

variable {δ : Type}

/-- Writes to the output. -/
def write (text : String) : Step δ Unit := modify fun t => { t with out := t.out ++ text }

/-- Writes to the error channel. -/
def complain (text : String) : Step δ Unit := modify fun t => { t with err := t.err ++ text }

/-- Adds records to the log. -/
def log (records : List Log.Record) : Step δ Unit := modify (records.foldl Terminal.record)

/-- Goes on with a value, or fails as the error says. -/
def unlessError {ε α : Type} (failure : ε → Failure) : Except ε α → Step δ α
  | .ok a => pure a
  | .error e => throw (failure e)

/-- Keeps the log from now on. -/
def configureLog (level : String) (target : LogTarget) : Step δ Unit :=
  modify fun t => { t with logging := some ⟨(Log.thresholds.lookup level).getD none, target⟩ }

/-- The settings, as they are at the moment. -/
def settings : Step δ Settings := do
  let t ← get
  let path ← unlessError Sqlite.pathFailure (Settings.path t.surroundings t.settingsPath)
  let (s, logs) ← unlessError History.loadFailure
    (Settings.load ⟨path⟩ t.files t.surroundings)
  log logs
  pure s

/-- The full path of a database. -/
def database (path : String) : Step δ String := do
  let t ← get
  unlessError Sqlite.pathFailure (Sqlite.databasePath t.files t.surroundings path)

/-- Does something with connections that were not used before, and notes the calls. -/
def withBackend {α : Type} (b : Backend δ) (a : Sqlite.Action δ α) :
    Step δ (Except Failure α × Backend δ) := do
  let (answer, b) := { b with calls := [] }.perform a
  modify fun t => { t with driver := b.driver, calls := t.calls ++ b.calls }
  pure (answer, b)

/-- The text of a file, unless it cannot be read, which is told. -/
def fileText (name : String) : Step δ (Option String) := do
  let t ← get
  let path := Path.ofString name
  if path.hasNul then throw (Sqlite.pathFailure .nulCharacter)
  match t.files.read t.surroundings.work path with
  | .error .notFound =>
    write ("Error: File '" ++ name ++ "' not found.\n")
    pure none
  | .error e =>
    write ("Error reading file: " ++ e.message path ++ "\n")
    pure none
  | .ok bytes =>
    match Text.Utf8.decode? bytes with
    | some cs => pure (some (String.ofList (Text.Utf8.lineFeedsOnly cs)))
    | none => throw ⟨.encoding, "not a text", true⟩

/-- The statement to run: the one that is given, or else the one in a file. -/
def statement (sql file : Option String) : Step δ (Option String) := do
  let sql := sql.getD ""
  let file := file.getD ""
  if sql ≠ "" then pure (some sql)
  else if file ≠ "" then fileText file
  else
    write "Error: Either --query or --file must be provided.\n"
    pure none

/-- The number of rows to fetch at most. A limit that is not positive lifts it. -/
def rowCap (settings : Settings) : Given Int → Step δ (Option Int)
  | .nothing => pure (some settings.maxRows)
  | .blank => throw ⟨.type, "not a number", true⟩
  | .value n => pure (if 0 < n then some n else none)

/-- What an executor answers, as it is told to a run. -/
def outcomeOf : Except Failure Execution.Result → Outcome
  | .ok r => .success r
  | .error f => .failure f

/-- The failure that breaking a printing off amounts to. -/
def breakFailure : Report.Break → Failure
  | .extraCell => ⟨.index, "list index out of range", true⟩
  | .cell .integerTooLong => ⟨.value, Unshown.integerTooLong.message, true⟩
  | .cell .tooDeep => ⟨.depth, Unshown.tooDeep.message, true⟩
  | .document o => History.obstacleFailure o

/-- Prints what the end of a run is. A failure that is not one of a statement or of an
action that was refused is not handled. -/
def tell (format : Report.Format) : Execution.Reply → Step δ Nat
  | .answered r => do
    let p := Report.print (← get).surroundings.room format r
    write p.out
    complain p.err
    match p.failure with
    | none => pure 0
    | some b => throw (breakFailure b)
  | .raised f _ => do
    if f.kind = .execution || f.kind = .validation then
      write ("Error: " ++ f.text ++ "\n")
      pure 1
    else throw f
  | _ => pure 1

/-- Runs a statement and prints its result. -/
def query (driver : Driver δ) (path sql : String) (format : Report.Format) (limit : Given Int) :
    Step δ Nat := do
  let settings ← settings
  let cap ← rowCap settings limit
  let connection ← database path
  let t ← get
  let (answer, _) ← withBackend { driver := t.driver }
    (Backend.execute driver t.site cap connection sql)
  let (s, report) := (Session.new settings t.files).run (some (t.history settings))
    (some connection) sql (fun _ _ => outcomeOf answer)
  modify fun t => { t with files := s.coordinator.store }
  log report.logs
  tell format report.reply

/-- Runs the statement that is asked for, if there is one. -/
def queryCommand (driver : Driver δ) (path : String) (sql file : Option String)
    (format : Report.Format) (limit : Given Int) : Step δ Nat := do
  match ← statement sql file with
  | some sql => query driver path sql format limit
  | none => pure 1

/-- The text to complete, and the place in it. A flag without a value gives neither. -/
def target (sql : Given String) (line column : Given Int) :
    Step δ (String × Completion.Cursor) := do
  let text ← match sql with
    | .nothing => pure (← get).input
    | .blank => throw ⟨.attribute, "not a text", true⟩
    | .value text => pure text
  match line, column with
  | .value line, .value column => pure (text, ⟨line, column⟩)
  | _, _ => throw ⟨.type, "not a number", true⟩

/-- Completes at a place and prints the candidates. The schema is loaded first. -/
def complete (driver : Driver δ) (path : String) (sql : Given String) (line column : Given Int) :
    Step δ Nat := do
  let connection ← database path
  let t ← get
  let there ← unlessError (Sqlite.systemFailure connection)
    (t.files.isThere t.surroundings.work (Path.ofString connection))
  if !there then
    write ("Error: Database file not found: " ++ connection ++ "\n")
    pure 1
  else
    let settings ← settings
    let archive := some (t.history settings)
    let (s, failure, logs) := (Session.new settings t.files).select archive (some connection)
    log logs
    if let some f := failure then throw f
    let (tables, b) ←
      withBackend { driver := t.driver } (Backend.listTables driver t.site connection)
    let room := t.surroundings.room
    let listing : Schema.Sources := { lister := some fun _ => tables, reporter := none, room }
    let (s, _, logs) := s.step archive listing (.list 0)
    log logs
    let (reports, _) ← withBackend b (Backend.describe driver t.site connection)
    let reporting : Schema.Sources :=
      { lister := none, reporter := some fun _ => reports.map (·.map Backend.report), room }
    let (s, _, logs) := s.step archive reporting (.report 0)
    log logs
    let (text, cursor) ← target sql line column
    let offers := offers text cursor s.snapshot (reports.toOption.getD [])
      settings.floor
    if !offers.all (·.isPrintable) then throw ⟨.type, "not a document", true⟩
    let document : Value := .list ((Offer.distinct [] offers).map (·.fields))
    match Json.obstacle? true room.printed document with
    | some o => throw (History.obstacleFailure o)
    | none => write (Json.text document ++ "\n")
    pure 0

/-- Opens the editor. -/
def edit (settings : Settings) (path : Option String) : Step δ Nat := do
  let connection ← match path with
    | none | some "" => pure none
    | some path => some <$> database path
  modify fun t => { t with opened := t.opened ++ [⟨connection, settings⟩] }
  pure 0

/-- Takes the path of the settings over for this invocation and the next ones. -/
def overrideSettings (path : Option String) : Step δ Unit := do
  let path := path.getD ""
  if path.toList.contains '\x00' then throw (Sqlite.pathFailure .nulCharacter)
  if path ≠ "" then modify fun t => { t with settingsPath := some path }

/-- Does what an invocation asks for. -/
def invoke (driver : Driver δ) (i : Invocation) : Step δ Nat := do
  overrideSettings i.settings
  let settings ← settings
  let level := i.logLevel.getD settings.logLevel
  match i.command with
  | .edit path =>
    configureLog level .file
    edit settings path
  | .query path sql file format limit =>
    configureLog level .channel
    queryCommand driver path sql file format limit
  | .complete path sql line column =>
    configureLog level .channel
    complete driver path sql line column

/-- Does what a command line asks for, and answers with the code to exit with. -/
def run (driver : Driver δ) (argv : List String) : Step δ Nat := do
  match Invocation.read argv with
  | .ok i => invoke driver i
  | .error ⟨g, .help⟩ =>
    write g.help
    pure 0
  | .error ⟨g, .misuse message⟩ =>
    complain (g.complaint message)
    pure 2

end Step

/-- A command line at a terminal: the code or the failure, and the terminal afterwards. -/
def Terminal.run {δ : Type} (t : Terminal δ) (driver : Driver δ) (argv : List String) :
    Except Failure Nat × Terminal δ :=
  ExceptT.run (Step.run driver argv) t

end QueryDesk.CommandLine
