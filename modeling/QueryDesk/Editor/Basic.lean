import QueryDesk.Decimal.Arithmetic
import QueryDesk.Editor.Buffer
import QueryDesk.Editor.Dropdown
import QueryDesk.Report.Duration
import QueryDesk.Session

/-!
# The editor

The state of the editor: a session, a buffer with its popup, a grid for the
results, and the jobs that wait to be done in the background. What the editor
shows while it handles something is collected in `Shown`.
-/

namespace QueryDesk.Editor

open Decimal (Binary64)
open Execution

/-- How urgent a note is. -/
inductive Severity where
  | information
  | warning
  | error
  deriving DecidableEq, Repr

/-- The word for a severity. -/
def Severity.name : Severity → String
  | information => "information"
  | warning => "warning"
  | error => "error"

/-- A note that pops up. -/
structure Note where
  message : String
  title : String := ""
  severity : Severity := .information
  deriving DecidableEq, Repr

/-- What is shown and done while something is handled, in order. -/
structure Shown where
  notes : List Note := []
  /-- The texts of the status bar. -/
  status : List String := []
  calls : List BufferCall := []
  deriving Repr

/-- Something that is done in the background. -/
inductive Job where
  | select (connection : Option String)
  | refresh
  /-- A run is awaited. -/
  | query (run : Nat)
  deriving DecidableEq, Repr

namespace Job

/-- The name of a job. -/
def name : Job → String
  | select _ => "select-connection"
  | refresh => "refresh-schema"
  | query _ => "query_execution"

/-- Whether a job is about the schema. A new job takes the place of those of its kind. -/
def isSchema : Job → Bool
  | query _ => false
  | _ => true

end Job

/-- The part of the screen that has the focus. -/
inductive Focus where
  | buffer
  | grid
  deriving DecidableEq, Repr

/-- What the grid shows. -/
structure GridContents where
  columns : List String := []
  rows : List (List Value) := []
  deriving Repr

end Editor

/-- The editor over a history of type `σ`. -/
structure Editor (σ : Type) where
  session : Session σ
  /-- The connection to select at the start. -/
  startup : Option String := none
  buffer : Editor.Buffer := {}
  dropdown : Editor.Dropdown := {}
  /-- Whether the popup is showing. -/
  popup : Bool := false
  /-- The text that the popup was made for. -/
  popupText : Option String := none
  /-- The column and the row at which the popup was last put. -/
  popupPlace : Option (Int × Int) := none
  /-- Whether a candidate was put in and the change has not been told yet. -/
  justApplied : Bool := false
  /-- The same for a text recalled from the history. -/
  justRecalled : Bool := false
  /-- Whether the text changed since the cursor was last seen to move. -/
  justChanged : Bool := false
  /-- Whether a timer for the popup is running. -/
  timer : Bool := false
  focus : Editor.Focus := .buffer
  running : Bool := true
  grid : Editor.GridContents := {}
  jobs : List Editor.Job := []
  /-- The time in seconds, now and when the last run was submitted. -/
  clock : Decimal.Binary64 := .ofParts false 0
  submitted : Decimal.Binary64 := .ofParts false 0
  /-- How many milliseconds the last run took. -/
  elapsed : Decimal.Binary64 := .ofParts false 0
  shown : Editor.Shown := {}

namespace Editor

open Decimal (Binary64)
open Execution

variable {σ : Type}

/-- The name under which the editor listens to the runs. -/
def listenerName : String := "editor"

/-- A new editor. -/
def new (settings : Settings) (store : σ) (startup : Option String) : Editor σ :=
  let s := Session.new settings store
  { session := { s with coordinator := s.coordinator.subscribe ⟨listenerName, false⟩ }, startup }

/-- Pops a note up. -/
def note (e : Editor σ) (n : Note) : Editor σ :=
  { e with shown := { e.shown with notes := e.shown.notes ++ [n] } }

/-- Shows a text in the status bar. -/
def setStatus (e : Editor σ) (text : String) : Editor σ :=
  { e with shown := { e.shown with status := e.shown.status ++ [text] } }

/-- Does something to the buffer. -/
def call (e : Editor σ) (c : BufferCall) : Editor σ :=
  { e with buffer := e.buffer.apply c, shown := { e.shown with calls := e.shown.calls ++ [c] } }

/-- Queues a job in the place of those of its kind. -/
def enqueue (e : Editor σ) (j : Job) : Editor σ :=
  { e with jobs := e.jobs.filter (·.isSchema ≠ j.isSchema) ++ [j] }

/-- What the status bar says of a result. -/
def describe (elapsed : Binary64) (r : Result) : String :=
  let time := (Report.duration? (.real elapsed)).getD ""
  if !r.returnsRows then toString r.affected ++ " row(s) affected in " ++ time
  else toString r.rowCount ++ (if r.truncated then "+" else "") ++ " rows in " ++ time

/-- The part of the status bar that tells of the latest run, if it tells anything. -/
def runStatus (e : Editor σ) : List String :=
  let c := e.session.coordinator
  match c.state with
  | .idle => []
  | .pending => ["Running query..."]
  | .failed => ["[red]Query failed[/]"]
  | .succeeded => (c.result.map (describe e.elapsed)).toList

/-- The text of the status bar. -/
def statusText (e : Editor σ) : String :=
  match e.session.connection with
  | none => "Not connected"
  | some c =>
    "  |  ".intercalate
      (("[bold]" ++ Text.Markup.escape c ++ "[/]")
        :: (toString e.session.snapshot.tableNames.length ++ " tables") :: e.runStatus)

/-- Brings the status bar up to date. -/
def updateStatus (e : Editor σ) : Editor σ := e.setStatus e.statusText

/-- Lets an event happen to the runs. A running editor tells every state that
it hears of. -/
def execute (archive : Option (Archive σ)) (e : Editor σ) (event : Execution.Event) :
    Editor σ × Report :=
  let (session, report) := e.session.execute archive event
  let e := { e with session }
  (if e.running then report.notices.foldl (fun e _ => e.updateStatus) e else e, report)

end Editor

end QueryDesk
