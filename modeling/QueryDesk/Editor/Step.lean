import QueryDesk.Editor.Jobs
import QueryDesk.Editor.Popup

/-!
# What happens to the editor

Every event that reaches the editor, from the user and from the screen. The
news that an event leaves in the buffer is heard before the event is over.
-/

namespace QueryDesk.Editor

open Completion (Cursor)
open Decimal (Binary64)
open Execution

variable {σ : Type}

/-- What happens. -/
inductive Event where
  /-- The editor appears on the screen, or leaves it. -/
  | mount
  | unmount
  /-- The user edits the buffer. -/
  | edit (text : String) (cursor : Cursor)
  /-- News of the buffer, or of another part of the screen. -/
  | news (ofBuffer : Bool) (news : News)
  /-- The running timer rings. -/
  | timer
  | key (key : String)
  | focus (focus : Focus)
  | running (value : Bool)
  /-- The user clears the buffer. -/
  | clear
  /-- The user runs the buffer. -/
  | run
  | select (connection : Option String)
  | refresh
  /-- The run that has settled is forgotten. -/
  | reset
  /-- Time passes, in seconds, and then the waiting jobs are done. -/
  | settle (elapsed : Binary64)
  deriving Repr

/-- What the one who caused an event is told. -/
inductive Answer where
  | nothing
  /-- Whether the key was taken. -/
  | key (taken : Bool)
  /-- The number of timers that rang. -/
  | rang (timers : Nat)
  /-- The jobs that were done. -/
  | done (jobs : List Job)
  deriving DecidableEq, Repr

/-- Puts a text from the history into the buffer, the cursor at its end. -/
def bringBack (e : Editor σ) (text : String) : Editor σ :=
  if text = e.buffer.text then e
  else
    ({ e with justRecalled := true }.call (.load text)).call (.moveTo (Buffer.finish text))

/-- What the popup does with a key that the history leaves to it, if anything. -/
def popupKey? (e : Editor σ) (key : String) : Option (Editor σ) :=
  if !e.popup then none
  else
    match key with
    | "down" => some { e with dropdown := e.dropdown.move 1 }
    | "up" => some { e with dropdown := e.dropdown.move (-1) }
    | "tab" | "enter" => some e.applyCandidate
    | "escape" => some e.hidePopup
    | _ => none

/-- A key is pressed: the history comes first, then the popup. -/
def press (e : Editor σ) (key : String) : Editor σ × Bool :=
  if e.focus ≠ .buffer then (e, false)
  else
    let (session, outcome) := e.session.press key e.popup e.buffer.text
    let e := { e with session }
    match outcome with
    | .taken none => (e, true)
    | .taken (some text) => (e.bringBack text, true)
    | .passed =>
      match e.popupKey? key with
      | some e => (e, true)
      | none => (e, false)

/-- Submits the buffer to be run on the connection. -/
def submit (w : Services σ) (e : Editor σ) : Editor σ :=
  let e := e.hidePopup
  let sql := e.buffer.text
  if Text.isBlankText sql then
    e.note { message := "No query to execute", severity := .warning }
  else
    let (e, report) := e.execute w.archive (.submit e.session.connection sql)
    match report.reply with
    | .accepted run => { e with submitted := e.clock }.enqueue (.query run)
    | _ => e.note { message := noConnectionMessage, severity := .warning }

/-- The editor appears on the screen. -/
def appear (e : Editor σ) : Editor σ :=
  let e := { e with focus := .buffer }.call .focus
  match e.startup with
  | none | some "" => e
  | some c => e.enqueue (.select (some c))

/-- Asks for the schema to be loaded again. -/
def askRefresh (e : Editor σ) : Editor σ :=
  match e.session.connection with
  | none => e.note { message := "Not connected", severity := .warning }
  | some _ => e.enqueue .refresh

/-- What an event does, before the news of the buffer is heard. -/
def handle (w : Services σ) (e : Editor σ) : Event → Editor σ × Answer
  | .mount => (e.appear, .nothing)
  | .unmount => ((e.execute w.archive (.unsubscribe listenerName)).1, .nothing)
  | .edit text cursor => ({ e with buffer := e.buffer.set text cursor }, .nothing)
  | .news ofBuffer news => (if ofBuffer then e.hear news else e, .nothing)
  | .timer => if e.timer then (e.ringTimer, .rang 1) else (e, .rang 0)
  | .key key =>
    let (e, taken) := e.press key
    (e, .key taken)
  | .focus focus => ({ e with focus }, .nothing)
  | .running running => ({ e with running }, .nothing)
  | .clear => (e.hidePopup.call (.load ""), .nothing)
  | .run => (e.submit w, .nothing)
  | .select connection => (e.enqueue (.select connection), .nothing)
  | .refresh => (e.askRefresh, .nothing)
  | .reset => ((e.execute w.archive .reset).1, .nothing)
  | .settle elapsed =>
    let e := { e with clock := e.clock.add elapsed }
    (e.performAll w, .done e.jobs)

/-- What an event does. What is shown is shown for this event alone. -/
def step (w : Services σ) (e : Editor σ) (event : Event) : Editor σ × Answer :=
  let (e, answer) := handle w { e with shown := {} } event
  (e.hearNews, answer)

end QueryDesk.Editor
