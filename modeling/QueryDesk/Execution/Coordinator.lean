import QueryDesk.Execution.Failure
import QueryDesk.Execution.Result
import QueryDesk.History.Ring
import QueryDesk.Log
import QueryDesk.OrderedMap

/-!
# The life of a run

A run is accepted, started, called and settled; any number of runs may be under
way at a time. Its first step hands the call of the executor to the threads,
and one of them takes the call up, at once if it is free; a run that is
cancelled before that is never called. Only the latest accepted run moves the
state, sets the result and is recorded in the history: an earlier one that
settles is told its own outcome and leaves everything else alone.

Everything that happens is an event, and `Coordinator.step` says what an event
does to the coordinator and what can be seen of it from outside.
-/

namespace QueryDesk.Execution

/-- Where the latest run is. -/
inductive State where
  | idle
  | pending
  | succeeded
  | failed
  deriving DecidableEq, Repr

/-- The word for a state. -/
def State.name : State → String
  | idle => "idle"
  | pending => "pending"
  | succeeded => "succeeded"
  | failed => "failed"

/-- A listener, known by its name; `once` says that it ends a subscription of
its own whenever it is told something. -/
structure Listener where
  name : String
  once : Bool := false
  deriving DecidableEq, Repr

/-- How far a run has come. -/
inductive Phase where
  | accepted
  /-- It has handed its call of the executor to the threads, and none of them has
  taken it up. -/
  | queued
  /-- A thread has called the executor for it. -/
  | called
  deriving DecidableEq, Repr

/-- A run that has not settled. -/
structure Run where
  connection : String
  sql : String
  phase : Phase := .accepted
  deriving DecidableEq, Repr

/-- Whether a run has taken its first step. -/
def Run.started (r : Run) : Bool := r.phase ≠ .accepted

/-- What an executor answers. -/
inductive Outcome where
  | success (result : Result)
  | failure (failure : Failure)
  deriving Repr

/-- A persistent history over a store of type `σ`. -/
structure Archive (σ : Type) where
  /-- The queries of a connection, oldest first. -/
  load : σ → String → Except Failure (List String × List Log.Record)
  /-- Records a query under a connection. -/
  save : σ → String → String → σ × Except Failure Unit × List Log.Record

/-- The coordinator of the runs of a buffer. -/
structure Coordinator (σ : Type) where
  state : State := .idle
  /-- The result of the last success, until a failure. -/
  result : Option Result := none
  error : Option String := none
  /-- The number of the latest accepted run. -/
  latest : Nat := 0
  /-- The runs that have not settled, by their numbers. -/
  runs : OrderedMap Nat Run := []
  listeners : List Listener := []
  /-- Every listener that has subscribed so far. -/
  met : List Listener := []
  ring : Option History.Ring := none
  store : σ

/-- What happens. -/
inductive Event where
  /-- The user asks for a statement to be run. -/
  | submit (connection : Option String) (sql : String)
  /-- A run takes its first step. `queued` says that no thread is free for its call
  of the executor, which has to wait then. -/
  | start (run : Nat) (queued : Bool := false)
  /-- A thread takes up the call of a run that has waited for one. -/
  | call (run : Nat)
  /-- The executor answers a run. -/
  | settle (run : Nat) (outcome : Outcome)
  /-- A run is cancelled. -/
  | cancel (run : Nat)
  | reset
  | subscribe (listener : Listener)
  /-- The unsubscribing that belongs to a subscription of a listener is called. -/
  | unsubscribe (name : String)
  deriving Repr

/-- What the one who caused an event is told. -/
inductive Reply where
  | none
  | accepted (run : Nat)
  /-- There is no connection. -/
  | rejected
  | answered (result : Result)
  | raised (failure : Failure) (cause : Option FailureKind)
  | cancelled
  deriving Repr

/-- What can be seen of an event from outside. -/
structure Report where
  reply : Reply := .none
  /-- The listeners that were told a state, in order. -/
  notices : List (String × State) := []
  /-- The calls of the executor. -/
  calls : List (String × String) := []
  logs : List Log.Record := []
  deriving Repr

/-- The message for a run without a connection. -/
def noConnectionMessage : String := "Please select a connection first"

/-- The part of the program that reports on runs. -/
def logSource : String := "querypad.domains.query.app.execution"

/-- Takes the first listener of a name out. -/
def removeListener (name : String) : List Listener → List Listener
  | [] => []
  | l :: ls => if l.name = name then ls else l :: removeListener name ls

namespace Coordinator

variable {σ : Type}

/-- Whether the latest run has not settled. -/
def isPending (c : Coordinator σ) : Bool := c.state = .pending

/-- Goes to a state and tells every listener that was there at the start. -/
def transition (c : Coordinator σ) (s : State) : Coordinator σ × List (String × State) :=
  let gone := (c.listeners.filter (·.once)).map (·.name)
  ({ c with state := s, listeners := gone.foldl (fun ls n => removeListener n ls) c.listeners },
    c.listeners.map fun l => (l.name, s))

/-- Accepts a run and makes it the latest, or rejects it for lack of a connection. -/
def submit (c : Coordinator σ) (connection : Option String) (sql : String) :
    Coordinator σ × Report :=
  match connection with
  | none | some "" =>
    (c, { reply := .rejected
          logs := [⟨.debug, logSource, "Rejected run: no connection selected", none⟩] })
  | some connection =>
    let run := c.latest + 1
    let (c, notices) :=
      { c with latest := run, error := none,
               runs := c.runs.put run { connection, sql } }.transition .pending
    (c, { reply := .accepted run, notices })

/-- Calls the executor for a run. -/
def takeUp (c : Coordinator σ) (run : Nat) (r : Run) : Coordinator σ × Report :=
  ({ c with runs := c.runs.put run { r with phase := .called } },
    { calls := [(r.connection, r.sql)] })

/-- The first step of a run, which calls the executor if a thread is free. -/
def start (c : Coordinator σ) (run : Nat) (queued : Bool) : Coordinator σ × Report :=
  match c.runs.get? run with
  | some r =>
    if r.started then (c, {})
    else if queued then ({ c with runs := c.runs.put run { r with phase := .queued } }, {})
    else c.takeUp run r
  | none => (c, {})

/-- A thread becomes free for a run that has waited for one. -/
def call (c : Coordinator σ) (run : Nat) : Coordinator σ × Report :=
  match c.runs.get? run with
  | some r => if r.phase = .queued then c.takeUp run r else (c, {})
  | none => (c, {})

/-- Records a successful query in the ring and in the persistent history. A
refusal of the operating system is reported and no more; another failure is
given back. -/
def record (archive : Option (Archive σ)) (c : Coordinator σ) (connection sql : String) :
    Coordinator σ × Option Failure × List Log.Record :=
  let c := { c with ring := c.ring.map fun r => (r.submit sql).1 }
  match archive with
  | none => (c, none, [])
  | some archive =>
    if Text.isBlankText sql then (c, none, [])
    else
      let (store, answer, logs) := archive.save c.store connection sql
      let c := { c with store }
      match answer with
      | .ok () => (c, none, logs)
      | .error f =>
        if f.kind = .system then
          let text := "Could not save query history: "
          let warning : Log.Record :=
            if f.external then ⟨.warning, logSource, text, some f.text⟩
            else ⟨.warning, logSource, text ++ f.text, none⟩
          (c, none, logs ++ [warning])
        else (c, some f, logs)

/-- A run succeeds. -/
def succeed (archive : Option (Archive σ)) (c : Coordinator σ) (run : Nat) (r : Run)
    (result : Result) : Coordinator σ × Report :=
  if run ≠ c.latest then
    (c, { reply := .answered result
          logs := [⟨.debug, logSource, "Ignoring result of superseded run on " ++ r.connection,
            none⟩] })
  else
    let (c, notices) := { c with result := some result }.transition .succeeded
    let (c, failure, logs) := c.record archive r.connection r.sql
    let reply : Reply :=
      match failure with
      | none => .answered result
      | some f => .raised f none
    (c, { reply, notices, logs })

/-- A run fails. -/
def fail (c : Coordinator σ) (run : Nat) (r : Run) (f : Failure) : Coordinator σ × Report :=
  let error := f.asExecution
  let reply : Reply := .raised error f.cause?
  let logs : List Log.Record :=
    [⟨.info, logSource, "Query failed on " ++ r.connection ++ ": " ++ error.text, none⟩]
  if run ≠ c.latest then (c, { reply, logs })
  else
    let (c, notices) := { c with result := none, error := some error.text }.transition .failed
    (c, { reply, notices, logs })

/-- The executor's answer reaches a run that it was called for. -/
def settle (archive : Option (Archive σ)) (c : Coordinator σ) (run : Nat) (outcome : Outcome) :
    Coordinator σ × Report :=
  match c.runs.get? run with
  | none => (c, {})
  | some r =>
    if r.phase ≠ .called then (c, {})
    else
      let c := { c with runs := c.runs.remove run }
      match outcome with
      | .success result => succeed archive c run r result
      | .failure f => c.fail run r f

/-- Cancels a run. One that was not started has not taken a step and never
will, so nothing but the run goes away; one that waits for a thread is not
called any more. -/
def cancel (c : Coordinator σ) (run : Nat) : Coordinator σ × Report :=
  match c.runs.get? run with
  | none => (c, {})
  | some r =>
    let c := { c with runs := c.runs.remove run }
    if r.started && run = c.latest then
      let (c, notices) := c.transition .idle
      (c, { reply := .cancelled, notices })
    else (c, { reply := .cancelled })

/-- Goes back to idle after a settled run. -/
def reset (c : Coordinator σ) : Coordinator σ × Report :=
  if c.state = .succeeded || c.state = .failed then
    let (c, notices) := c.transition .idle
    (c, { notices })
  else (c, {})

/-- Adds a subscription. A name stays with the listener that had it first. -/
def subscribe (c : Coordinator σ) (l : Listener) : Coordinator σ :=
  let l := (c.met.find? (·.name = l.name)).getD l
  { c with listeners := c.listeners ++ [l], met := c.met ++ [l] }

/-- Ends the first subscription of a listener, if there is one. -/
def unsubscribe (c : Coordinator σ) (name : String) : Coordinator σ :=
  { c with listeners := removeListener name c.listeners }

/-- What an event does and what is seen of it. -/
def step (archive : Option (Archive σ)) (c : Coordinator σ) : Event → Coordinator σ × Report
  | .submit connection sql => c.submit connection sql
  | .start run queued => c.start run queued
  | .call run => c.call run
  | .settle run outcome => settle archive c run outcome
  | .cancel run => c.cancel run
  | .reset => c.reset
  | .subscribe l => (c.subscribe l, {})
  | .unsubscribe name => (c.unsubscribe name, {})

/-- A run of events: the coordinator and the report after each of them. -/
def trace (archive : Option (Archive σ)) (c : Coordinator σ) :
    List Event → List (Coordinator σ × Report)
  | [] => []
  | e :: es =>
    let r := step archive c e
    r :: trace archive r.1 es

/-- The coordinator after some events. -/
def after (archive : Option (Archive σ)) (c : Coordinator σ) (es : List Event) : Coordinator σ :=
  es.foldl (fun c e => (step archive c e).1) c

end Coordinator

end QueryDesk.Execution
