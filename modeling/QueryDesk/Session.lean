import QueryDesk.Completion.Assemble
import QueryDesk.Execution.Coordinator
import QueryDesk.History.Keys
import QueryDesk.Schema.Loader
import QueryDesk.Settings

/-!
# The session of a buffer

What an editor needs for one buffer: the selected connection, its schema, the
history and the runs. Selecting a connection starts a refresh of the schema,
which goes on in two loads while other things happen; the refreshes that are
under way are part of the session.
-/

namespace QueryDesk

open Execution

/-- A refresh that is under way. -/
structure Refresh where
  connection : String
  /-- The names that were loaded, once they are. -/
  listed : Option (List String) := none
  deriving DecidableEq, Repr

/-- The session of a buffer over a history of type `σ`. -/
structure Session (σ : Type) where
  settings : Settings := {}
  connection : Option String := none
  snapshot : Schema.Index := {}
  coordinator : Coordinator σ
  /-- The refreshes under way, by their numbers. -/
  refreshes : OrderedMap Nat Refresh := []
  nextRefresh : Nat := 0

/-- What happens to the schema of a session. -/
inductive Session.Event where
  /-- A connection is selected, or none. -/
  | select (connection : Option String)
  /-- The user asks for the schema to be loaded again. -/
  | refresh
  /-- A refresh ends its first load. -/
  | list (refresh : Nat)
  /-- A refresh ends its second load, and with it the refresh. -/
  | report (refresh : Nat)
  deriving Repr

namespace Session

variable {σ : Type}

/-- The part of the program that reports on sessions. -/
def logSource : String := "querypad.domains.query.app.session"

/-- A new session with some settings. -/
def new (settings : Settings) (store : σ) : Session σ :=
  { settings, coordinator := { ring := some { cap := some settings.maxHistory }, store } }

/-- The history of the session. -/
def ring (s : Session σ) : History.Ring := s.coordinator.ring.getD {}

/-- The session with another history. -/
def withRing (s : Session σ) (r : History.Ring) : Session σ :=
  { s with coordinator := { s.coordinator with ring := some r } }

/-- Starts a refresh of a connection. -/
def begin (s : Session σ) (connection : String) : Session σ :=
  { s with refreshes := s.refreshes.put s.nextRefresh { connection }
           nextRefresh := s.nextRefresh + 1 }

/-- Selects a connection and takes over its history; a failure to load that
history leaves the connection selected and starts no refresh. -/
def select (archive : Option (Archive σ)) (s : Session σ) (connection : Option String) :
    Session σ × Option Failure × List Log.Record :=
  let s := { s with connection }
  let selected : Log.Record :=
    ⟨.info, logSource, "Selected connection " ++ connection.getD "None", none⟩
  match connection with
  | none =>
    ({ s.withRing (s.ring.replace []) with snapshot := Schema.cleared s.snapshot }, none,
      [selected])
  | some connection =>
    match archive with
    | none => (s.begin connection, none, [selected])
    | some archive =>
      match archive.load s.coordinator.store connection with
      | .ok (queries, logs) =>
        ((s.withRing (s.ring.replace queries)).begin connection, none, selected :: logs)
      | .error f => (s, some f, [selected])

/-- What an event does to the schema of a session. A load ends once, and the
second one after the first. -/
def step (archive : Option (Archive σ)) (sources : Schema.Sources) (s : Session σ) :
    Event → Session σ × Option Failure × List Log.Record
  | .select connection => s.select archive connection
  | .refresh =>
    match s.connection with
    | none => (s, none, [])
    | some connection => (s.begin connection, none, [])
  | .list n =>
    match s.refreshes.get? n with
    | some ⟨connection, none⟩ =>
      let (listed, logs) := sources.listed connection
      ({ s with refreshes := s.refreshes.put n ⟨connection, some listed⟩ }, none, logs)
    | _ => (s, none, [])
  | .report n =>
    match s.refreshes.get? n with
    | some ⟨connection, some listed⟩ =>
      let (infos, logs) := sources.reported connection
      let (snapshot, logs') :=
        Schema.publish s.snapshot connection (s.connection = some connection) listed infos
      ({ s with snapshot, refreshes := s.refreshes.remove n }, none, logs ++ logs')
    | _ => (s, none, [])

/-- A run of events, up to the first failure. -/
def steps (archive : Option (Archive σ)) (sources : Schema.Sources) (s : Session σ) :
    List Event → Session σ × Option Failure × List Log.Record
  | [] => (s, none, [])
  | e :: es =>
    match s.step archive sources e with
    | (s, some f, logs) => (s, some f, logs)
    | (s, none, logs) =>
      let (s, f, logs') := steps archive sources s es
      (s, f, logs ++ logs')

/-- Ends the loads of all refreshes under way: every first load, then every second one. -/
def finish (archive : Option (Archive σ)) (sources : Schema.Sources) (s : Session σ) :
    Session σ × Option Failure × List Log.Record :=
  let ns := s.refreshes.names
  s.steps archive sources (ns.map .list ++ ns.map .report)

/-- The candidates at a cursor, for the current schema. -/
def complete (s : Session σ) (sql : String) (cursor : Completion.Cursor) :
    List Completion.Candidate :=
  Completion.assemble sql cursor (some s.snapshot) s.settings.floor

/-- Gives a key to the history. -/
def press (s : Session σ) (key : String) (popup : Bool) (text : String) :
    Session σ × History.KeyOutcome :=
  let (r, outcome) := s.settings.keys.press s.ring key popup text
  (s.withRing r, outcome)

/-- What an event does to the runs of a session. -/
def execute (archive : Option (Archive σ)) (s : Session σ) (e : Execution.Event) :
    Session σ × Report :=
  let (coordinator, report) := Coordinator.step archive s.coordinator e
  ({ s with coordinator }, report)

/-- A run that nothing interrupts: it is submitted, and if it is accepted the
executor is called and its answer awaited. -/
def run (archive : Option (Archive σ)) (s : Session σ) (connection : Option String) (sql : String)
    (execute : String → String → Outcome) : Session σ × Report :=
  match s.execute archive (.submit connection sql) with
  | (s, submitted@{ reply := .accepted n, .. }) =>
    let (s, _) := s.execute archive (.start n)
    let (s, settled) := s.execute archive (.settle n (execute (connection.getD "") sql))
    (s, { settled with notices := submitted.notices ++ settled.notices
                       calls := [(connection.getD "", sql)] })
  | other => other

end Session

end QueryDesk
