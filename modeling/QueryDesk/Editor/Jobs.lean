import QueryDesk.Editor.Basic

/-!
# Background jobs

What the jobs of the editor do when their turn comes. They are done one after
another, each to its end.
-/

namespace QueryDesk.Editor

open Decimal (Binary64)
open Execution

variable {σ : Type}

/-- What the editor works with. -/
structure Services (σ : Type) where
  archive : Option (Archive σ)
  sources : Schema.Sources
  /-- The executor of statements, over a connection. -/
  execute : String → String → Outcome

/-- Shows a result in the grid. A result without columns is told in words. -/
def showResult (e : Editor σ) (r : Result) : Editor σ :=
  let grid : GridContents :=
    if r.returnsRows then ⟨r.columns, r.rows⟩
    else ⟨["Result"], [[.text (toString r.affected ++ " row(s) affected")]]⟩
  let e := { e with grid }
  if r.truncated then
    e.note { message := "Showing the first " ++ toString r.rowCount ++ " rows (truncated)"
             severity := .warning }
  else e

/-- Selects a connection and loads its schema. -/
def selectNow (w : Services σ) (e : Editor σ) (connection : Option String) : Editor σ :=
  let e := e.setStatus
    (if connection.getD "" = "" then "Not connected" else "Loading schema...")
  match e.session.select w.archive connection with
  | (session, some _, _) => { e with session }
  | (session, none, _) =>
    let (session, _, _) := session.finish w.archive w.sources
    { e with session }.updateStatus

/-- Loads the schema of the connection again. -/
def refreshNow (w : Services σ) (e : Editor σ) : Editor σ :=
  let (session, _, _) := e.session.step w.archive w.sources .refresh
  let (session, _, _) := session.finish w.archive w.sources
  let e := { e with session }.updateStatus
  e.note { message := "Loaded " ++ toString session.snapshot.tableNames.length ++ " tables" }

/-- Awaits a run and shows what comes of it. -/
def queryNow (w : Services σ) (e : Editor σ) (run : Nat) : Editor σ :=
  let (e, started) := e.execute w.archive (.start run)
  match started.calls with
  | [] => e
  | (connection, sql) :: _ =>
    let (e, settled) := e.execute w.archive (.settle run (w.execute connection sql))
    match settled.reply with
    | .answered r =>
      let e := { e with elapsed := (e.clock.sub e.submitted).times 1000 }
      (e.showResult r).updateStatus
    | .raised f _ =>
      e.note { message := Text.Markup.escape f.text, title := "Query error", severity := .error }
    | _ => e

/-- Does a job. -/
def perform (w : Services σ) (e : Editor σ) : Job → Editor σ
  | .select connection => e.selectNow w connection
  | .refresh => e.refreshNow w
  | .query run => e.queryNow w run

/-- Does all jobs that are waiting. -/
def performAll (w : Services σ) (e : Editor σ) : Editor σ :=
  e.jobs.foldl (perform w) { e with jobs := [] }

end QueryDesk.Editor
