import QueryDesk.CommandLine.Database
import QueryDesk.CommandLine.Help
import QueryDesk.Completion.Context
import QueryDesk.Report.Printout

/-!
# Invocations

The grammars of the program and of its commands, and what a command line that
follows them asks for.
-/

namespace QueryDesk.CommandLine

/-- The flag that asks for the help. -/
def helpFlag : Flag :=
  { names := ["-h", "--help"], parameter := none, help := "show this help message and exit" }

/-- The operand of a command that works on a database. -/
def databaseOperand : Operand := .single "database" "SQLite database file"

/-- The grammar of the program. -/
def programGrammar : Grammar :=
  { program := "querypad"
    description := some "A SQL editor with schema-aware completion and query history"
    epilogue := some "Open a database: querypad path/to/db.sqlite"
    flags := [
      helpFlag,
      { names := ["--settings"], parameter := some (.text "PATH")
        help := "Path to settings JSON file" },
      { names := ["--log-level"]
        parameter := some (.choice ["DEBUG", "INFO", "WARNING", "ERROR", "CRITICAL"] true)
        help := "Logging level (default: log_level setting, WARNING)" }]
    operand := .command "command" "Commands" [
      ("query", "Execute a SQL query"), ("complete", "Print completion candidates as JSON")] }

/-- The grammar of the command that runs a statement. -/
def queryGrammar : Grammar :=
  { program := "querypad query"
    flags := [
      helpFlag,
      { names := ["--query", "-q"], parameter := some (.text "QUERY")
        help := "SQL query to execute" },
      { names := ["--file", "-f"], parameter := some (.text "FILE")
        help := "SQL file to execute" },
      { names := ["--format", "-o"], parameter := some (.choice ["table", "csv", "json"])
        help := "Output format (default: table)" },
      { names := ["--limit", "-l"], parameter := some (.integer "LIMIT")
        help := "Maximum rows to fetch (default: max_rows setting, use 0 for unlimited)" }]
    operand := databaseOperand }

/-- The grammar of the command that completes at a cursor. -/
def completeGrammar : Grammar :=
  { program := "querypad complete"
    flags := [
      helpFlag,
      { names := ["--sql"], parameter := some (.text "SQL")
        help := "Buffer text (default: read from stdin)" },
      { names := ["--line"], parameter := some (.integer "LINE"), required := true
        help := "Zero-based cursor line" },
      { names := ["--column"], parameter := some (.integer "COLUMN"), required := true
        help := "Zero-based cursor column" }]
    operand := databaseOperand }

/-- What a command line says under a flag. -/
inductive Given (α : Type) where
  /-- The flag is left out. -/
  | nothing
  /-- The flag is given without a value. -/
  | blank
  | value (a : α)
  deriving DecidableEq, Repr

/-- What is asked for. -/
inductive Command where
  /-- Opens the editor, on a database if one is named. -/
  | edit (database : Option String)
  | query (database : String) (sql file : Option String) (format : Report.Format)
      (limit : Given Int)
  /-- Completes a text, or what is typed in, at a place. -/
  | complete (database : String) (sql : Given String) (line column : Given Int)
  deriving Repr

/-- A command with what holds for all commands. -/
structure Invocation where
  settings : Option String := none
  logLevel : Option String := none
  command : Command
  deriving Repr

/-- The end of a command line that asks for nothing to be done. -/
structure Refusal where
  grammar : Grammar
  halt : Halt
  deriving Repr

namespace Reading

/-- What is said under a flag, if it is of the form that a function picks. -/
def given {α : Type} (r : Reading) (pick : Argument → Option α) (flag : String) : Given α :=
  match r.values.get? flag with
  | none => .nothing
  | some a =>
    match pick a with
    | some a => .value a
    | none => .blank

/-- The text under a flag. -/
def text? (r : Reading) (flag : String) : Option String := (r.values.get? flag).bind Argument.text?

/-- The format that is asked for. -/
def format (r : Reading) : Report.Format :=
  match r.text? "--format" with
  | some "csv" => .csv
  | some "json" => .json
  | _ => .table

end Reading

/-- Reads the arguments of a command. -/
def readFor (g : Grammar) (args : List String) : Except Refusal Reading :=
  (g.read args).mapError (⟨g, ·⟩)

/-- The command that has been read by its grammar. -/
def commandOf (database : Option String) (operand : List String) :
    Except Refusal (Command × List String) := do
  match operand with
  | [] => pure (.edit database, [])
  | name :: args =>
    if name = "query" then
      let r ← readFor queryGrammar args
      pure (.query (r.operand.headD "") (r.text? "--query") (r.text? "--file") r.format
        (r.given Argument.integer? "--limit"), r.leftover)
    else
      let r ← readFor completeGrammar args
      let number := r.given Argument.integer?
      pure (.complete (r.operand.headD "") (r.given Argument.text? "--sql") (number "--line")
        (number "--column"), r.leftover)

/-- What a command line, which starts with the program's name, asks for. An
argument that belongs to nothing is an error once everything else is read. -/
def Invocation.read (argv : List String) : Except Refusal Invocation := do
  let (database, rest) := splitDatabase argv
  let r ← readFor programGrammar rest.tail
  let (command, leftover) ← commandOf database r.operand
  match r.leftover ++ leftover with
  | [] => pure ⟨r.text? "--settings", r.text? "--log-level", command⟩
  | args =>
    .error ⟨programGrammar, .misuse ("unrecognized arguments: " ++ " ".intercalate args)⟩

end QueryDesk.CommandLine
