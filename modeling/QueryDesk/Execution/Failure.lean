import QueryDesk.Text.Blank

/-!
# Failures

How a collaborator fails: an executor, a schema source or a history. A failure
of an executor reaches the user as a failed execution, whose message is never
blank.
-/

namespace QueryDesk.Execution

/-- What kind of failure it is. -/
inductive FailureKind where
  /-- The executor reports that a statement failed. -/
  | execution
  /-- An action was refused before anything was sent. -/
  | validation
  | runtime
  | value
  /-- A row has no cell at a place. -/
  | index
  /-- A value cannot do what is asked of it. -/
  | attribute
  /-- A value is of another kind than what is asked of it takes. -/
  | type
  /-- A statement is nested deeper, or is longer, than is looked into. -/
  | nesting
  /-- The parts of a document lie deeper in each other than is followed. -/
  | depth
  /-- The operating system refuses something. -/
  | system
  /-- Bytes are no text. -/
  | encoding
  /-- The three kinds that a database driver reports as its errors. -/
  | database
  | operational
  | integrity
  /-- A driver's warning, which is none of its errors. -/
  | warning
  deriving DecidableEq, Repr

namespace FailureKind

/-- Whether a driver counts a failure among its errors. -/
def isDriverError : FailureKind → Bool
  | database | operational | integrity => true
  | _ => false

end FailureKind

/-- A failure with its text. -/
structure Failure where
  kind : FailureKind
  text : String
  /-- Whether the text is the surroundings' own and not a collaborator's. -/
  external : Bool := false
  deriving DecidableEq, Repr

/-- The message of a failed execution that has no text. -/
def genericMessage : String := "An error occurred"

/-- The message of a failed execution: its text without the blanks around it,
or a generic one if nothing is left. -/
def executionMessage (text : Option String) : String :=
  let s := Text.strip (text.getD "")
  if s = "" then genericMessage else s

namespace Failure

/-- A failure of a kind, with or without a text. -/
def make (kind : FailureKind) (text : Option String) : Failure :=
  ⟨kind, if kind = .execution then executionMessage text else text.getD "", false⟩

/-- A failed execution. -/
def execution (text : String) : Failure := .make .execution (some text)

/-- The failed execution that a failure of the executor amounts to. -/
def asExecution (f : Failure) : Failure := if f.kind = .execution then f else .execution f.text

/-- The failure behind the failed execution, if that is another one. -/
def cause? (f : Failure) : Option FailureKind :=
  if f.kind = .execution then none else some f.kind

end Failure

/-- What the log says when a part of the metadata of a connection could not be loaded. -/
def metadataMessage (connection part : String) (cause : Option String) : String :=
  let text := cause.getD ""
  "Failed to load " ++ part ++ " for " ++ connection ++ (if text = "" then "" else ": " ++ text)

end QueryDesk.Execution
