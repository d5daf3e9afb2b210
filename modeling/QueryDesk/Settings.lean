import QueryDesk.Completion.Candidate
import QueryDesk.History.Keys
import QueryDesk.Log
import QueryDesk.Storage.Document
import QueryDesk.Text.Case

/-!
# Settings

The settings that a document holds. Each one depends on its own field alone,
and a field without a proper value leaves its default.
-/

namespace QueryDesk

open Completion

/-- The settings of a session. -/
structure Settings where
  keywords : List String := defaultKeywords
  snippets : List Suggestion := defaultSnippets
  keys : History.Keys := {}
  maxHistory : Nat := 100
  maxRows : Nat := 10000
  logLevel : String := "WARNING"
  /-- The fields that are no settings, as they are. -/
  extra : OrderedMap String Value := []
  deriving Repr

namespace Settings

/-- The texts of a list of nothing but texts, without the blank ones. -/
def texts? : Value → Option (List String)
  | .list items => do
    let ts ← items.mapM fun
      | .text s => some s
      | _ => none
    pure (ts.filter (!Text.isBlankText ·))
  | _ => none

/-- The snippet that an item describes. A label is needed; the insert text is
the label where there is none. -/
def snippet? : Value → Option Suggestion
  | .object fields =>
    match OrderedMap.get? fields "label" with
    | some (.text label) =>
      match (OrderedMap.get? fields "insert_text").getD (.text label) with
      | .text insertText =>
        if label = "" then none
        else
          let detail :=
            match OrderedMap.get? fields "detail" with
            | some (.text d) => d
            | _ => ""
          some ⟨label, .snippet, insertText, detail⟩
      | _ => none
    | _ => none
  | _ => none

/-- The snippets of a list; items that describe none are passed over. -/
def snippets? : Value → Option (List Suggestion)
  | .list items => some (items.filterMap snippet?)
  | _ => none

/-- A positive integer. -/
def positive? : Value → Option Nat
  | .int n => if 0 < n then some n.toNat else none
  | _ => none

/-- The name of a key: a text that is not blank, without blanks at its ends. -/
def keyName? : Value → Option String
  | .text s => if Text.isBlankText s then none else some (Text.strip s)
  | _ => none

/-- The upper-case name of a level of the log. -/
def logLevel? : Value → Option String
  | .text s =>
    let name := Text.upper s
    if (Log.thresholds.lookup name).isSome then some name else none
  | _ => none

/-- The names of the fields that are settings. -/
def fieldNames : List String := [
  "keywords", "snippets", "history_older_key", "history_newer_key", "max_history", "max_rows",
  "log_level"]

/-- The settings of a document. -/
def ofFields (fields : OrderedMap String Value) : Settings :=
  let field {α : Type} (name : String) (read : Value → Option α) (default : α) : α :=
    ((fields.get? name).bind read).getD default
  let base : Settings := {}
  { keywords := field "keywords" texts? base.keywords
    snippets := field "snippets" snippets? base.snippets
    keys := {
      older := field "history_older_key" keyName? base.keys.older
      newer := field "history_newer_key" keyName? base.keys.newer }
    maxHistory := field "max_history" positive? base.maxHistory
    maxRows := field "max_rows" positive? base.maxRows
    logLevel := field "log_level" logLevel? base.logLevel
    extra := fields.filter fun f => f.1 ∉ fieldNames }

/-- The static floor of the settings. -/
def floor (s : Settings) : List Suggestion := staticFloor s.keywords s.snippets

/-- The path of the settings document: the one that is set from outside, if
any, or its place in the configuration directory. -/
def path (s : Storage.Surroundings) (override : Option String) :
    Except Storage.PathError Storage.Path :=
  let override := Text.strip (override.getD "")
  if override = "" then .ok (Storage.Location.path (s.config ++ ["settings.json"]))
  else (Storage.Path.ofString override).expand s

/-- The settings in a document, with the records that loading it makes. -/
def load (d : Storage.Document) (fs : Storage.FileSystem) (s : Storage.Surroundings) :
    Except Storage.LoadError (Settings × List Log.Record) := do
  let (fields, logs) ← d.load fs s
  pure (ofFields fields, logs)

end Settings

end QueryDesk
