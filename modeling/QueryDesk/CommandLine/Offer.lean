import QueryDesk.Completion.Assemble
import QueryDesk.Value.Basic

/-!
# Offers

The candidates at a cursor as they are printed. A column has the word that the
driver reports for it. That word need not be a text, and then it is printed as
what it is.
-/

namespace QueryDesk.CommandLine

open Completion

/-- A candidate whose words are values. -/
structure Offer where
  label : Value
  kind : Kind
  insertText : Value
  detail : String
  range : Range
  deriving Repr

namespace Offer

/-- A suggestion for a stretch of the buffer. -/
def ofSuggestion (range : Range) (s : Suggestion) : Offer :=
  ⟨.text s.label, s.kind, .text s.insertText, s.detail, range⟩

/-- A column of a table by its word. -/
def ofColumn (range : Range) (table : String) (word : Value) : Offer :=
  ⟨word, .column, word, table, range⟩

/-- An offer as it is printed. -/
def fields (o : Offer) : Value := .object [
  ("label", o.label), ("kind", .text o.kind.name), ("insert_text", o.insertText),
  ("detail", .text o.detail),
  ("replace_range", .object [
    ("line", .int o.range.line), ("start_offset", .int o.range.start),
    ("end_offset", .int o.range.stop)])]

/-- Whether an offer can be told from others and be printed. -/
def isPrintable (o : Offer) : Bool :=
  match o.insertText with
  | .bytes _ | .list _ | .object _ => false
  | _ => true

/-- The offers whose insert text is the same as none of `seen` and that of no
earlier offer. -/
def distinct (seen : List Value) : List Offer → List Offer
  | [] => []
  | o :: os =>
    if seen.any o.insertText.same then distinct seen os
    else o :: distinct (o.insertText :: seen) os

end Offer

/-- The columns of the last report of a table. -/
def reportedColumns (reports : List (Value × List Value)) (table : String) : List Value :=
  ((reports.reverse.find? fun r => r.1.same (.text table)).map (·.2)).getD []

/-- The offers at a cursor, in the order of the candidates: the static floor,
the columns of the table that the word is qualified by, and the tables. -/
def offers (sql : String) (cursor : Cursor) (schema : Schema.Index)
    (reports : List (Value × List Value)) (floor : List Suggestion) : List Offer :=
  let context := contextAt sql cursor
  let columns :=
    match qualifiedTable? context (tablesByName (references sql)) with
    | some table => (reportedColumns reports table).map (.ofColumn context.range table)
    | none => []
  let ofSuggestions := List.map (Offer.ofSuggestion context.range)
  ofSuggestions floor ++ columns ++ ofSuggestions (tableSuggestions context (some schema))

end QueryDesk.CommandLine
