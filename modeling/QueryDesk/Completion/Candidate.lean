/-!
# Candidates

What completion offers: a suggestion, and the stretch of the buffer that it
replaces when it is accepted. The static floor is the part of the offer that
does not depend on the buffer.
-/

namespace QueryDesk.Completion

/-- What kind of thing a suggestion names. -/
inductive Kind where
  | snippet
  | keyword
  | table
  | column
  deriving DecidableEq, Repr

/-- The word by which a kind is known in outputs. -/
def Kind.name : Kind → String
  | .snippet => "snippet"
  | .keyword => "keyword"
  | .table => "table"
  | .column => "column"

/-- A stretch of the buffer, by the offsets of its ends; both lie on `line`. -/
structure Range where
  line : Nat
  start : Nat
  stop : Nat
  deriving DecidableEq, Repr

namespace Range

/-- The number of characters in a stretch. -/
def length (r : Range) : Nat := r.stop - r.start

end Range

/-- A suggestion: what is shown, and the text that is inserted for it. -/
structure Suggestion where
  label : String
  kind : Kind
  insertText : String
  detail : String := ""
  deriving DecidableEq, Repr

/-- A suggestion for a stretch of the buffer. -/
structure Candidate extends Suggestion where
  range : Range
  deriving DecidableEq, Repr

/-- Offers a suggestion for a stretch of the buffer. -/
def Suggestion.at (s : Suggestion) (range : Range) : Candidate := { s with range }

/-- The suggestion of a word for itself. -/
def Suggestion.ofWord (kind : Kind) (word : String) (detail : String := "") : Suggestion :=
  ⟨word, kind, word, detail⟩

/-- The snippets that are offered unless the settings name others. -/
def defaultSnippets : List Suggestion := [
  ⟨"sel", .snippet, "SELECT * FROM ", "Select all columns"⟩,
  ⟨"cnt", .snippet, "SELECT COUNT(*) FROM ", "Count rows"⟩]

/-- The keywords that are offered unless the settings name others. -/
def defaultKeywords : List String := [
  "SELECT", "FROM", "WHERE", "JOIN", "LEFT", "INNER", "ON", "AS", "AND", "OR", "NOT", "IN",
  "IS", "NULL", "LIKE", "GROUP", "ORDER", "BY", "HAVING", "LIMIT", "DISTINCT", "INSERT",
  "INTO", "VALUES", "UPDATE", "SET", "DELETE"]

/-- The static floor: the snippets, then the keywords. -/
def staticFloor (keywords : List String) (snippets : List Suggestion) : List Suggestion :=
  snippets ++ keywords.map (Suggestion.ofWord .keyword)

/-- The static floor of the default settings. -/
def defaultFloor : List Suggestion := staticFloor defaultKeywords defaultSnippets

/-- The candidates whose insert text is in none of `seen` and in no earlier candidate. -/
def distinctBeyond (seen : List String) : List Candidate → List Candidate
  | [] => []
  | c :: cs =>
    if c.insertText ∈ seen then distinctBeyond seen cs
    else c :: distinctBeyond (c.insertText :: seen) cs

/-- The candidates without those whose insert text an earlier one has. -/
def distinct (cs : List Candidate) : List Candidate := distinctBeyond [] cs

/-- No insert text is offered twice. -/
theorem insertText_distinctBeyond (seen : List String) (cs : List Candidate) :
    ((distinctBeyond seen cs).map (·.insertText)).Nodup
      ∧ ∀ c ∈ distinctBeyond seen cs, c.insertText ∉ seen := by
  induction cs generalizing seen with
  | nil => simp [distinctBeyond]
  | cons c cs ih =>
    by_cases h : c.insertText ∈ seen
    · simpa [distinctBeyond, h] using ih seen
    · obtain ⟨hn, hs⟩ := ih (c.insertText :: seen)
      simp only [distinctBeyond, h, if_false, List.map_cons, List.nodup_cons, List.mem_map,
        not_exists, not_and, List.mem_cons]
      refine ⟨⟨fun d hd he => hs d hd (he ▸ List.mem_cons_self), hn⟩, ?_⟩
      rintro d (rfl | hd)
      · exact h
      · exact fun hm => hs d hd (List.mem_cons_of_mem _ hm)

end QueryDesk.Completion
