import QueryDesk.Completion.Candidate
import QueryDesk.Text.Lines
import QueryDesk.Text.Word

/-!
# The context of a cursor

What is being typed at a cursor: the word before it, what qualifies that word,
the word before the one being typed, and the stretch of the buffer that an
accepted candidate replaces. Only the line of the cursor counts, and only its
part before the cursor.
-/

namespace QueryDesk.Completion

open Text

/-- A row and a column. Values outside the buffer stand for its nearest position. -/
structure Cursor where
  line : Int
  column : Int
  deriving DecidableEq, Repr

/-- What is being typed at a cursor. -/
structure Context where
  /-- The line up to the cursor. -/
  linePrefix : String
  /-- The text before the cursor back to the nearest blank. -/
  precedingToken : String
  /-- The word before the point that qualifies the word being typed. -/
  qualifier : Option String
  /-- The word being typed. -/
  partialWord : String
  /-- The word before the one being typed, with only blanks between them. -/
  keywordBefore : Option String
  /-- The stretch that the word being typed takes up. -/
  range : Range
  deriving DecidableEq, Repr

/-- The number of `0 … limit` nearest to `n`. -/
def clamp (n : Int) (limit : Nat) : Nat := min n.toNat limit

/-- The word at the end of a text, if it ends with one. -/
def finalWord? (cs : List Char) : Option String :=
  let word := suffixWhile isWord cs
  if word.isEmpty then none else some (String.ofList word)

/-- The word before the point before the word at the end of a token. -/
def qualifierOf (token : List Char) : Option String :=
  match (dropSuffixWhile isWord token).reverse with
  | '.' :: before => finalWord? before.reverse
  | _ => none

/-- The word at the end of a text that ends with blanks. -/
def keywordEnding (cs : List Char) : Option String :=
  if (suffixWhile isBlank cs).isEmpty then none else finalWord? (dropSuffixWhile isBlank cs)

/-- The context of a cursor in a buffer. -/
def contextAt (sql : String) (cursor : Cursor) : Context :=
  let rows := lines sql.toList
  let row := clamp cursor.line (rows.length - 1)
  let line := rows.getD row []
  let column := clamp cursor.column line.length
  let before := line.take column
  let token := suffixWhile (!isBlank ·) before
  let word := suffixWhile isWord before
  let base := lineOffset rows row
  { linePrefix := String.ofList before
    precedingToken := String.ofList token
    qualifier := qualifierOf token
    partialWord := String.ofList word
    keywordBefore := keywordEnding (dropSuffixWhile isWord before)
    range := { line := row, start := base + (column - word.length), stop := base + column } }

end QueryDesk.Completion
