import QueryDesk.Statement.Grouping
import QueryDesk.Statement.Lexer
import QueryDesk.Statement.Split

/-!
# Statements that return rows

Whether a text asks for rows is decided by the head of its first statement that
has one. The head is the first part of the statement that is neither a blank nor
a comment, together with all that belongs to it in the tree of the statement.
Parentheses that open it are passed over.
-/

namespace QueryDesk.Statement

/-- The words that head a statement with rows. -/
def rowWords : List String := ["SELECT", "WITH", "PRAGMA", "EXPLAIN", "VALUES"]

/-- Whether a part is passed over at the start of a statement. -/
def Node.isGap (n : Node) : Bool :=
  n.isBlank || n.isGroup [.comment] || n.isLeaf (·.kind.isComment)

/-- The first word of a text behind opening parentheses. -/
def firstWord? (cs : List Char) : Option (List Char) := (Text.words (cs.dropWhile (· = '('))).head?

/-- Whether a statement returns rows; one without a head does not say. -/
def answer? (parts : List Node) : Option Bool := do
  let head ← parts.find? (!·.isGap)
  let word ← firstWord? head.text
  pure (rowWords.contains (Text.upper (String.ofList word)))

/-- Whether the first statement of a text returns rows. Every statement of the
text has to be within the limits. -/
def returnsRows (sql : String) : Except Excess Bool := do
  let trees ← (statements (tokens sql.toList)).mapM group
  pure ((trees.findSome? answer?).getD false)

end QueryDesk.Statement
