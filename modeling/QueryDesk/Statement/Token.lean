import QueryDesk.Text.Case

/-!
# Tokens of a statement

A token is a stretch of the text of a statement with what it is. Some kinds are
kinds of a wider kind; the predicates below say which.
-/

namespace QueryDesk.Statement

/-- What a token is. -/
inductive TokenKind where
  /-- A blank that does not end a line. -/
  | blank
  | lineEnd
  | lineComment
  | blockComment
  /-- A comment that is meant for the engine. -/
  | lineHint
  | blockHint
  | assignment
  | punctuation
  | star
  | name
  /-- The name of a type. -/
  | type
  | placeholder
  | hexadecimal
  | real
  | integer
  /-- A text between single quotes. -/
  | text
  /-- A name between double quotes. -/
  | symbol
  /-- A text between tags of its own. -/
  | tagged
  /-- A word behind a backslash. -/
  | command
  | keyword
  /-- A keyword that heads a statement on rows or on a transaction. -/
  | manipulation
  /-- A keyword that heads a statement on tables and the like. -/
  | definition
  /-- A keyword that heads a statement on rights. -/
  | control
  /-- The keyword before table expressions. -/
  | expression
  /-- A direction of sorting. -/
  | order
  /-- A change of the time zone. -/
  | zone
  | comparison
  | operator
  /-- A character that begins nothing. -/
  | other
  deriving DecidableEq, Repr

namespace TokenKind

/-- Whether tokens of a kind only keep others apart. -/
def isBlank : TokenKind → Bool
  | blank | lineEnd => true
  | _ => false

/-- Whether tokens of a kind are comments. -/
def isComment : TokenKind → Bool
  | lineComment | blockComment | lineHint | blockHint => true
  | _ => false

/-- Whether tokens of a kind are keywords, which are the same in either case. -/
def isKeyword : TokenKind → Bool
  | keyword | manipulation | definition | control | expression | order | zone => true
  | _ => false

/-- Whether tokens of a kind are names. -/
def isName : TokenKind → Bool
  | name | type | placeholder => true
  | _ => false

/-- Whether tokens of a kind are numbers. -/
def isNumber : TokenKind → Bool
  | hexadecimal | real | integer => true
  | _ => false

end TokenKind

/-- A token. -/
structure Token where
  kind : TokenKind
  text : List Char
  deriving DecidableEq, Repr

namespace Token

/-- The text of a token in upper case. -/
def upper (t : Token) : String := Text.upper (String.ofList t.text)

/-- Whether a token is a certain mark. -/
def isMark (t : Token) (c : Char) : Bool := t.kind = .punctuation && t.text = [c]

/-- Whether a token is one of some plain keywords, given in upper case. -/
def isKeyword (t : Token) (words : List String) : Bool :=
  t.kind = .keyword && words.contains t.upper

end Token

end QueryDesk.Statement
