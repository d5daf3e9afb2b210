import QueryDesk.Statement.Token
import QueryDesk.Text.Blank

/-!
# Statements

A text is a row of statements. A semicolon ends one, unless it stands inside
parentheses or a body; so does the word that separates batches. Blanks and line
comments on the same line still belong to the statement before them.
-/

namespace QueryDesk.Statement

/-- What is open until the word that ends it. -/
inductive Construct where
  /-- The declarations before a body. -/
  | declarations
  | body
  | conditional
  | cases
  | iteration
  | repetition
  /-- A loop without a head, or the loop behind one. -/
  | loop
  deriving DecidableEq, Repr

namespace Construct

/-- What a word begins inside a body. -/
def begun? : String → Option Construct
  | "IF" => some conditional
  | "CASE" => some cases
  | "FOR" => some iteration
  | "WHILE" => some repetition
  | "LOOP" => some loop
  | _ => none

/-- What a word ends that ends one kind of construct only. -/
def ended? : String → Option Construct
  | "END IF" => some conditional
  | "END CASE" => some cases
  | "END FOR" => some iteration
  | "END WHILE" => some repetition
  | "END LOOP" => some loop
  | _ => none

/-- Whether a construct is the head of a loop. -/
def isHead : Construct → Bool
  | iteration | repetition => true
  | _ => false

end Construct

/-- What the cutting of statements has seen of one so far. -/
structure Nesting where
  /-- How deep the current token is nested. -/
  level : Int := 0
  /-- What is open, the innermost construct first. -/
  constructs : List Construct := []
  /-- Whether the statement defines something. -/
  defines : Bool := false
  /-- Whether a body was just opened, so that it may prove to be a transaction. -/
  opened : Bool := false

namespace Nesting

/-- Whether a body is open. Only there the words of other constructs count. -/
def inBody (s : Nesting) : Bool := s.constructs.contains .body

/-- Opens a construct. -/
def enter (s : Nesting) (c : Construct) : Nesting :=
  { s with level := s.level + 1, constructs := c :: s.constructs }

/-- Closes the innermost construct. -/
def leave (s : Nesting) : Nesting :=
  { s with level := s.level - 1, constructs := s.constructs.tail }

/-- Turns the innermost construct into another one. -/
def become (s : Nesting) (c : Construct) : Nesting :=
  { s with constructs := c :: s.constructs.tail }

/-- Takes back a body that is the start of a transaction. -/
def retract (s : Nesting) : Nesting := { s.leave with opened := false }

/-- The words that make a body the start of a transaction. -/
def transactionWords : List String :=
  ["TRANSACTION", "WORK", "TRAN", "DISTRIBUTED", "DEFERRED", "IMMEDIATE", "EXCLUSIVE"]

/-- Takes the word into account that begins a body, which the declarations before
it belong to. -/
def begin (s : Nesting) : Nesting :=
  let s := if s.constructs.head? = some .declarations then s.become .body else s.enter .body
  { s with opened := true }

/-- Takes the word into account that begins declarations. They stand before the
body of what is defined. -/
def declare (s : Nesting) : Nesting :=
  if s.defines && !s.inBody && s.constructs.head? ≠ some .declarations then s.enter .declarations
  else s

/-- Takes the beginning of another construct into account. A loop behind its
head is one with it. -/
def start (s : Nesting) (c : Construct) : Nesting :=
  if !s.inBody then s
  else if c = .loop && s.constructs.head?.any Construct.isHead then s.become .loop
  else s.enter c

/-- Takes a keyword into account. -/
def seeKeyword (s : Nesting) (t : Token) : Nesting :=
  let word := t.upper
  if t.kind = .definition && "CREATE".toList.isPrefixOf word.toList then { s with defines := true }
  else if word = "BEGIN" then s.begin
  else if s.opened && t.kind = .keyword && transactionWords.contains word then s.retract
  else if word = "DECLARE" then s.declare
  else if word = "END" then s.leave
  else
    match Construct.begun? word, Construct.ended? word with
    | some c, _ => s.start c
    | none, some c => if s.constructs.head? = some c then s.leave else s
    | none, none => s

/-- Takes a token into account. -/
def see (s : Nesting) (t : Token) : Nesting :=
  if t.isMark '(' then { s with level := s.level + 1, opened := false }
  else if t.isMark ')' then { s with level := s.level - 1, opened := false }
  else if t.isMark ';' then if s.opened then s.retract else s
  else if t.kind.isKeyword then
    let s' := s.seeKeyword t
    if t.kind = .keyword && t.upper = "BEGIN" then s' else { s' with opened := false }
  else if t.kind.isBlank || t.kind = .lineComment || t.kind = .blockComment then s
  else { s with opened := false }

end Nesting

/-- Whether a token is the word that separates batches. -/
def isBatchEnd (t : Token) : Bool :=
  t.kind = .keyword && (t.text = ['G', 'O'] ||
    match t.text with
    | 'G' :: 'O' :: c :: _ => Text.isBlank c
    | _ => false)

/-- Whether a token ends a statement, after what is seen up to it. -/
def endsStatement (s : Nesting) (t : Token) : Bool :=
  (t.isMark ';' && s.level ≤ 0 && !s.inBody) || isBatchEnd t

/-- Cuts tokens into statements. `statement` holds the tokens of the current
one, the last one first; `ended` says that it is complete but for what stands
behind it on its line. -/
def cut (s : Nesting) (ended : Bool) (statement : List Token) : List Token → List (List Token)
  | [] => if statement.all (·.kind.isBlank) then [] else [statement.reverse]
  | t :: ts =>
    if ended && t.kind ≠ .blank && t.kind ≠ .lineComment then
      let s := Nesting.see {} t
      statement.reverse :: cut s (endsStatement s t) [t] ts
    else
      let s := s.see t
      cut s (ended || endsStatement s t) (t :: statement) ts

/-- The statements among some tokens. -/
def statements (ts : List Token) : List (List Token) := cut {} false [] ts

end QueryDesk.Statement
