import QueryDesk.Statement.Token

/-!
# Statements as trees

A statement is read as a tree: its tokens stay in order at the leaves, and
tokens that belong together stand in a group. The tree is built by passes, each
of which turns the parts of a group into fewer, larger ones. A pass reaches all
groups from the inside out, so that each one sees its parts as the pass leaves
them.

Some passes look no deeper into a statement than a fixed number of groups, and
refuse a group of too many parts.
-/

namespace QueryDesk.Statement

/-- What the parts of a group make together. -/
inductive GroupKind where
  | comment
  | bracket
  | parenthesis
  | case
  | conditional
  | loop
  | block
  /-- The window of a function. -/
  | window
  | call
  | condition
  | identifier
  /-- A text with its type. -/
  | typed
  | operation
  | comparison
  | assignment
  | list
  /-- The rows of a statement that has them written out. -/
  | rows
  deriving DecidableEq, Repr

/-- A part of a statement. -/
inductive Node where
  | leaf (token : Token)
  | group (kind : GroupKind) (parts : List Node)
  deriving Repr

namespace Node

mutual

/-- The text of a part. -/
def text : Node → List Char
  | leaf t => t.text
  | group _ parts => texts parts

/-- The text of some parts. -/
def texts : List Node → List Char
  | [] => []
  | n :: ns => n.text ++ texts ns

end

/-- Whether a part is a token with a property. -/
def isLeaf (p : Token → Bool) : Node → Bool
  | leaf t => p t
  | group .. => false

/-- Whether a part is a token of one of some kinds. -/
def isAny (kinds : List TokenKind) (n : Node) : Bool := n.isLeaf fun t => kinds.contains t.kind

/-- Whether a part is a group of one of some kinds. -/
def isGroup (kinds : List GroupKind) : Node → Bool
  | leaf _ => false
  | group k _ => kinds.contains k

/-- Whether a part is a token that only keeps others apart. -/
def isBlank (n : Node) : Bool := n.isLeaf (·.kind.isBlank)

/-- Whether a part is a certain mark. -/
def isMark (n : Node) (c : Char) : Bool := n.isLeaf (·.isMark c)

/-- Whether a part is one of some plain keywords. -/
def isKeyword (n : Node) (words : List String) : Bool := n.isLeaf (·.isKeyword words)

end Node

/-- Why a statement is not read as a tree. -/
inductive Excess where
  /-- Its groups lie too deep in each other. -/
  | depth
  /-- A group has too many parts. -/
  | parts
  deriving DecidableEq, Repr

/-- How deep in each other groups may lie. -/
def depthLimit : Nat := 100
/-- How many parts a group may have. -/
def partLimit : Nat := 10000

/-- The text of an excess, as it is given to a user. -/
def Excess.message : Excess → String
  | depth => "Maximum grouping depth exceeded (" ++ toString depthLimit ++ ")."
  | parts => "Maximum number of tokens exceeded (" ++ toString partLimit ++ ")."

/-- How far a pass reaches: which groups it leaves as they are, and whether it
keeps to the limits. -/
structure Reach where
  spared : Option GroupKind
  limited : Bool
  deriving DecidableEq, Repr

/-- A pass: what becomes of the parts of a group, whose kind is given unless the
parts are those of the whole statement. -/
abbrev Pass := Option GroupKind → List Node → List Node

/-- Refuses too many parts, if there is a limit. -/
def Reach.admit (r : Reach) (parts : List Node) : Except Excess Unit :=
  if r.limited && partLimit < parts.length then .error .parts else .ok ()

mutual

/-- A part after a pass over all that lies in it. `room` is how much deeper the
pass may go. -/
def Reach.within (r : Reach) (pass : Pass) (room : Nat) : Node → Except Excess Node
  | .leaf t => .ok (.leaf t)
  | .group k parts =>
    if r.spared = some k then .ok (.group k parts)
    else if r.limited && room = 0 then .error .depth
    else do
      r.admit parts
      pure (.group k (pass (some k) (← r.withinAll pass (room - 1) parts)))

/-- Some parts after a pass over all that lies in them. -/
def Reach.withinAll (r : Reach) (pass : Pass) (room : Nat) : List Node → Except Excess (List Node)
  | [] => .ok []
  | n :: ns => do
    let n ← r.within pass room n
    pure (n :: (← r.withinAll pass room ns))

end

/-- The parts of a statement after a pass. -/
def Reach.apply (r : Reach) (pass : Pass) (parts : List Node) : Except Excess (List Node) := do
  r.admit parts
  pure (pass none (← r.withinAll pass depthLimit parts))

end QueryDesk.Statement
