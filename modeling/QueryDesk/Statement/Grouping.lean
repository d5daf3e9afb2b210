import QueryDesk.Statement.Enclose
import QueryDesk.Statement.Join

/-!
# The groups of a statement

The passes that read a statement as a tree, in the order in which they are made.
Later ones rest on the groups of earlier ones: a call is a name before a
parenthesis, an operation may have a call on one side, and so on.
-/

namespace QueryDesk.Statement

/-! ## Parts -/

/-- Leading blanks, the part after them, and the parts after that. -/
def splitSolid : List Node → Option (List Node × Node × List Node)
  | [] => none
  | n :: ns =>
    if n.isBlank then (splitSolid ns).map fun (blanks, m, rest) => (n :: blanks, m, rest)
    else some ([], n, ns)

/-- The kinds of numbers that take part in operations. -/
def plainNumbers : List TokenKind := [.integer, .real]
/-- The kinds of quoted tokens that take part in operations. -/
def quotes : List TokenKind := [.text, .symbol]
/-- The kinds of names that take part in operations. -/
def plainNames : List TokenKind := [.name, .placeholder]

/-! ## Comments -/

/-- Groups every run of comments and line ends that begins with a comment and
does not end the statement. -/
def groupComments : Pass := fun _ parts =>
  let belongs (n : Node) : Bool := n.isLeaf fun t => t.kind.isComment || t.kind = .lineEnd
  let rec go : Nat → List Node → List Node
    | 0, ns => ns
    | _, [] => []
    | fuel + 1, n :: ns =>
      if !n.isLeaf (·.kind.isComment) then n :: go fuel ns
      else
        match ns.dropWhile belongs with
        | [] => n :: ns
        | rest => .group .comment (n :: ns.takeWhile belongs) :: go fuel rest
  go parts.length parts

/-- Puts every comment into the group before it. -/
def alignComments : Pass := fun _ parts =>
  let meet (done : List Node) (n : Node) : List Node :=
    if !n.isGroup [.comment] then n :: done
    else
      match done.dropWhile Node.isBlank with
      | .group k inner :: before =>
        .group k (inner ++ (n :: done.takeWhile Node.isBlank).reverse) :: before
      | _ => n :: done
  (parts.foldl meet []).reverse

/-! ## Enclosed parts -/

/-- The enclosures, in the order in which they are grouped. -/
def enclosures : List Enclosure := [
  ⟨.bracket, (·.isMark '['), (·.isMark ']')⟩,
  ⟨.parenthesis, (·.isMark '('), (·.isMark ')')⟩,
  ⟨.case, (·.isKeyword ["CASE"]), (·.isKeyword ["END"])⟩,
  ⟨.conditional, (·.isKeyword ["IF"]), (·.isKeyword ["END IF"])⟩,
  ⟨.loop, (·.isKeyword ["FOR", "FOREACH"]), (·.isKeyword ["END LOOP"])⟩,
  ⟨.block, (·.isKeyword ["BEGIN"]), (·.isKeyword ["END"])⟩]

/-! ## Parts in a row -/

/-- Groups the word for a window with the parenthesis or the name after it. -/
def groupWindows : Pass := fun _ parts =>
  parts.foldr (fun n ns =>
    match n.isKeyword ["OVER"], splitSolid ns with
    | true, some (blanks, m, rest) =>
      if m.isGroup [.parenthesis] || m.isLeaf (·.kind.isName) then
        .group .window (n :: blanks ++ [m]) :: rest
      else n :: ns
    | _, _ => n :: ns) []

/-- Groups a name with the parenthesis after it, and the window after that. In
the definition of a table by its columns there are no calls. -/
def groupCalls : Pass := fun _ parts =>
  let has (word : String) : Bool := parts.any (·.isLeaf (·.upper = word))
  if has "CREATE" && has "TABLE" && !has "AS" then parts
  else
    parts.foldr (fun n ns =>
      match n.isLeaf (·.kind.isName), splitSolid ns with
      | true, some (blanks, m, rest) =>
        if m.isGroup [.parenthesis] then
          match splitSolid rest with
          | some (blanks', w, rest') =>
            if w.isGroup [.window] then
              .group .call (n :: blanks ++ m :: blanks' ++ [w]) :: rest'
            else .group .call (n :: blanks ++ [m]) :: rest
          | none => .group .call (n :: blanks ++ [m]) :: rest
        else n :: ns
      | _, _ => n :: ns) []

/-- The keywords that end a condition. -/
def conditionEnds : List String := [
  "ORDER BY", "GROUP BY", "LIMIT", "UNION", "UNION ALL", "EXCEPT", "HAVING", "RETURNING", "INTO",
  "INTERSECT"]

/-- Groups a condition: from its word to before the keyword that ends it, or to
the end of what it stands in. -/
def groupConditions : Pass := fun kind parts =>
  let ends (n : Node) : Bool := n.isKeyword conditionEnds
  let closed := kind = some .bracket || kind = some .parenthesis
  let rec go : Nat → List Node → List Node
    | 0, ns => ns
    | _, [] => []
    | fuel + 1, n :: ns =>
      if !n.isKeyword ["WHERE"] then n :: go fuel ns
      else
        match ns.dropWhile (!ends ·) with
        | [] =>
          if closed then .group .condition (n :: ns.dropLast) :: ns.getLast?.toList
          else [.group .condition (n :: ns)]
        | rest => .group .condition (n :: ns.takeWhile (!ends ·)) :: go fuel rest
  go parts.length parts

/-- Makes an identifier of every name. -/
def groupNames : Pass := fun _ parts =>
  parts.map fun n => if n.isAny [.symbol, .name] then .group .identifier [n] else n

/-- Groups a direction of sorting with what it sorts by. -/
def groupOrders : Pass := fun _ parts =>
  let meet (done : List Node) (n : Node) : List Node :=
    if !n.isAny [.order] then n :: done
    else
      match done.dropWhile Node.isBlank with
      | m :: before =>
        if m.isGroup [.identifier] || m.isLeaf (·.kind.isNumber) then
          .group .identifier (m :: (n :: done.takeWhile Node.isBlank).reverse) :: before
        else n :: done
      | [] => n :: done
  (parts.foldl meet []).reverse

/-- The groups that may have a name of their own behind them. -/
def named : List GroupKind := [.parenthesis, .call, .case, .identifier, .operation, .comparison]

/-- Groups a part with the name behind it. -/
def groupAliases : Pass := fun _ parts =>
  let rec go : Nat → List Node → List Node
    | 0, ns => ns
    | _, [] => []
    | fuel + 1, n :: ns =>
      match n.isGroup named || n.isLeaf (·.kind.isNumber), splitSolid ns with
      | true, some (blanks, m, rest) =>
        if !m.isGroup [.identifier] then n :: go fuel ns
        else
          let joined : Node := match n with
            | .group .identifier inner => .group .identifier (inner ++ blanks ++ [m])
            | n => .group .identifier (n :: blanks ++ [m])
          joined :: go fuel rest
      | _, _ => n :: go fuel ns
  go parts.length parts

/-- Groups the word for rows that are written out with all parentheses up to the
last one that stands with it. -/
def groupRows : Pass := fun _ parts =>
  let before := parts.takeWhile (!·.isKeyword ["VALUES"])
  let here := parts.drop before.length
  let after := here.reverse.takeWhile (!·.isGroup [.parenthesis])
  if after.length = here.length then parts
  else before ++ .group .rows (here.take (here.length - after.length)) :: after.reverse

/-! ## Joined parts -/

/-- Parts joined by points, or by the operators that go into a value. -/
def points : Joining where
  kind := .identifier
  isMiddle n := n.isMark '.' || n.isLeaf fun t => t.kind = .operator &&
    (t.text = ['-', '>'] || t.text = ['-', '>', '>'])
  mayPrecede n := n.isGroup [.bracket] || n.isAny [.name, .symbol]
  mayFollow _ := true
  extent parts before middle after :=
    let follows (n : Node) : Bool :=
      n.isGroup [.bracket, .call] || n.isAny [.name, .symbol, .star, .text]
    match after.filter fun i => parts[i]?.any follows with
    | some last => (before, last)
    | none => (before, middle)

/-- Parts with an index in brackets. -/
def indices : Joining where
  kind := .identifier
  isMiddle n := n.isGroup [.bracket]
  mayPrecede n := n.isGroup [.bracket, .identifier, .call] || n.isAny [.name, .symbol]
  mayFollow _ := true
  extent _ before middle _ := (before, middle)

/-- Parts with a type after two colons. -/
def casts : Joining where
  kind := .identifier
  isMiddle n := n.isLeaf fun t => t.kind = .punctuation && t.text = [':', ':']
  mayPrecede _ := true
  mayFollow := Option.isSome

/-- Parts with a change of the time zone. -/
def zones : Joining where
  kind := .identifier
  isMiddle n := n.isAny [.zone]
  mayPrecede _ := true
  mayFollow n := n.any fun n => n.isAny [.text] || n.isKeyword ["AS"]

/-- Types with a text. -/
def typedTexts : Joining where
  kind := .typed
  isMiddle n := n.isAny [.type] || n.isKeyword ["TIMESTAMP"]
  mayPrecede _ := true
  mayFollow n := n.any (·.isAny [.text])
  extent _ _ middle after := (middle, after.getD middle)
  grows := false

/-- Types with a text and a unit of time. -/
def typedUnits : Joining where
  kind := .typed
  isMiddle n := n.isGroup [.typed]
  mayPrecede _ := true
  mayFollow n := n.any (·.isKeyword ["DAY", "HOUR", "MINUTE", "MONTH", "SECOND", "YEAR"])
  extent _ _ middle after := (middle, after.getD middle)

/-- Parts joined by an operator. -/
def operations : Joining where
  kind := .operation
  isMiddle n := n.isAny [.operator, .star]
  mayPrecede := operand
  mayFollow n := n.any operand
  grows := false
where
  /-- Whether a part can be an operand. -/
  operand (n : Node) : Bool :=
    n.isGroup [.bracket, .parenthesis, .call, .identifier, .operation, .typed]
      || n.isAny (plainNumbers ++ quotes ++ plainNames)
      || n.isKeyword ["CURRENT_DATE", "CURRENT_TIME", "CURRENT_TIMESTAMP"]

/-- Parts that are compared. -/
def comparisons : Joining where
  kind := .comparison
  isMiddle n := n.isAny [.comparison]
  mayPrecede := comparand
  mayFollow n := n.any comparand
  grows := false
where
  /-- Whether a part can be compared. -/
  comparand (n : Node) : Bool :=
    n.isGroup [.parenthesis, .call, .identifier, .operation, .typed]
      || n.isAny (plainNumbers ++ quotes ++ plainNames)
      || n.isLeaf fun t => t.kind.isKeyword && t.upper = "NULL"

/-- Parts with a name behind a word of its own. -/
def renamings : Joining where
  kind := .identifier
  isMiddle n := n.isKeyword ["AS"]
  mayPrecede n := !n.isLeaf (·.kind.isKeyword) || n.isKeyword ["NULL"]
  mayFollow n := n.any (!·.isAny [.manipulation, .definition, .expression])

/-- Assignments, up to the semicolon that ends them. -/
def assignments : Joining where
  kind := .assignment
  isMiddle n := n.isAny [.assignment]
  mayPrecede n := !n.isAny [.keyword]
  mayFollow n := n.any (!·.isAny [.keyword])
  extent parts before middle after :=
    let after := after.getD middle
    match (parts.extract (after + 1) parts.size).findIdx? (·.isMark ';') with
    | some i => (before, after + 1 + i)
    | none => (before, after)

/-- Items between commas. -/
def lists : Joining where
  kind := .list
  isMiddle n := n.isMark ','
  mayPrecede := item
  mayFollow n := n.any item
where
  /-- Whether a part can be an item. -/
  item (n : Node) : Bool :=
    n.isGroup [.call, .case, .identifier, .comparison, .list, .operation]
      || n.isAny (plainNumbers ++ quotes ++ plainNames ++ [.keyword, .star])

/-! ## All passes -/

/-- A pass with its reach. -/
structure Stage where
  reach : Reach
  pass : Pass

/-- The stage of a pass that keeps to no limits. -/
def Stage.free (pass : Pass) (spared : Option GroupKind := none) : Stage := ⟨⟨spared, false⟩, pass⟩

/-- The stage of a joining. -/
def Joining.stage (j : Joining) : Stage := ⟨j.reach, j.pass⟩

/-- The passes that reach into groups up to the pass for points. -/
def firstStages : List Stage :=
  .free groupComments :: enclosures.map (fun e => ⟨e.reach, e.pass⟩) ++ [
    .free groupWindows (some .window), .free groupCalls (some .call),
    .free groupConditions (some .condition), points.stage]

/-- The passes that reach into groups after the one for indices. -/
def lastStages : List Stage := [
  .free groupNames (some .identifier), .free groupOrders (some .identifier), casts.stage,
  zones.stage, typedTexts.stage, typedUnits.stage, operations.stage, comparisons.stage,
  renamings.stage, .free groupAliases, assignments.stage, .free alignComments, lists.stage]

/-- Reads the tokens of a statement as a tree. The indices and the rows are
looked for among the outermost parts only. -/
def group (ts : List Token) : Except Excess (List Node) := do
  let run (parts : List Node) (s : Stage) : Except Excess (List Node) := s.reach.apply s.pass parts
  let parts ← firstStages.foldlM run (ts.map .leaf)
  indices.reach.admit parts
  let parts ← lastStages.foldlM run (indices.pass none parts)
  pure (groupRows none parts)

end QueryDesk.Statement
