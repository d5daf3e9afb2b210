import QueryDesk.Statement.Tree

/-!
# Parts joined by a middle

Most groups are made around a part in the middle, such as a point or an
operator: the part before it and the part after it, blanks apart, join it in a
group. The parts of a group are gone through once, as they were at the start,
while groups are made among them. So a part that went into a group is still met,
at the place of that group, and may be what comes before the next middle. That
is how a chain of middles goes into one group, or into groups within each other.
-/

namespace QueryDesk.Statement

/-- How groups are made around a middle. -/
structure Joining where
  kind : GroupKind
  isMiddle : Node → Bool
  mayPrecede : Node → Bool
  /-- What may follow, if anything does. -/
  mayFollow : Option Node → Bool
  /-- The first and the last place of a group, from the places of the part
  before the middle, the middle, and the part after it. -/
  extent : Array Node → Nat → Nat → Option Nat → Nat × Nat :=
    fun _ before middle after => (before, after.getD middle)
  /-- Whether a group of the same kind at the first place takes the others in. -/
  grows : Bool := true

/-- The parts of a group while they are gone through. -/
structure Course where
  parts : Array Node
  /-- How many places the parts lie before those that they had at the start. -/
  shift : Int := 0
  /-- The part that was met before, and its place. -/
  before : Option (Nat × Node) := none

/-- The next part after a place that is no blank, and its place. -/
def nextSolid (parts : Array Node) (i : Nat) : Option (Nat × Node) :=
  if h : i + 1 < parts.size then
    if parts[i + 1].isBlank then nextSolid parts (i + 1) else some (i + 1, parts[i + 1])
  else none
termination_by parts.size - i

/-- The parts of a group of a kind that others may go into. -/
def growing? (kind : GroupKind) (grows : Bool) : Option Node → Option (List Node)
  | some (.group k inner) => if grows && k = kind then some inner else none
  | _ => none

/-- Puts the parts from one place to another into a group. A group of the kind
that is there already takes the others in if it may grow. -/
def collect (kind : GroupKind) (grows : Bool) (first last : Nat) (parts : Array Node) :
    Array Node :=
  let upToLast (i : Nat) : List Node := (parts.extract i (last + 1)).toList
  let (inner, rest) := match growing? kind grows parts[first]? with
    | some inner => (inner ++ upToLast (first + 1), max (first + 1) (last + 1))
    | none => (upToLast first, max first (last + 1))
  (parts.extract 0 first).push (.group kind inner) ++ parts.extract rest parts.size

namespace Joining

/-- Meets the part that was at a place at the start. -/
def meet (j : Joining) (c : Course) (n : Node) (i : Nat) : Course :=
  let place := i - c.shift
  if place < 0 || n.isBlank then c
  else
    let here := place.toNat
    let passed := { c with before := some (here, n) }
    match j.isMiddle n, c.before with
    | true, some (p, m) =>
      let after := nextSolid c.parts here
      if j.mayPrecede m && j.mayFollow (after.map (·.2)) then
        let (first, last) := j.extent c.parts p here (after.map (·.1))
        let parts := collect j.kind j.grows first last c.parts
        { parts, shift := c.shift + (last - first), before := parts[first]?.map (first, ·) }
      else passed
    | _, _ => passed

/-- The pass that makes the groups around middles. -/
def pass (j : Joining) : Pass := fun _ parts =>
  (parts.zipIdx.foldl (fun c (n, i) => j.meet c n i) { parts := parts.toArray }).parts.toList

/-- How far the pass reaches. It does not look into groups of its own kind. -/
def reach (j : Joining) : Reach := ⟨some j.kind, true⟩

end Joining

end QueryDesk.Statement
