import QueryDesk.Statement.Tree

/-!
# Parts between an opening and a closing one

Groups that begin and end with a part of their own, as a parenthesis does. A
closing part belongs to the last opening one that is not closed yet. Without
one it is a part like others, and so is what is never closed.
-/

namespace QueryDesk.Statement

/-- What begins and what ends a group of a kind. -/
structure Enclosure where
  kind : GroupKind
  opens : Node → Bool
  closes : Node → Bool

namespace Enclosure

/-- The parts before the current one, the last one first. Each opening part that
is not closed yet has what stands before it in `outer`. -/
structure Opened where
  outer : List (List Node × Node) := []
  inner : List Node := []

/-- Meets a part. -/
def meet (e : Enclosure) (o : Opened) (n : Node) : Opened :=
  if e.opens n then { outer := (o.inner, n) :: o.outer, inner := [] }
  else if e.closes n then
    match o.outer with
    | [] => { o with inner := n :: o.inner }
    | (before, opening) :: outer =>
      { outer, inner := .group e.kind (opening :: (n :: o.inner).reverse) :: before }
  else { o with inner := n :: o.inner }

/-- All parts in order, where nothing more is closed. -/
def Opened.parts (o : Opened) : List Node :=
  (o.outer.foldl (fun parts (before, opening) => parts ++ opening :: before) o.inner).reverse

/-- The pass that makes the groups of a kind. -/
def pass (e : Enclosure) : Pass := fun _ parts => (parts.foldl e.meet {}).parts

/-- How far the pass reaches. It does not look into groups of its own kind. -/
def reach (e : Enclosure) : Reach := ⟨some e.kind, true⟩

end Enclosure

end QueryDesk.Statement
