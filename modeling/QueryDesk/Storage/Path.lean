import QueryDesk.Room
import QueryDesk.Text.Printable

/-!
# Paths

A path as a user writes it, and the place in the file system that it names.
Parts that are empty or a single point do not count; two points go up one
directory. A leading tilde stands for a home directory.
-/

namespace QueryDesk.Storage

/-- A place: the names on the way down from the root. -/
abbrev Location := List String

/-- A path: what anchors it, empty for a relative path, and its parts. -/
structure Path where
  anchor : String
  parts : List String
  deriving DecidableEq, Repr

/-- The pieces of a text between the separators. -/
def pieces (cs : List Char) : List (List Char) :=
  cs.foldr (fun c ps =>
    if c = '/' then [] :: ps
    else
      match ps with
      | [] => [[c]]
      | p :: ps => (c :: p) :: ps) [[]]

namespace Path

/-- The path that a text stands for. Two leading separators, but not three,
are an anchor of their own. -/
def ofString (s : String) : Path :=
  let cs := s.toList
  let anchor :=
    match cs with
    | '/' :: '/' :: '/' :: _ => "/"
    | '/' :: '/' :: _ => "//"
    | '/' :: _ => "/"
    | _ => ""
  ⟨anchor, ((pieces cs).map String.ofList).filter fun p => p ≠ "" && p ≠ "."⟩

/-- The text of a path. -/
def text (p : Path) : String :=
  if p.anchor = "" && p.parts.isEmpty then "." else p.anchor ++ "/".intercalate p.parts

/-- Whether a path starts at the root. -/
def isAbsolute (p : Path) : Bool := p.anchor ≠ ""

/-- The path of the directory that holds what a path names. -/
def parent (p : Path) : Path := { p with parts := p.parts.dropLast }

/-- The last part of a path. -/
def name (p : Path) : String := p.parts.getLast?.getD ""

end Path

/-- The path of a place. -/
def Location.path (l : Location) : Path := ⟨"/", l⟩

/-- The text of a place. -/
def Location.text (l : Location) : String := (Location.path l).text

/-- What a program finds around it. -/
structure Surroundings where
  /-- The current directory. -/
  work : Location
  home : Location
  /-- The directory of the settings and of the history. -/
  config : Location
  /-- The home directories of the accounts that are known by name. -/
  accounts : List (String × Location) := []
  /-- How far values are followed at the place from which something is done. -/
  room : Room := .usual

/-- Why a path names no place. -/
inductive PathError where
  /-- The account that a leading tilde names is not known. -/
  | noHome
  /-- A part holds the character that ends texts in system calls. -/
  | nulCharacter
  /-- On the way to a place are links that lead back to themselves. -/
  | looping (place : Location)
  deriving DecidableEq, Repr

/-- The text of an error, as it is given to a user. -/
def PathError.message : PathError → String
  | .noHome => "Could not determine home directory."
  | .nulCharacter => "embedded null byte"
  | .looping place => "Symlink loop from " ++ Text.shown place.text

namespace Path

/-- A path whose leading tilde is replaced by the home directory it stands for. -/
def expand (s : Surroundings) (p : Path) : Except PathError Path :=
  if p.isAbsolute then .ok p
  else
    match p.parts with
    | [] => .ok p
    | first :: rest =>
      match first.toList with
      | ['~'] => .ok ⟨"/", s.home ++ rest⟩
      | '~' :: account =>
        if account.contains '\x00' then .error .nulCharacter
        else match s.accounts.lookup (String.ofList account) with
        | some home => .ok ⟨"/", home ++ rest⟩
        | none => .error .noHome
      | _ => .ok p

/-- Whether a path holds the character that ends texts in system calls. -/
def hasNul (p : Path) : Bool := p.parts.any (·.toList.contains '\x00')

/-- Goes down from a place by the parts of a path, up at two points. -/
def descend (start : Location) (parts : List String) : Location :=
  parts.foldl (fun at_ p => if p = ".." then at_.dropLast else at_ ++ [p]) start

/-- The place that a path names if nothing on the way is a link. -/
def lexical (s : Surroundings) (p : Path) : Location :=
  descend (if p.isAbsolute then [] else s.work) p.parts

end Path

end QueryDesk.Storage
