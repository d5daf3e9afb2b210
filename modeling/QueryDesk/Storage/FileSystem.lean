import QueryDesk.OrderedMap
import QueryDesk.Storage.Path
import QueryDesk.Text.Printable

/-!
# File systems

The directories and files that a program can see, as a value. A path is walked
part by part, so that every directory on the way has to be there. Every change
gives a new file system; the renaming of a file over another one is a single
change.

A link that leads to a file or a directory is not told from it; what is kept of
links are those that lead back to themselves, since they make the system give
up.
-/

namespace QueryDesk.Storage

/-- What is at a place. The mode says who may do what with it. -/
inductive Node where
  | directory (mode : Nat)
  | file (bytes : List UInt8) (mode : Nat)
  /-- A link that leads back to itself, be it through other ones. -/
  | loop
  deriving DecidableEq, Repr

/-- The nodes by their places. The root is a directory without an entry. -/
abbrev FileSystem := OrderedMap Location Node

/-- Why the system refuses to do something with a path. -/
inductive SystemError where
  | notFound
  | alreadyThere
  | notADirectory
  | isADirectory
  /-- The owner of a file may not read it. -/
  | denied
  /-- A part of a path, or the whole of it, has too many bytes. -/
  | nameTooLong
  /-- A place is in use as the directory that something starts from. -/
  | busy
  /-- Following a link leads back to it. -/
  | tooManyLinks
  deriving DecidableEq, Repr

namespace SystemError

/-- The number of an error. -/
def number : SystemError → Nat
  | notFound => 2
  | alreadyThere => 17
  | notADirectory => 20
  | isADirectory => 21
  | denied => 13
  | nameTooLong => 36
  | busy => 16
  | tooManyLinks => 40

/-- The words for an error. -/
def words : SystemError → String
  | notFound => "No such file or directory"
  | alreadyThere => "File exists"
  | notADirectory => "Not a directory"
  | isADirectory => "Is a directory"
  | denied => "Permission denied"
  | nameTooLong => "File name too long"
  | busy => "Device or resource busy"
  | tooManyLinks => "Too many levels of symbolic links"

/-- The text of an error over a path. -/
def message (e : SystemError) (p : Path) : String :=
  "[Errno " ++ toString e.number ++ "] " ++ e.words ++ ": " ++ Text.shown p.text

end SystemError

/-- The bytes that the name of an entry may have. -/
def nameLimit : Nat := 255
/-- The bytes that the text of a path may have. -/
def pathLimit : Nat := 4095

namespace FileSystem

/-- A directory that nothing else is said of: its owner alone changes it. -/
def plainDirectory : Node := .directory 0o755

/-- What is at a place. -/
def node? (fs : FileSystem) (l : Location) : Option Node :=
  if l = [] then some plainDirectory else fs.get? l

/-- Whether a place leads to anything. -/
def holds (fs : FileSystem) (l : Location) : Bool := (fs.node? l).any (· ≠ .loop)

/-- One part further from a directory. -/
def next (directory : Location) (part : String) : Except SystemError Location :=
  if part = ".." then .ok directory.dropLast
  else if nameLimit < part.utf8ByteSize then .error .nameTooLong
  else .ok (directory ++ [part])

/-- Walks down from a place. Each part starts from a directory that is there;
what the last one leads to need not be. -/
def walk (fs : FileSystem) (start : Location) : List String → Except SystemError Location
  | [] => .ok start
  | p :: ps =>
    match fs.node? start with
    | some (.directory _) => do fs.walk (← next start p) ps
    | some (.file ..) => .error .notADirectory
    | some .loop => .error .tooManyLinks
    | none => .error .notFound

/-- Where a path starts from. A path that is too long does not start at all. -/
def start (work : Location) (p : Path) : Except SystemError Location :=
  if pathLimit < p.text.utf8ByteSize then .error .nameTooLong
  else .ok (if p.isAbsolute then [] else work)

/-- The place that a path leads to. -/
def place (fs : FileSystem) (work : Location) (p : Path) : Except SystemError Location := do
  fs.walk (← start work p) p.parts

/-- Whether anything is at a path. To lead nowhere is no error. -/
def isThere (fs : FileSystem) (work : Location) (p : Path) : Except SystemError Bool :=
  match fs.place work p with
  | .ok l => .ok (fs.holds l)
  | .error .notFound | .error .notADirectory | .error .tooManyLinks => .ok false
  | .error e => .error e

/-- Whether a mode lets the owner of a file read it. -/
def ownerReads (mode : Nat) : Bool := mode / 0o400 % 2 = 1

/-- The bytes of the file at a path. -/
def read (fs : FileSystem) (work : Location) (p : Path) : Except SystemError (List UInt8) := do
  match fs.node? (← fs.place work p) with
  | none => .error .notFound
  | some (.directory _) => .error .isADirectory
  | some (.file bytes mode) => if ownerReads mode then pure bytes else .error .denied
  | some .loop => .error .tooManyLinks

/-- Makes the directories on the way from a place that are not there. The last
of them gets a mode of its own. The file system is answered as it is then, also
where the way is blocked. `made` says that some were made already: from there on
each directory is met as one to make and not as one to pass. -/
def makeWay (fs : FileSystem) (start : Location) (mode : Nat) (made : Bool) :
    List String → FileSystem × Except SystemError Unit
  | [] => (fs, .ok ())
  | p :: ps =>
    match next start p with
    | .error e => (fs, .error e)
    | .ok l =>
      match fs.node? l with
      | some (.directory _) => fs.makeWay l mode made ps
      | none =>
        let node := if ps.isEmpty then .directory mode else plainDirectory
        FileSystem.makeWay (fs.put l node) l mode true ps
      | some (.file ..) =>
        (fs, .error (if ps.isEmpty || made then .alreadyThere else .notADirectory))
      | some .loop =>
        (fs, .error (if ps.isEmpty || made then .alreadyThere else .tooManyLinks))

/-- The directory that a path leads to. -/
def directory (fs : FileSystem) (work : Location) (p : Path) : Except SystemError Location := do
  let l ← fs.place work p
  match fs.node? l with
  | some (.directory _) => pure l
  | some (.file ..) => .error .notADirectory
  | some .loop => .error .tooManyLinks
  | none => .error .notFound

/-- The file system while the directory at a path is made: those on the first `n`
parts of the way are there, and the last one is not made yet. -/
def partWay (fs : FileSystem) (work : Location) (p : Path) (n : Nat) : FileSystem :=
  match start work p with
  | .error _ => fs
  | .ok l => (fs.makeWay l 0o755 false (p.parts.dropLast.take n)).1

/-- Makes the directory at a path if it is not there, the one that holds it first. -/
def makeDirectories (fs : FileSystem) (work : Location) (p : Path) (mode : Nat) :
    FileSystem × Except SystemError Unit :=
  match start work p with
  | .error e => (fs, .error e)
  | .ok l => fs.makeWay l mode false p.parts

/-- Makes a file with contents, or changes the contents of one. -/
def write (fs : FileSystem) (l : Location) (bytes : List UInt8) (mode : Nat) : FileSystem :=
  fs.put l (.file bytes mode)

/-- Gives a file a name in a directory, in place of the file or link that may have
it. What is no name of an entry cannot be given. -/
def replace (fs : FileSystem) (source directory : Location) (name : String) :
    Except SystemError FileSystem :=
  if name = "" || name = ".." then .error .busy
  else
    let target := directory ++ [name]
    match fs.node? source, fs.node? target with
    | none, _ => .error .notFound
    | _, some (.directory _) => .error .isADirectory
    | some n, _ => .ok ((OrderedMap.remove fs source).put target n)

/-- The place that a path names, whether or not anything is there. A path whose way
is a link that leads back to itself names none. -/
def resolve (fs : FileSystem) (s : Surroundings) (p : Path) : Except PathError Location :=
  if p.hasNul then .error .nulCharacter
  else
    let l := p.lexical s
    match fs.place [] (Location.path l) with
    | .error .tooManyLinks => .error (.looping l)
    | .ok l' => if fs.node? l' = some .loop then .error (.looping l) else .ok l
    | .error _ => .ok l

/-- The places below a place, in the order of their texts. -/
def below (fs : FileSystem) (l : Location) : List Location :=
  ((fs.names.filter fun k => l.isPrefixOf k && k ≠ l).map (·.drop l.length)).mergeSort
    fun a b => "/".intercalate a ≤ "/".intercalate b

end FileSystem

end QueryDesk.Storage
