import QueryDesk.Json.Reader
import QueryDesk.Json.Writer
import QueryDesk.Log
import QueryDesk.Storage.FileSystem
import QueryDesk.Text.Utf8

/-!
# Documents on disk

A document that is an object, kept in a file. Loading answers the empty object
for a file that is absent, unreadable or no such document, and reports all but
the first. Saving writes the whole document to a new file beside the old one
and then puts it in its place, so that the old or the new document is there at
every moment. After a failure the new file is taken away; only an interruption
leaves it beside the old one.
-/

namespace QueryDesk.Storage

/-- A document at a path. -/
structure Document where
  path : Path
  deriving DecidableEq, Repr

/-- The fields of a document. -/
abbrev Fields := OrderedMap String Value

/-- Why loading gives up instead of answering. -/
inductive LoadError where
  /-- The file holds an integer with more digits than are accepted. -/
  | integerTooLong
  /-- The parts of the file lie deeper in each other than is followed. -/
  | tooDeep
  /-- The path cannot be handed to the system. -/
  | path (error : PathError)
  deriving DecidableEq, Repr

/-- Why a document was not saved. -/
inductive SaveError where
  | system (error : SystemError)
  /-- A part of it cannot be written. -/
  | obstacle (obstacle : Json.Obstacle)
  | path (error : PathError)
  /-- A step of it failed for a reason outside of what is followed here. -/
  | failed
  /-- It was interrupted, as a user does it. -/
  | interrupted
  deriving DecidableEq, Repr

/-- The steps of saving at which it can be cut short, before they are done. -/
inductive SaveStep where
  /-- After the directories on some parts of the way are made. -/
  | makeDirectory (count : Nat)
  | makeFile
  /-- After a number of bytes. -/
  | write (count : Nat)
  | setMode
  | replace
  deriving DecidableEq, Repr

/-- The bytes that a cut leaves in the file of a document. -/
def SaveStep.written : SaveStep → Nat
  | .write n => n
  | _ => 0

/-- What cuts a saving short: its step fails, or an interruption comes. Only after a
failure is anything cleaned up. -/
inductive Stop where
  | failure
  | interruption
  deriving DecidableEq, Repr

/-- What a saving that is cut short ends with. -/
def Stop.error : Stop → SaveError
  | .failure => .failed
  | .interruption => .interrupted

/-- Where and how a saving is cut short. -/
structure Cut where
  step : SaveStep
  stop : Stop
  deriving DecidableEq, Repr

/-- A run of saving: every file system that could be seen on the way, in
order, the one at the end, and whether the document is there. -/
structure SaveRun where
  seen : List FileSystem
  final : FileSystem
  outcome : Except SaveError Unit

namespace Document

/-- The part of the program that reports on documents. -/
def logSource : String := "querypad.shared.core.store"

/-- A warning about a document. -/
def warn (text : String) (cause : Option String := none) : Log.Record :=
  ⟨.warning, logSource, text, cause⟩

/-- What the log says when a file cannot be read. -/
def couldNotRead (d : Document) (cause : String) : Log.Record :=
  warn ("Could not read " ++ d.path.text ++ ": ") cause

/-- What the text of a file holds, with the records that this makes. `room` is how
many lists and objects may lie in each other there. -/
def parse (d : Document) (room : Nat) (text : String) :
    Except LoadError (Fields × List Log.Record) :=
  match Json.read room text with
  | .error .integerTooLong => .error .integerTooLong
  | .error .tooDeep => .error .tooDeep
  | .error .malformed =>
    .ok ([], [warn ("Ignoring malformed " ++ d.path.text ++ ": ") "not a document"])
  | .ok (.object fields) => .ok (fields, [])
  | .ok _ => .ok ([], [warn ("Ignoring " ++ d.path.text ++ ": expected a JSON dict")])

/-- The document in its file, with the records that this makes. -/
def load (d : Document) (fs : FileSystem) (s : Surroundings) :
    Except LoadError (Fields × List Log.Record) :=
  if d.path.hasNul then .error (.path .nulCharacter)
  else
    match fs.read s.work d.path with
    | .error .notFound => .ok ([], [])
    | .error e =>
      .ok ([], [d.couldNotRead (e.message d.path)])
    | .ok bytes =>
      match Text.Utf8.decode? bytes with
      | none => .ok ([], [d.couldNotRead "not a text"])
      | some cs => d.parse s.room.read (String.ofList (Text.Utf8.lineFeedsOnly cs))

/-- The access that a saved document allows: its owner alone reads and writes it. -/
def ownerOnly : Nat := 0o600
/-- The access that a directory made for a document allows: that of its owner. -/
def ownerDirectory : Nat := 0o700

/-- A name that no entry of a directory has: longer than any of them. -/
def freshName (fs : FileSystem) (directory : Location) (name : String) : String :=
  let longest := ((fs.below directory).map fun l => (l.headD "").length).foldl max 0
  "." ++ name ++ "." ++ String.ofList (List.replicate (longest + 1) 'x') ++ ".tmp"

/-- The bytes by which the name of the file beside a document is longer. -/
def besideLength : Nat := 14

/-- The end of a run that gets no further after a file was made beside the document:
that file is taken away, but for an interruption, which leaves it there. -/
def giveUp (seen : List FileSystem) (fs : FileSystem) (beside : Location) (e : SaveError) :
    SaveRun :=
  if e = .interrupted then ⟨seen, fs, .error e⟩
  else
    let final := OrderedMap.remove fs beside
    ⟨seen ++ [final], final, .error e⟩

/-- Writes a value into a new file of a directory and gives that file the name.
A value with an obstacle is written up to there, a cut saying how much of it has
reached the file. An interruption can come before the obstacle is met. -/
def fill (room : Nat) (fs : FileSystem) (v : Value) (directory : Location) (name : String)
    (cut : Option Cut) : SaveRun :=
  let beside := directory ++ [freshName fs directory name]
  let bytes := Text.Utf8.encode (Json.text v).toList
  let made := fs.write beside [] ownerOnly
  let part := fs.write beside (bytes.take ((cut.map (·.step.written)).getD 0)) ownerOnly
  let full := fs.write beside bytes ownerOnly
  match cut, Json.obstacle? true room v with
  | some ⟨.write _, .interruption⟩, _ => giveUp [fs, made, part] part beside .interrupted
  | _, some o => giveUp [fs, made, part] part beside (.obstacle o)
  | some ⟨.write _, .failure⟩, none => giveUp [fs, made, part] part beside .failed
  | some ⟨.setMode, stop⟩, none | some ⟨.replace, stop⟩, none =>
    giveUp [fs, made, full] full beside stop.error
  | _, none =>
    match full.replace beside directory name with
    | .error e => giveUp [fs, made, full] full beside (.system e)
    | .ok final => ⟨[fs, made, full, final], final, .ok ()⟩

/-- Saves a value as the document, cut short at a step or not at all. -/
def saveRun (d : Document) (fs : FileSystem) (s : Surroundings) (v : Value)
    (cut : Option Cut) : SaveRun :=
  let making := fs.partWay s.work d.path.parent
  if d.path.hasNul then ⟨[fs], fs, .error (.path .nulCharacter)⟩
  else
    match cut with
    | some ⟨.makeDirectory n, stop⟩ =>
      ⟨fs :: (List.range (n + 1)).map making, making n, .error stop.error⟩
    | cut =>
      let onWay := fs :: (List.range d.path.parent.parts.length).map making
      let (housed, way) := fs.makeDirectories s.work d.path.parent ownerDirectory
      match (do way; housed.directory s.work d.path.parent) with
      | .error e => ⟨onWay ++ [housed], housed, .error (.system e)⟩
      | .ok directory =>
        if let some ⟨.makeFile, stop⟩ := cut then
          ⟨onWay ++ [housed], housed, .error stop.error⟩
        else if nameLimit < d.path.name.utf8ByteSize + besideLength
            || pathLimit < d.path.text.utf8ByteSize + besideLength then
          ⟨onWay ++ [housed], housed, .error (.system .nameTooLong)⟩
        else
          let run := fill s.room.written housed v directory d.path.name cut
          { run with seen := onWay ++ run.seen }

/-- Saves a value as the document. A failure leaves the file that was there,
but directories made for it stay. -/
def save (d : Document) (fs : FileSystem) (s : Surroundings) (v : Value) :
    FileSystem × Except SaveError Unit :=
  let run := d.saveRun fs s v none
  (run.final, run.outcome)

end Document

end QueryDesk.Storage
