import QueryDesk.CommandLine.Program

/-!
# The command line

The thin layer around `CommandLine.Terminal.run`: it reads the files that a
command line can name, hands them over, and writes down what comes back. This
build has no database engine, so every statement is refused by its driver.
-/

namespace QueryDesk.Main

open Storage

/-- What the driver of a build without an engine says. -/
def noEngine : Execution.Failure := .make .operational (some "no database engine in this build")

/-- The driver of a build without an engine. -/
def driver : Sqlite.Driver Unit where
  connect _ s := (.error noEngine, s)
  totalChanges _ _ := 0
  execute _ _ s := (.error noEngine, s)
  fetchMany _ _ s := (.error noEngine, s)
  fetchAll _ s := (.error noEngine, s)
  commit _ s := (.error noEngine, s)
  close _ s := s

/-- The place that a path leads to from the current directory. -/
def placeOf (s : Surroundings) (text : String) : Option Location :=
  match (Path.ofString text).expand s with
  | .ok path => if path.hasNul then none else some (path.lexical s)
  | .error _ => none

/-- Adds the directories on the way to a place, and what is there. -/
def addPlace (fs : FileSystem) (l : Location) (node : Node) : FileSystem :=
  let parents := ((List.range l.length).map (l.take ·)).filter (· ≠ [])
  (parents.foldl (fun fs p => fs.put p FileSystem.plainDirectory) fs).put l node

/-- Reads what is at a place. A place that is there but cannot be read is taken
for a directory. -/
def readPlace (fs : FileSystem) (l : Location) : IO FileSystem := do
  try
    let bytes ← IO.FS.readBinFile (Location.text l)
    pure (addPlace fs l (.file bytes.toList ownerAndOthers))
  catch
    | .noFileOrDirectory .. => pure fs
    | _ => pure (addPlace fs l FileSystem.plainDirectory)
where
  /-- The mode that a file is taken to have. -/
  ownerAndOthers : Nat := 0o644

/-- The places that an invocation may read: the documents of the configuration
directory, and every argument that could be a path. -/
def places (s : Surroundings) (override : Option String) (args : List String) : List Location :=
  [s.config ++ ["settings.json"], s.config ++ ["query_history.json"]]
    ++ (override.toList ++ args).filterMap (placeOf s)

/-- Writes the files that an invocation changed. -/
def writeChanges (before after : FileSystem) : IO Unit := do
  for (l, node) in after do
    if before.get? l ≠ some node then
      match node with
      | .loop => pure ()
      | .directory _ => IO.FS.createDirAll (Location.text l)
      | .file bytes _ =>
        let text := Location.text l
        IO.FS.writeBinFile (text ++ ".tmp") ⟨bytes.toArray⟩
        IO.FS.rename (text ++ ".tmp") text

/-- All that is typed in. -/
def typed : IO String := do
  let bytes ← (← IO.getStdin).readBinToEnd
  pure (String.ofList (Text.Utf8.decodeLossy bytes.toList))

/-- Where the program is called from. -/
def surroundings : IO Surroundings := do
  let parts (text : String) : Location := (Path.ofString text).parts
  let home := parts ((← IO.getEnv "HOME").getD "/")
  let config := match ← IO.getEnv "QUERYPAD_CONFIG_DIR" with
    | none | some "" => home ++ [".querypad"]
    | some d => parts d
  pure { work := parts (← IO.currentDir).toString, home, config }

/-- Runs a command line. -/
def run (args : List String) : IO UInt32 := do
  let s ← surroundings
  let override ← IO.getEnv "QUERYPAD_SETTINGS_PATH"
  let files ← (places s override args).foldlM readPlace
    (addPlace (addPlace [] s.work FileSystem.plainDirectory) s.config FileSystem.plainDirectory)
  let stamp := toString (← IO.monoMsNow)
  let input ← if args.contains "complete" && !args.contains "--sql" then typed else pure ""
  let (answer, t) := CommandLine.Terminal.run
    { files, surroundings := s, settingsPath := override, input, driver := ()
      returnsRows := Statement.returnsRows, layout := Log.Record.line stamp }
    driver ("querypad" :: args)
  writeChanges files t.files
  IO.print t.out
  IO.eprint t.err
  match answer with
  | .ok code => pure code.toUInt32
  | .error f =>
    IO.eprintln f.text
    pure 1

end QueryDesk.Main

/-- The entry point of the program. -/
def main (args : List String) : IO UInt32 := QueryDesk.Main.run args
