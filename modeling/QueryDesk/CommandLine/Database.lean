/-!
# The database on the command line

The path of a database may stand before any command. It is taken out of the
arguments before they are read, because it would be read as a command there.
-/

namespace QueryDesk.CommandLine

/-- The commands. -/
def commandNames : List String := ["query", "complete"]

/-- The flags that the next argument belongs to. -/
def valueFlags : List String := ["--settings", "--log-level"]

/-- Whether an argument is a flag. -/
def isFlag (arg : String) : Bool := arg.toList.head? = some '-'

/-- Takes the first argument that is neither a flag, nor the value of one, nor
a command out. From a command on nothing is touched. -/
def takeDatabase (found : Option String) : List String → Option String × List String
  | [] => (found, [])
  | arg :: rest =>
    if isFlag arg then
      match valueFlags.contains arg, rest with
      | true, value :: rest =>
        let (found, rest) := takeDatabase found rest
        (found, arg :: value :: rest)
      | _, rest =>
        let (found, rest) := takeDatabase found rest
        (found, arg :: rest)
    else if commandNames.contains arg then (found, arg :: rest)
    else
      match found with
      | none => takeDatabase (some arg) rest
      | some _ =>
        let (found, rest) := takeDatabase found rest
        (found, arg :: rest)

/-- The database of a command line that starts with the program's name, and
the command line without it. -/
def splitDatabase : List String → Option String × List String
  | [] => (none, [])
  | program :: args =>
    let (database, rest) := takeDatabase none args
    (database, program :: rest)

end QueryDesk.CommandLine
