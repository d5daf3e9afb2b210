import QueryDesk.CommandLine.Grammar
import QueryDesk.Text.Blank

/-!
# The help of a command

The help is laid out from the grammar: the usage, then the operand, then the
flags, each with its help in a column of its own.
-/

namespace QueryDesk.CommandLine

/-- The width that the help fills. -/
def helpWidth : Nat := 78

/-- The place where the column of the helps starts at the latest. -/
def helpColumn : Nat := 24

/-- Spaces. -/
def spaces (n : Nat) : String := String.ofList (List.replicate n ' ')

/-- Packs parts into lines. A line holds as many parts as fit behind what is
already on it, and at least one; every line but the first starts anew. -/
def pack (room start : Nat) : List String → List (List String)
  | [] => []
  | part :: parts => go part.length [part] parts
where
  /-- Goes on with a line that is `used` wide. -/
  go (used : Nat) (line : List String) : List String → List (List String)
    | [] => [line]
    | part :: parts =>
      if start + used + 1 + part.length ≤ room then
        go (used + 1 + part.length) (line ++ [part]) parts
      else line :: go part.length [part] parts

namespace Parameter

/-- What stands for the value in the help. -/
def placeholder : Parameter → String
  | text p | integer p => p
  | choice names _ => "\x7b" ++ ",".intercalate names ++ "\x7d"

end Parameter

namespace Flag

/-- A flag with what stands for its value. -/
def withPlaceholder (f : Flag) (name : String) : String :=
  match f.parameter with
  | none => name
  | some p => name ++ " " ++ p.placeholder

/-- All ways to write a flag. -/
def invocation (f : Flag) : String := ", ".intercalate (f.names.map f.withPlaceholder)

/-- The parts of a flag in the usage. They stay together if the flag can be left out. -/
def usageParts (f : Flag) : List String :=
  let whole := f.withPlaceholder f.name
  if f.required then whole.splitOn " " else ["[" ++ whole ++ "]"]

end Flag

/-- The names of the commands, as they stand for a command. -/
def commandPlaceholder (commands : List (String × String)) : String :=
  "\x7b" ++ ",".intercalate (commands.map (·.1)) ++ "\x7d"

/-- An entry of the help. -/
structure HelpEntry where
  indent : Nat
  invocation : String
  help : String

namespace Operand

/-- The parts of the operand in the usage. -/
def usageParts : Operand → List String
  | single name _ => [name]
  | command _ _ commands => [commandPlaceholder commands, "..."]

/-- The entries of the operand. -/
def entries : Operand → List HelpEntry
  | single name help => [⟨2, name, help⟩]
  | command _ help commands =>
    ⟨2, commandPlaceholder commands, help⟩ :: commands.map fun (name, help) => ⟨4, name, help⟩

end Operand

namespace HelpEntry

/-- The lines of an entry. The help starts on a line of its own if the
invocation does not leave two spaces before the column. -/
def lines (column : Nat) (e : HelpEntry) : List String :=
  let opening := spaces e.indent ++ e.invocation
  let help := (pack helpWidth column (e.help.splitOn " ")).map (" ".intercalate ·)
  if opening.length + 2 ≤ column then
    (opening ++ spaces (column - opening.length) ++ help.headD "")
      :: help.tail.map (spaces column ++ ·)
  else opening :: help.map (spaces column ++ ·)

end HelpEntry

namespace Grammar

/-- The usage of a command, with flags before the operand. It is broken into
lines only if it is too wide. -/
def usage (g : Grammar) : String :=
  let flags := g.flags.flatMap (·.usageParts)
  let whole := " ".intercalate ("usage:" :: g.program :: flags ++ g.operand.usageParts)
  if whole.length ≤ helpWidth then whole ++ "\n"
  else
    let margin := ("usage: " ++ g.program ++ " ").length
    let rows := pack helpWidth margin flags ++ pack helpWidth margin g.operand.usageParts
    let texts := rows.map (" ".intercalate ·)
    "usage: " ++ g.program ++ " " ++ ("\n" ++ spaces margin).intercalate texts ++ "\n"

/-- The whole help of a command. -/
def help (g : Grammar) : String :=
  let flags := g.flags.map fun f => (⟨2, f.invocation, f.help⟩ : HelpEntry)
  let entries := g.operand.entries ++ flags
  let widest := (entries.map fun e => e.indent + e.invocation.length).foldl max 0
  let column := min helpColumn (widest + 2)
  let block (title : String) (entries : List HelpEntry) : String :=
    String.join ((("\n" ++ title) :: entries.flatMap (·.lines column)).map (· ++ "\n"))
  let paragraph (text : Option String) : String := (text.map ("\n" ++ · ++ "\n")).getD ""
  g.usage ++ paragraph g.description ++ block "positional arguments:" g.operand.entries
    ++ block "options:" flags ++ paragraph g.epilogue

/-- What is written when the arguments do not follow the grammar. -/
def complaint (g : Grammar) (message : String) : String :=
  g.usage ++ g.program ++ ": error: " ++ message ++ "\n"

end Grammar

end QueryDesk.CommandLine
