import QueryDesk.Decimal.Integer
import QueryDesk.OrderedMap
import QueryDesk.Text.Case
import QueryDesk.Text.Printable

/-!
# Grammars of a command line

A grammar says which flags a command knows and what else it takes. First every
argument is given its shape by its spelling alone: a flag, a word, or the mark
after which everything is a word. Then the arguments are read from the left,
each flag together with its value.

A long flag may be cut short as long as only one flag begins that way. Its value
may follow after an equals sign, and the value of a short flag right behind it.
Where the mark stands in the place of such a value, the flag is given without one.
-/

namespace QueryDesk.CommandLine

/-- What the value of a flag may be. -/
inductive Parameter where
  /-- Any text; the placeholder stands for it in the help. -/
  | text (placeholder : String)
  | integer (placeholder : String)
  /-- One of some names, in upper case if the value is to be raised to it. -/
  | choice (names : List String) (raised : Bool := false)
  deriving DecidableEq, Repr

/-- A value that was read. -/
inductive Argument where
  | text (value : String)
  | integer (value : Int)
  /-- The flag is given without a value. -/
  | blank
  deriving DecidableEq, Repr

namespace Argument

/-- The text of an argument. -/
def text? : Argument → Option String
  | text s => some s
  | _ => none

/-- The integer of an argument. -/
def integer? : Argument → Option Int
  | integer n => some n
  | _ => none

end Argument

/-- A flag. One without a parameter asks for the help. -/
structure Flag where
  /-- The ways to write it. The first one names it. -/
  names : List String
  parameter : Option Parameter
  required : Bool := false
  help : String
  deriving DecidableEq, Repr

/-- What a command takes besides its flags. -/
inductive Operand where
  /-- One word, which is required. -/
  | single (name help : String)
  /-- A command with its help, and everything behind it; it may be left out. -/
  | command (name help : String) (commands : List (String × String))
  deriving DecidableEq, Repr

/-- The grammar of a command. -/
structure Grammar where
  program : String
  flags : List Flag
  operand : Operand
  description : Option String := none
  epilogue : Option String := none
  deriving DecidableEq, Repr

/-- Why a reading ends without a result. -/
inductive Halt where
  /-- The help is asked for. -/
  | help
  /-- The arguments do not follow the grammar. -/
  | misuse (message : String)
  deriving DecidableEq, Repr

/-- The argument behind which all others are words. -/
def mark : String := "--"

/-- Some texts as they are shown, separated by commas. -/
def shownList (names : List String) : String := ", ".intercalate (names.map Text.shown)

/-- What is said of a value that is none of the choices. -/
def notAChoice (value : String) (names : List String) : String :=
  "invalid choice: " ++ Text.shown value ++ " (choose from " ++ shownList names ++ ")"

/-- Reads a value for a parameter, or says what is wrong with it. -/
def Parameter.read (p : Parameter) (value : String) : Except String Argument :=
  match p with
  | text _ => .ok (.text value)
  | integer _ =>
    match Decimal.typedInteger? value with
    | some n => .ok (.integer n)
    | none => .error ("invalid int value: " ++ Text.shown value)
  | choice names raised =>
    let value := if raised then Text.upper value else value
    if names.contains value then .ok (.text value) else .error (notAChoice value names)

namespace Flag

/-- The name of a flag. -/
def name (f : Flag) : String := f.names.headD ""

/-- What is said when something is wrong with a flag. -/
def misuse (f : Flag) (message : String) : Halt :=
  .misuse ("argument " ++ "/".intercalate f.names ++ ": " ++ message)

/-- Reads a value for a flag with a parameter. The mark is no value. -/
def read (f : Flag) (p : Parameter) (value : String) : Except Halt Argument :=
  if value = mark then .ok .blank else (p.read value).mapError f.misuse

/-- What is said when a text is joined to a flag that takes none. -/
def ignores (f : Flag) (text : List Char) : Halt :=
  f.misuse ("ignored explicit argument " ++ Text.shown (String.ofList text))

/-- What is said when no value follows a flag that needs one. -/
def needsValue (f : Flag) : Halt := f.misuse "expected one argument"

end Flag

/-- A flag as an argument writes it. -/
structure FlagUse where
  flag : Flag
  /-- The name that is written, or that is cut short. -/
  name : String
  /-- The text that is joined to it. -/
  joined : Option (List Char)
  deriving DecidableEq, Repr

/-- The shapes of arguments. -/
inductive Shape where
  | word
  /-- The mark behind which all arguments are words. -/
  | mark
  | flag (use : FlagUse)
  /-- An argument that is written like a flag but is none of the grammar. -/
  | unknown
  deriving DecidableEq, Repr

/-- Whether an argument is a negative number without an exponent. -/
def isNegativeNumber (cs : List Char) : Bool :=
  let isDigit (c : Char) : Bool := (Text.decimalDigit? c).isSome
  let cs := if cs.getLast? = some '\n' then cs.dropLast else cs
  match cs with
  | '-' :: cs =>
    match cs.dropWhile isDigit with
    | [] => !cs.isEmpty
    | '.' :: decimals => !decimals.isEmpty && decimals.all isDigit
    | _ => false
  | _ => false

/-- The parts of an argument before and after its first equals sign, if it has one. -/
def splitEquals (cs : List Char) : List Char × Option (List Char) :=
  match cs.dropWhile (· ≠ '=') with
  | _ :: text => (cs.takeWhile (· ≠ '='), some text)
  | [] => (cs, none)

namespace Grammar

/-- All ways to write the flags. -/
def flagNames (g : Grammar) : List (String × Flag) :=
  g.flags.flatMap fun f => f.names.map (·, f)

/-- The flag that is written in one way. -/
def flag? (g : Grammar) (name : List Char) : Option Flag := g.flagNames.lookup (String.ofList name)

/-- The flags that an argument may be a shorter way to write of, or that it
begins with and joins its value to. -/
def candidates (g : Grammar) (cs : List Char) : List FlagUse :=
  g.flagNames.filterMap fun (name, f) =>
    match cs with
    | '-' :: '-' :: _ =>
      let (stem, joined) := splitEquals cs
      if stem.isPrefixOf name.toList then some ⟨f, name, joined⟩ else none
    | _ =>
      if name.toList = cs.take 2 then some ⟨f, name, some (cs.drop 2)⟩
      else if cs.isPrefixOf name.toList then some ⟨f, name, none⟩
      else none

/-- The shape of an argument before the mark. Fails if it cuts several flags short. -/
def shape (g : Grammar) (arg : String) : Except Halt Shape :=
  let cs := arg.toList
  if cs.head? ≠ some '-' then .ok .word
  else
    match g.flag? cs with
    | some f => .ok (.flag ⟨f, arg, none⟩)
    | none =>
      if cs.length = 1 then .ok .word
      else
        let (stem, joined) := splitEquals cs
        match joined, g.flag? stem with
        | some j, some f => .ok (.flag ⟨f, String.ofList stem, some j⟩)
        | _, _ =>
          match g.candidates cs with
          | [use] => .ok (.flag use)
          | [] => .ok (if isNegativeNumber cs || cs.contains ' ' then .word else .unknown)
          | uses => .error (.misuse ("ambiguous option: " ++ arg ++ " could match "
              ++ ", ".intercalate (uses.map (·.name))))

/-- The arguments with their shapes. -/
def shapes (g : Grammar) : List String → Except Halt (List (String × Shape))
  | [] => .ok []
  | arg :: rest =>
    if arg = mark then .ok ((arg, .mark) :: rest.map (·, .word))
    else do pure ((arg, ← g.shape arg) :: (← g.shapes rest))

/-- What becomes of a flag without a parameter that a text is joined to. Short
flags may be written in one argument; the last of them may take a value,
joined as well or in the next argument. -/
def joinedToHelp (g : Grammar) (valueFollows : Bool) (f : Flag) : List Char → Halt
  | [] => f.ignores []
  | c :: cs =>
    match g.flag? ['-', c] with
    | none => f.ignores (c :: cs)
    | some f' =>
      match f'.parameter, cs with
      | some _, [] => if valueFollows then .help else f'.needsValue
      | some _, _ :: _ => .help
      | none, [] => .help
      | none, cs => g.joinedToHelp valueFollows f' cs

/-- What becomes of a flag without a parameter. -/
def readHelp (g : Grammar) (use : FlagUse) (valueFollows : Bool) : Halt :=
  match use.joined with
  | none => .help
  | some text =>
    if use.name.toList.take 2 = ['-', '-'] then use.flag.ignores text
    else g.joinedToHelp valueFollows use.flag text

end Grammar

/-- What has been read. -/
structure Reading where
  /-- The values of the flags, by the names of the flags. -/
  values : OrderedMap String Argument := []
  /-- The operand; after a command, everything behind it too. -/
  operand : List String := []
  /-- The arguments that belong to nothing. -/
  leftover : List String := []
  deriving DecidableEq, Repr

/-- Whether the next argument is a word. -/
def wordFollows : List (String × Shape) → Bool
  | (_, .word) :: _ => true
  | _ => false

namespace Grammar

/-- Takes a command and everything behind it. -/
def takeCommand (name : String) (commands : List (String × String)) (args : List String)
    (r : Reading) : Except Halt Reading :=
  let names := commands.map (·.1)
  let command := args.headD ""
  if names.contains command then .ok { r with operand := args }
  else .error (.misuse ("argument " ++ name ++ ": " ++ notAChoice command names))

/-- Reads arguments from the left. -/
def readShaped (g : Grammar) : List (String × Shape) → Reading → Except Halt Reading
  | [], r => .ok r
  | (_, .flag use) :: rest, r =>
    let f := use.flag
    match f.parameter with
    | none => .error (g.readHelp use (wordFollows rest))
    | some p =>
      match use.joined with
      | some text => do
        let a ← f.read p (String.ofList text)
        g.readShaped rest { r with values := r.values.put f.name a }
      | none =>
        match rest with
        | (value, .word) :: rest => do
          let a ← f.read p value
          g.readShaped rest { r with values := r.values.put f.name a }
        | _ => .error f.needsValue
  | (arg, .unknown) :: rest, r => g.readShaped rest { r with leftover := r.leftover ++ [arg] }
  | (arg, .word) :: rest, r =>
    if !r.operand.isEmpty then g.readShaped rest { r with leftover := r.leftover ++ [arg] }
    else
      match g.operand with
      | .command name _ commands => takeCommand name commands (arg :: rest.map (·.1)) r
      | .single .. =>
        match rest with
        | (_, .mark) :: rest => g.readShaped rest { r with operand := [arg] }
        | rest => g.readShaped rest { r with operand := [arg] }
  | (arg, .mark) :: rest, r =>
    if !r.operand.isEmpty then g.readShaped rest { r with leftover := r.leftover ++ [arg] }
    else
      match g.operand, rest with
      | .command name _ commands, _ :: _ => takeCommand name commands (arg :: rest.map (·.1)) r
      | .single .., (value, _) :: rest => g.readShaped rest { r with operand := [value] }
      | _, [] => .ok { r with leftover := r.leftover ++ [arg] }

/-- The names of what is required and missing. -/
def missing (g : Grammar) (r : Reading) : List String :=
  let operand := match g.operand with
    | .single name _ => if r.operand.isEmpty then [name] else []
    | .command .. => []
  operand ++ ((g.flags.filter fun f => f.required && (r.values.get? f.name).isNone).map
    fun f => "/".intercalate f.names)

/-- Reads the arguments of a command. -/
def read (g : Grammar) (args : List String) : Except Halt Reading := do
  let r ← g.readShaped (← g.shapes args) {}
  match g.missing r with
  | [] => pure r
  | names => .error (.misuse ("the following arguments are required: " ++ ", ".intercalate names))

end Grammar

end QueryDesk.CommandLine
