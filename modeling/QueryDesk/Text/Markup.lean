/-!
# Marking text up

In marked-up text a word in square brackets is a tag. A text that is to be
shown as it is has a backslash put before each of its brackets that would open
a tag, and its own backslashes there are doubled.
-/

namespace QueryDesk.Text.Markup

/-- Whether a character can begin a tag. -/
def beginsTag (c : Char) : Bool :=
  ('a' ≤ c && c ≤ 'z') || c = '#' || c = '/' || c = '@'

/-- Whether what follows an opening bracket makes it a tag: the bracket is
closed before another one is opened. -/
def isTag : List Char → Bool
  | [] => false
  | c :: cs => beginsTag c && (cs.takeWhile (· ≠ '[')).contains ']'

/-- Some backslashes. -/
def slashes (n : Nat) : List Char := List.replicate n '\\'

/-- Escapes the brackets that would open tags, `n` backslashes having been read
just before. -/
def escapeAfter (n : Nat) : List Char → List Char
  | [] => slashes n
  | c :: cs =>
    if c = '\\' then escapeAfter (n + 1) cs
    else if c = '[' && isTag cs then slashes (2 * n + 1) ++ '[' :: escapeAfter 0 cs
    else slashes n ++ c :: escapeAfter 0 cs

/-- Whether a text ends in one single backslash, which would escape what is put behind it. -/
def endsLoose (cs : List Char) : Bool :=
  match cs.reverse with
  | '\\' :: '\\' :: _ => false
  | '\\' :: _ => true
  | _ => false

/-- A text as it has to be written to be shown as it is. -/
def escape (s : String) : String :=
  let cs := escapeAfter 0 s.toList
  String.ofList (if endsLoose cs then cs ++ ['\\'] else cs)

end QueryDesk.Text.Markup
