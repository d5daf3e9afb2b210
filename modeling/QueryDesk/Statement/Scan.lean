import QueryDesk.Text.Case
import QueryDesk.Text.Word

/-!
# Scanning

How far a thing reaches at the front of a text, for each of the things that
tokens are made of. `none` says that the text does not begin with it. Words are
compared without regard to case.
-/

namespace QueryDesk.Statement

open Text

/-- Whether a character is a decimal digit. -/
def isDecimal (c : Char) : Bool := (decimalDigit? c).isSome

/-- A letter that a name of the older Western character set can start with. -/
def startsName (c : Char) : Bool :=
  let n := c.toNat
  c.isAlpha || (0xC0 ≤ n && n ≤ 0xDC) || (0xE0 ≤ n && n ≤ 0xFC && n ≠ 0xF7)
    || c = 'İ' || c = 'ı' || c = 'ſ' || c = 'K' || c = 'Å'

/-- The number of characters with a property at the front of a text. -/
def run (p : Char → Bool) (cs : List Char) : Nat := (cs.takeWhile p).length

/-- The number of characters with a property at the front of a text, if there are any. -/
def run? (p : Char → Bool) (cs : List Char) : Option Nat :=
  match run p cs with
  | 0 => none
  | n => some n

/-! ## Words -/

/-- The length of a word at the front of a text. -/
def wordLength? : List Char → List Char → Option Nat
  | [], _ => some 0
  | _ :: _, [] => none
  | w :: ws, c :: cs => if foldsTo c w then (wordLength? ws cs).map (· + 1) else none

/-- Whether a word that reaches up to this text ends there. -/
def endsWord (cs : List Char) : Bool := !(cs.head?.any isWord)

/-- The length of some words with blanks between them. The last one must end there. -/
def phraseLength? : List String → List Char → Option Nat
  | [], _ => none
  | [w], cs => do
    let n ← wordLength? w.toList cs
    if endsWord (cs.drop n) then pure n else none
  | w :: ws, cs => do
    let n ← wordLength? w.toList cs
    let blanks ← run? isBlank (cs.drop n)
    let rest ← phraseLength? ws (cs.drop (n + blanks))
    pure (n + blanks + rest)

/-- The length of the first of some phrases, each written in lower case with
single blanks, that a text begins with. -/
def phrasesLength? (phrases : List String) (cs : List Char) : Option Nat :=
  phrases.findSome? fun p => phraseLength? (p.splitOn " ") cs

/-- The length of a name as a name of the older character set begins. -/
def nameLength? : List Char → Option Nat
  | [] => none
  | c :: cs => if startsName c then some (1 + run isWord cs) else none

/-- The length of a name that a point follows, but no number behind it. -/
def qualifierLength? (cs : List Char) : Option Nat := do
  let n ← nameLength? cs
  match (cs.drop n).dropWhile isBlank with
  | '.' :: rest => if rest.head?.any isDecimal then none else pure n
  | _ => none

/-- The length of a name that a parenthesis follows directly. -/
def calledLength? (cs : List Char) : Option Nat := do
  let n ← nameLength? cs
  match cs.drop n with
  | '(' :: _ => pure n
  | _ => none

/-- The length of a word of any kind. Dollar and number signs may stand in it. -/
def anyWordLength? : List Char → Option Nat
  | [] => none
  | c :: cs =>
    if isWord c then some (1 + run (fun d => isWord d || d = '$' || d = '#') cs) else none

/-- The length of a name with a sign before it. -/
def sigilLength? (cs : List Char) : Option Nat :=
  let sigil := match cs with
    | '@' :: _ => 1
    | '#' :: '#' :: _ => 2
    | '#' :: _ => 1
    | _ => 0
  match cs.drop sigil with
  | c :: d :: rest =>
    if sigil ≠ 0 && startsName c && isWord d then some (sigil + 2 + run isWord rest) else none
  | _ => none

/-- The length of a count behind the word that separates batches. -/
def batchLength? (cs : List Char) : Option Nat := do
  let n ← wordLength? ['g', 'o'] cs
  match cs.drop n with
  | c :: rest =>
    if isBlank c then do
      let digits ← run? isDecimal rest
      if endsWord (rest.drop digits) then pure (n + 1 + digits) else none
    else none
  | [] => none

/-! ## Comments and quotes -/

/-- The length of a line comment after its mark, with the end of its line. -/
def lineLength : List Char → Nat
  | [] => 0
  | '\r' :: '\n' :: _ => 2
  | c :: cs => if c = '\n' || c = '\r' then 1 else lineLength cs + 1

/-- The length of a text up to and with the first place where `mark` stands. -/
def lengthThrough? (mark : List Char) : List Char → Option Nat
  | [] => if mark.isEmpty then some 0 else none
  | c :: cs =>
    if mark.isPrefixOf (c :: cs) then some mark.length
    else (lengthThrough? mark cs).map (· + 1)

/-- The length of a quoted text after its opening quote. A quote that is
written twice, or after a backslash where that counts, does not end it; if
nothing else does, the last such quote is taken as the end after all. -/
def closingLength? (quote : Char) (backslash : Bool) : List Char → Option Nat
  | [] => none
  | [c] => if c = quote then some 1 else none
  | c :: d :: cs =>
    if c = quote then
      if d = quote then
        match closingLength? quote backslash cs with
        | some n => some (n + 2)
        | none => some 1
      else some 1
    else if backslash && c = '\\' && d = quote then
      match closingLength? quote backslash cs with
      | some n => some (n + 2)
      | none => some 2
    else (closingLength? quote backslash (d :: cs)).map (· + 1)

/-- The length of a text between quotes. -/
def quotedLength? (quote : Char) (backslash : Bool) : List Char → Option Nat
  | [] => none
  | c :: cs => if c = quote then (closingLength? quote backslash cs).map (· + 1) else none

/-- The length of a text between tags. A tag stands between dollar signs and
may be empty. -/
def taggedLength? (before : Option Char) (cs : List Char) : Option Nat :=
  if before.any fun c => isWord c || c = '"' || c = '$' then none
  else
    match cs with
    | '$' :: rest =>
      let tag := rest.takeWhile isWord
      match rest.drop tag.length with
      | '$' :: more =>
        if tag.head?.all (fun c => startsName c || c = '_') then
          (lengthThrough? ('$' :: tag ++ ['$']) more).map (· + (tag.length + 2))
        else none
      | _ => none
    | _ => none

/-- The length of a name between brackets, which do not stand behind a word or
another bracket. -/
def bracketedLength? (before : Option Char) (cs : List Char) : Option Nat :=
  match cs with
  | '[' :: rest => do
    let n ← run? (fun c => c ≠ '[' && c ≠ ']') rest
    if before.any fun c => isWord c || c = ']' || c = ')' then none
    else if rest[n]? = some ']' then pure (n + 2)
    else none
  | _ => none

/-- The length of a change of the time zone. -/
def zoneLength? (cs : List Char) : Option Nat := do
  let n ← (wordLength? ['a', 't'] cs).or (wordLength? ['w', 'i', 't', 'h', '\''] cs)
  let blanks ← run? isBlank (cs.drop n)
  let words ← phraseLength? ["time", "zone"] (cs.drop (n + blanks))
  let rest := cs.drop (n + blanks + words)
  let blanks' ← run? isBlank rest
  match rest.drop blanks' with
  | '\'' :: inner => do
    let m ← run? (· ≠ '\'') inner
    if inner[m]? = some '\'' then pure (n + blanks + words + blanks' + m + 2) else none
  | _ => none

/-! ## Placeholders -/

/-- The length of a placeholder by a percent sign, with its name in parentheses or without. -/
def percentLength? : List Char → Option Nat
  | '%' :: '(' :: rest => do
    let n ← run? isWord rest
    match rest.drop n with
    | ')' :: s :: _ => if foldsTo s 's' then pure (n + 4) else none
    | _ => none
  | '%' :: s :: _ => if foldsTo s 's' then some 2 else none
  | _ => none

/-- The length of a placeholder by a sign before a word. -/
def namedLength? (before : Option Char) (cs : List Char) : Option Nat :=
  match cs with
  | c :: rest =>
    if (c = '$' || c = ':') && !before.any isWord then (run? isWord rest).map (· + 1) else none
  | [] => none

/-! ## Numbers -/

/-- Whether a number may end before this text. -/
def endsNumber (cs : List Char) : Bool := !cs.head?.any fun c => startsName c || c = '_'

/-- How many of some digits a number takes: all of them, or all but one where it
may not end behind the last. -/
def digitsTaken? (digits : Nat) (rest : List Char) : Option Nat :=
  if endsNumber rest then some digits else if 1 < digits then some (digits - 1) else none

/-- The length of a number with the sign that may stand before it. -/
def signed? (unsigned : List Char → Option Nat) : List Char → Option Nat
  | '-' :: cs => (unsigned cs).map (· + 1)
  | cs => unsigned cs

/-- The length of a number in hexadecimal digits. -/
def hexadecimalLength? : List Char → Option Nat :=
  signed? fun
    | '0' :: x :: cs =>
      if foldsTo x 'x' then
        (run? (fun c => isDecimal c || ('a' ≤ c.toLower && c.toLower ≤ 'f')) cs).map (· + 2)
      else none
    | _ => none

/-- The length of a number with an exponent. -/
def scientificLength? : List Char → Option Nat :=
  signed? fun cs => do
    let whole ← run? isDecimal cs
    let n := match cs.drop whole with
      | '.' :: ds => match run? isDecimal ds with
        | some m => whole + 1 + m
        | none => whole
      | _ => whole
    match cs.drop n with
    | e :: rest =>
      if foldsTo e 'e' then
        let m ← signed? (run? isDecimal) rest
        pure (n + 1 + m)
      else none
    | [] => none

/-- The length of a number with a point. -/
def realLength? : List Char → Option Nat :=
  signed? fun cs =>
    let whole := run isDecimal cs
    match cs.drop whole with
    | '.' :: ds =>
      let digits := run isDecimal ds
      let rest := ds.drop digits
      if digits = 0 then if whole ≠ 0 && endsNumber rest then some (whole + 1) else none
      else if whole = 0 then (digitsTaken? digits rest).map (· + 1)
      else some (whole + 1 + if endsNumber rest then digits else digits - 1)
    | _ => none

/-- The length of a whole number. -/
def integerLength? : List Char → Option Nat :=
  signed? fun cs => do
    let digits ← run? isDecimal cs
    digitsTaken? digits (cs.drop digits)

end QueryDesk.Statement
