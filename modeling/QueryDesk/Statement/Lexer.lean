import QueryDesk.Statement.Scan
import QueryDesk.Statement.Vocabulary

/-!
# The tokens of a text

A tolerant reading of a text in any dialect of the language: every character
belongs to a token, and a character that begins nothing is a token of its own.
The rules are tried in a fixed order, and the first one that applies wins.

## Main results

* `tokens_flatMap_text` — the texts of the tokens, put together, are the text.
-/

namespace QueryDesk.Statement

open Text

/-- A rule by its own length. -/
def whole (kind : TokenKind) (length : Option Nat) : Option (TokenKind × Nat) :=
  length.map (kind, ·)

/-- The comments. -/
def comment? : List Char → Option (TokenKind × Nat)
  | '-' :: '-' :: '+' :: cs => some (.lineHint, 3 + lineLength cs)
  | '#' :: ' ' :: '+' :: cs => some (.lineHint, 3 + lineLength cs)
  | '-' :: '-' :: cs => some (.lineComment, 2 + lineLength cs)
  | '#' :: ' ' :: cs => some (.lineComment, 2 + lineLength cs)
  | '/' :: '*' :: '+' :: cs =>
    match lengthThrough? ['*', '/'] cs with
    | some n => some (.blockHint, 3 + n)
    | none => whole .blockComment ((lengthThrough? ['*', '/'] ('+' :: cs)).map (2 + ·))
  | '/' :: '*' :: cs => whole .blockComment ((lengthThrough? ['*', '/'] cs).map (2 + ·))
  | _ => none

/-- The blanks and the ends of lines. -/
def gap? : List Char → Option (TokenKind × Nat)
  | '\r' :: '\n' :: _ => some (.lineEnd, 2)
  | c :: _ =>
    if c = '\r' || c = '\n' then some (.lineEnd, 1)
    else if isBlank c then some (.blank, 1)
    else none
  | [] => none

/-- The marks that come before all words. -/
def mark? : List Char → Option (TokenKind × Nat)
  | ':' :: '=' :: _ => some (.assignment, 2)
  | ':' :: ':' :: _ => some (.punctuation, 2)
  | '*' :: _ => some (.star, 1)
  | _ => none

/-- The quoted names, the tagged texts, the placeholders and the commands. -/
def sign? (before : Option Char) (cs : List Char) : Option (TokenKind × Nat) :=
  whole .name (quotedLength? '\x60' false cs)
    <|> whole .name (quotedLength? '´' false cs)
    <|> whole .tagged (taggedLength? before cs)
    <|> whole .placeholder (if cs.head? = some '?' then some 1 else none)
    <|> whole .placeholder (percentLength? cs)
    <|> whole .placeholder (namedLength? before cs)
    <|> match cs with
      | '\\' :: rest => whole .command ((run? isWord rest).map (1 + ·))
      | _ => none

/-- The words that are keywords or names because of what stands around them. -/
def placedWord? (before : Option Char) (cs : List Char) : Option (TokenKind × Nat) :=
  whole .keyword (phrasesLength? ["case", "in", "values", "using", "from", "as"] cs)
    <|> whole .name (sigilLength? cs)
    <|> whole .name (qualifierLength? cs)
    <|> whole .name (if before = some '.' then nameLength? cs else none)
    <|> whole .name (calledLength? cs)

/-- The numbers and the quoted texts. -/
def literal? (before : Option Char) (cs : List Char) : Option (TokenKind × Nat) :=
  whole .hexadecimal (hexadecimalLength? cs)
    <|> whole .real (scientificLength? cs)
    <|> whole .real (realLength? cs)
    <|> whole .integer (integerLength? cs)
    <|> whole .text (quotedLength? '\'' true cs)
    <|> whole .symbol (quotedLength? '"' true cs)
    <|> whole .name (bracketedLength? before cs)

/-- The keywords of one word or several that no name can be. -/
def phrases : List (TokenKind × List String) := [
  (.keyword, [
    "left inner join", "left outer join", "left straight join", "left join", "right inner join",
    "right outer join", "right straight join", "right join", "full inner join", "full outer join",
    "full straight join", "full join", "inner join", "outer join", "straight join", "cross join",
    "natural join", "join", "if not exists", "if exists",
    "end if", "end loop", "end while", "end for", "end case", "end", "not null"]),
  (.order, [
    "asc nulls first", "asc nulls last", "asc", "desc nulls first", "desc nulls last", "desc",
    "nulls first", "nulls last"]),
  (.keyword, ["union all"]),
  (.definition, ["create or replace", "create"]),
  (.type, ["double precision"]),
  (.keyword, ["group by", "order by", "primary key", "handler for"])]

/-- The first letters of phrases. -/
def beginsPhrase (c : Char) : Bool :=
  "acdefghijlnoprsuw".toList.any (foldsTo c)

/-- The phrases of words. -/
def phrase? (cs : List Char) : Option (TokenKind × Nat) :=
  if !cs.head?.any beginsPhrase then none
  else
    phrases.findSome? (fun (kind, ps) => whole kind (phrasesLength? ps cs))
      <|> whole .keyword (batchLength? cs)
      <|> whole .keyword (phrasesLength? ["lateral view explode", "lateral view inline",
        "lateral view parse_url_tuple", "lateral view posexplode", "lateral view stack"] cs)
      <|> whole .zone (zoneLength? cs)
      <|> whole .comparison (phrasesLength? ["not like", "not ilike", "not rlike", "like", "ilike",
        "rlike", "not regexp binary", "not regexp", "regexp binary", "regexp"] cs)

/-- The other words, each of the kind that the vocabulary gives it. -/
def word? (cs : List Char) : Option (TokenKind × Nat) :=
  (anyWordLength? cs).map fun n => (wordKind (upper (String.ofList (cs.take n))), n)

/-- Whether a character is a mark of its own. -/
def isPunctuation (c : Char) : Bool := [';', ':', '(', ')', '[', ']', ',', '.'].contains c
/-- Whether a character stands in comparisons. -/
def isComparison (c : Char) : Bool := ['<', '>', '=', '~', '!'].contains c
/-- Whether a character stands in other operators. -/
def isOperator (c : Char) : Bool := ['+', '/', '@', '#', '%', '^', '&', '|', '-'].contains c

/-- The marks and operators. -/
def operator? : List Char → Option (TokenKind × Nat)
  | '-' :: '>' :: '>' :: _ => some (.operator, 3)
  | '#' :: '>' :: '>' :: _ => some (.operator, 3)
  | '-' :: '>' :: _ => some (.operator, 2)
  | '#' :: '>' :: _ => some (.operator, 2)
  | '@' :: '>' :: _ => some (.operator, 2)
  | '<' :: '@' :: _ => some (.operator, 2)
  | '#' :: '-' :: _ => some (.operator, 2)
  | '-' :: _ => some (.operator, 1)
  | c :: cs =>
    if isPunctuation c then some (.punctuation, 1)
    else if isComparison c then some (.comparison, 1 + run isComparison cs)
    else if isOperator c then some (.operator, 1 + run isOperator cs)
    else none
  | [] => none

/-- The kind and the length of the token at the front of a text. -/
def front (before : Option Char) (cs : List Char) : TokenKind × Nat :=
  (comment? cs <|> gap? cs <|> mark? cs <|> sign? before cs <|> placedWord? before cs
    <|> literal? before cs <|> phrase? cs <|> word? cs <|> operator? cs).getD (.other, 1)

/-- The tokens of a text that follows the character `before`. -/
def tokensAfter (before : Option Char) : List Char → List Token
  | [] => []
  | c :: cs =>
    let (kind, n) := front before (c :: cs)
    let rest := cs.take (n - 1)
    ⟨kind, c :: rest⟩ :: tokensAfter (some (rest.getLast?.getD c)) (cs.drop (n - 1))
termination_by cs => cs.length
decreasing_by simp only [List.length_drop, List.length_cons]; omega

/-- The tokens of a text. -/
def tokens (cs : List Char) : List Token := tokensAfter none cs

/-- The texts of the tokens, put together, are the text. -/
theorem tokens_flatMap_text (before : Option Char) (cs : List Char) :
    (tokensAfter before cs).flatMap (·.text) = cs := by
  fun_induction tokensAfter before cs with
  | case1 => rfl
  | case2 before c cs kind n h rest ih =>
    rw [List.flatMap_cons, ih]
    simp [rest, List.take_append_drop]

end QueryDesk.Statement
