/-!
# Texts between double quotes

A text between double quotes in which a quote is written twice, and the
reading of such a text at the front of another one.

## Main results

* `read?_quote` — what was quoted is read back, and the text after it is left
  alone, unless it starts with a quote.
-/

namespace QueryDesk.Text.Quoted

/-- A text with every quote written twice. -/
def doubled : List Char → List Char
  | [] => []
  | c :: cs => if c = '"' then '"' :: '"' :: doubled cs else c :: doubled cs

theorem doubled_append (cs ds : List Char) : doubled (cs ++ ds) = doubled cs ++ doubled ds := by
  induction cs with
  | nil => rfl
  | cons c cs ih =>
    rw [List.cons_append, doubled, doubled, ih]
    split <;> rfl

/-- A text between quotes. -/
def quote (cs : List Char) : List Char := '"' :: doubled cs ++ ['"']

/-- The rest of a quoted text and what follows its closing quote. -/
def readRest? : List Char → Option (List Char × List Char)
  | [] => none
  | '"' :: '"' :: cs => (readRest? cs).map fun (t, rest) => ('"' :: t, rest)
  | '"' :: cs => some ([], cs)
  | c :: cs => (readRest? cs).map fun (t, rest) => (c :: t, rest)

/-- The quoted text at the front and what follows it. -/
def read? : List Char → Option (List Char × List Char)
  | '"' :: cs => readRest? cs
  | _ => none

theorem readRest?_doubled (cs rest : List Char) (h : rest.head? ≠ some '"') :
    readRest? (doubled cs ++ '"' :: rest) = some (cs, rest) := by
  induction cs with
  | nil =>
    cases rest with
    | nil => rfl
    | cons r rest =>
      have hr : r ≠ '"' := fun e => h (by simp [e])
      simp [doubled, readRest?, hr]
  | cons c cs ih =>
    by_cases hc : c = '"'
    · simp [doubled, hc, readRest?, ih]
    · simp [doubled, hc, readRest?, ih]

/-- What was quoted is read back, and the text after it is left alone. -/
theorem read?_quote (cs rest : List Char) (h : rest.head? ≠ some '"') :
    read? (quote cs ++ rest) = some (cs, rest) := by
  simpa [quote, read?] using readRest?_doubled cs rest h

end QueryDesk.Text.Quoted
