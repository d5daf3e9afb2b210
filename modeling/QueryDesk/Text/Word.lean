import QueryDesk.Text.Word.Table
import QueryDesk.Text.Blank

/-!
# Word characters

A word character is a letter, a number or the underscore. No blank is one,
so a run of word characters never crosses a blank; `isWord_eq_false_of_isBlank`
says so for the whole character set.
-/

namespace QueryDesk.Text

/-- Whether a character is a letter or a number of any script. -/
def isAlphanumeric (c : Char) : Bool := alphanumericCodes.contains c.toNat

/-- Whether a character may stand in a word. -/
def isWord (c : Char) : Bool := c = '_' || isAlphanumeric c

/-- No blank is a word character. -/
theorem isWord_eq_false_of_isBlank {c : Char} (h : isBlank c = true) : isWord c = false := by
  have hall : ∀ n ∈ blankCodes.codes, n ≠ 0x5F ∧ alphanumericCodes.contains n = false := by
    decide +kernel
  have hc := hall c.toNat (CodeSet.mem_codes_of_contains h)
  have hne : c ≠ '_' := fun e => hc.1 (by rw [e]; rfl)
  simp [isWord, isAlphanumeric, hne, hc.2]

/-- No word character is a blank. -/
theorem isBlank_eq_false_of_isWord {c : Char} (h : isWord c = true) : isBlank c = false := by
  cases hb : isBlank c with
  | false => rfl
  | true => rw [isWord_eq_false_of_isBlank hb] at h; exact absurd h (by decide)

/-- The value of a decimal digit of any script. -/
def decimalDigit? (c : Char) : Option Nat :=
  (decimalZeros.find? fun z => z ≤ c.toNat && c.toNat < z + 10).map (c.toNat - ·)

/-- The columns of the word that ends at `column` of a line: its start and its
end. A column at or before the start of the line has the empty word, a column
beyond the end of the line has none. -/
def wordRange? (line : List Char) (column : Int) : Option (Int × Int) :=
  if column ≤ 0 then some (column, column)
  else if (line.length : Int) < column then none
  else some (column - (suffixWhile isWord (line.take column.toNat)).length, column)

end QueryDesk.Text
