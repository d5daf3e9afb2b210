import QueryDesk.Text.CodeSet

/-!
# Blanks and words between them

The characters that separate words, and the operations that rest on them
alone: telling whether a text is blank, taking its blanks off at either end,
and cutting it into the words that the blanks separate.
-/

namespace QueryDesk.Text

/-- The code points of the separating characters: the controls that move the
print position, the four information separators, and the spaces and line ends
of the wider character set. -/
def blankCodes : CodeSet := [
  (0x9, 0xD), (0x1C, 0x20), (0x85, 0x85), (0xA0, 0xA0), (0x1680, 0x1680),
  (0x2000, 0x200A), (0x2028, 0x2029), (0x202F, 0x202F), (0x205F, 0x205F),
  (0x3000, 0x3000)]

/-- Whether a character separates words. -/
def isBlank (c : Char) : Bool := blankCodes.contains c.toNat

/-- The longest tail of `cs` on which `p` holds throughout. -/
def suffixWhile (p : Char → Bool) (cs : List Char) : List Char := (cs.reverse.takeWhile p).reverse

/-- What is left of `cs` when its longest tail with `p` is taken off. -/
def dropSuffixWhile (p : Char → Bool) (cs : List Char) : List Char :=
  (cs.reverse.dropWhile p).reverse

/-- The longest tail with `p`, put back behind the rest, gives the whole. -/
theorem dropSuffixWhile_append_suffixWhile (p : Char → Bool) (cs : List Char) :
    dropSuffixWhile p cs ++ suffixWhile p cs = cs := by
  rw [dropSuffixWhile, suffixWhile, ← List.reverse_append, List.takeWhile_append_dropWhile,
    List.reverse_reverse]

/-- The text without the blanks at its two ends. -/
def trimmed (cs : List Char) : List Char := dropSuffixWhile isBlank (cs.dropWhile isBlank)

/-- Whether a text has nothing but blanks. -/
def allBlank (cs : List Char) : Bool := cs.all isBlank

/-- The words of a text: its longest runs of other characters than blanks, in order. -/
def words : List Char → List (List Char)
  | [] => []
  | c :: cs =>
    if isBlank c then words cs
    else (c :: cs.takeWhile (!isBlank ·)) :: words (cs.dropWhile (!isBlank ·))
termination_by cs => cs.length
decreasing_by
  · simp
  · have := (List.dropWhile_sublist (l := cs) (!isBlank ·)).length_le
    simp only [List.length_cons]; omega

/-- A string without the blanks at its two ends. -/
def strip (s : String) : String := String.ofList (trimmed s.toList)

/-- Whether a string has nothing but blanks; the empty string counts. -/
def isBlankText (s : String) : Bool := allBlank s.toList

end QueryDesk.Text
