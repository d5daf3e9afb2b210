import Mathlib.Data.String.Basic
import QueryDesk.Statement.Rows

/-!
# Reading a text token by token

The phrases of several words are written with blanks between the words, and cut at
the blanks when they are looked for.  `String.splitOn` goes over positions in a string
and stops for a reason that does not compute.  Here it is the cut of a list of
characters, which does.  With it the token at the front of a given text is found by
computation, and a text is read by taking its tokens off one after another.

## Main results

* `splitOn_space` — cutting a text at blanks is cutting the list of its characters.
* `phrasesLength?_eq` — looking for phrases, in a form that computes.
* `ReadAs.tokensAfter_eq` — the tokens of a text, from what stands at its front.
-/

namespace QueryDesk.Statement

open String

/-! ## Cutting at blanks -/

/-- What cutting has done when it stands behind `l` and `m`, where `m` is the word that
it is in. -/
theorem splitOnAux_space (l m r : List Char) (acc : List String) :
    splitOnAux (ofList (l ++ m ++ r)) " " ⟨utf8Len l⟩ ⟨utf8Len l + utf8Len m⟩ 0 acc =
      acc.reverse ++ (List.splitOnPPrepend (· == ' ') r m.reverse).map ofList := by
  have hspace : Pos.Raw.get " " 0 = ' ' := by decide
  have hlast : Pos.Raw.next " " 0 = ⟨1⟩ := by decide
  have hend : Pos.Raw.atEnd " " ⟨1⟩ = true := by decide
  induction r generalizing l m acc with
  | nil =>
      have hatEnd : Pos.Raw.atEnd (ofList (l ++ m ++ [])) ⟨utf8Len l + utf8Len m⟩ = true := by
        simp only [atEnd_iff, rawEndPos_ofList, utf8Len_append, utf8Len_nil, Nat.add_zero,
          Pos.Raw.mk_le_mk, Nat.le_refl]
      rw [splitOnAux, if_pos hatEnd]
      simp only [List.reverse_cons, extract_of_valid l m []]
      simp
  | cons c r ih =>
      have hget : Pos.Raw.get (ofList (l ++ m ++ c :: r)) ⟨utf8Len l + utf8Len m⟩ = c := by
        simpa [-ofList_append] using get_of_valid (l ++ m) (c :: r)
      have hnext : Pos.Raw.next (ofList (l ++ m ++ c :: r)) ⟨utf8Len l + utf8Len m⟩ =
          ⟨utf8Len l + utf8Len m + c.utf8Size⟩ := by
        simpa [-ofList_append] using next_of_valid (l ++ m) c r
      have hatEnd : ¬ Pos.Raw.atEnd (ofList (l ++ m ++ c :: r)) ⟨utf8Len l + utf8Len m⟩ = true := by
        have hpos := Char.utf8Size_pos c
        simp only [atEnd_iff, rawEndPos_ofList, utf8Len_append, utf8Len_cons, Pos.Raw.mk_le_mk]
        omega
      rw [splitOnAux, if_neg hatEnd, hget, hspace]
      by_cases hc : c = ' '
      · -- The word ends here, and the next one begins behind the blank.
        subst hc
        have hlater := ih (l ++ m ++ [' ']) [] (ofList m :: acc)
        have htext : l ++ m ++ [' '] ++ [] ++ r = l ++ m ++ ' ' :: r := by simp
        have hplace : utf8Len (l ++ m ++ [' ']) = utf8Len l + utf8Len m + (' ' : Char).utf8Size := by
          simp [Nat.add_assoc]
        have hback : Pos.Raw.unoffsetBy ⟨utf8Len l + utf8Len m + (' ' : Char).utf8Size⟩ ⟨1⟩ =
            ⟨utf8Len l + utf8Len m⟩ := rfl
        rw [htext, hplace, utf8Len_nil, Nat.add_zero] at hlater
        simp only [beq_self_eq_true, if_true, hlast, hend]
        rw [hnext, hback, extract_of_valid l m (' ' :: r), hlater]
        simp [List.splitOnPPrepend_cons_eq_if]
      · have hlater := ih l (m ++ [c]) acc
        have htext : l ++ (m ++ [c]) ++ r = l ++ m ++ c :: r := by simp
        have hplace : utf8Len l + utf8Len (m ++ [c]) = utf8Len l + utf8Len m + c.utf8Size := by
          simp [Nat.add_assoc]
        have hstay : Pos.Raw.unoffsetBy ⟨utf8Len l + utf8Len m⟩ 0 = ⟨utf8Len l + utf8Len m⟩ := rfl
        have hne : (c == ' ') = false := by simpa using hc
        rw [htext, hplace] at hlater
        simp only [hne, Bool.false_eq_true, if_false]
        rw [hstay, hnext, hlater]
        simp [List.splitOnPPrepend_cons_eq_if, hc]

/-- **Cutting a text at blanks** is cutting the list of its characters. -/
theorem splitOn_space (s : String) :
    s.splitOn " " = (s.toList.splitOnP (· == ' ')).map ofList := by
  have haux := splitOnAux_space [] [] s.toList []
  rw [List.append_nil, List.nil_append, ofList_toList] at haux
  exact haux

/-! ## Tokens -/

/-- Looking for phrases, in a form that computes. -/
theorem phrasesLength?_eq (phrases : List String) (cs : List Char) :
    phrasesLength? phrases cs =
      phrases.findSome? fun p =>
        phraseLength? ((p.toList.splitOnP (· == ' ')).map ofList) cs := by
  simp only [phrasesLength?, splitOn_space]

/-- The first token of a text, and the tokens of the rest. -/
theorem tokensAfter_cons {before : Option Char} {c : Char} {cs : List Char} {kind : TokenKind}
    {n : Nat} (h : front before (c :: cs) = (kind, n)) :
    tokensAfter before (c :: cs) =
      ⟨kind, c :: cs.take (n - 1)⟩ ::
        tokensAfter (some ((cs.take (n - 1)).getLast?.getD c)) (cs.drop (n - 1)) := by
  rw [tokensAfter, h]

/-- Tokens that a text consists of, each of them the one at the front of what those before
it have left. -/
def ReadAs (before : Option Char) (cs : List Char) : List Token → Prop
  | [] => cs = []
  | t :: ts =>
    t.text ≠ [] ∧ cs.take t.text.length = t.text ∧ front before cs = (t.kind, t.text.length) ∧
      ReadAs t.text.getLast? (cs.drop t.text.length) ts

/-- **Such tokens are the tokens of the text.** -/
theorem ReadAs.tokensAfter_eq {before : Option Char} {cs : List Char} {ts : List Token}
    (h : ReadAs before cs ts) : tokensAfter before cs = ts := by
  induction ts generalizing before cs with
  | nil =>
      obtain rfl : cs = [] := h
      rw [tokensAfter]
  | cons t ts ih =>
      obtain ⟨hne, htext, hfront, hrest⟩ := h
      obtain ⟨kind, text⟩ := t
      cases text with
      | nil => exact absurd rfl hne
      | cons c text =>
          cases cs with
          | nil => cases htext
          | cons c' cs =>
              obtain ⟨rfl, htake⟩ := List.cons.inj htext
              have hlast : some ((cs.take text.length).getLast?.getD c') =
                  (c' :: text).getLast? := by
                rw [htake, List.getLast?_cons]
              have hnext := ih hrest
              rw [List.length_cons, List.drop_succ_cons] at hnext
              rw [tokensAfter_cons hfront, List.length_cons, Nat.add_sub_cancel, hlast, htake, hnext]

end QueryDesk.Statement
