import QueryDesk.Json.Reader
import QueryDesk.Json.Writer

/-!
# Strings of documents

A string is written character by character, each on its own, so reading it back
needs one fact about a single character: its escape, whatever follows, gives the
character.  A character beyond sixteen bits is written as two units, and the
reader joins them only because the first is a high half; the units of all other
characters are no halves, since no character is one.

## Main results

* `readUnit?_hexDigits` — four hexadecimal digits give their number.
* `readString_flatMap_escape` — a written string is read back.
* `plain_quoted` — it is written in printable ASCII characters.
-/

namespace QueryDesk.Json

open Text (hexDigits)

/-! ## Hexadecimal digits -/

/-- The last digit of a number, and the others. -/
theorem hexDigits_add_two (width n : Nat) :
    hexDigits (width + 2) n = hexDigits (width + 1) (n / 16) ++ [Nat.digitChar (n % 16)] := by
  by_cases h : n < 16
  · have hdiv : n / 16 = 0 := Nat.div_eq_of_lt h
    have hmod : n % 16 = n := Nat.mod_eq_of_lt h
    simp only [hexDigits, hdiv, hmod, Nat.toDigits_of_lt_base h, Nat.toDigits_zero,
      List.length_singleton]
    show List.replicate (width + 1) '0' ++ _ = List.replicate width '0' ++ ['0'] ++ _
    rw [List.replicate_succ']
  · have hdigits : Nat.toDigits 16 n = Nat.toDigits 16 (n / 16) ++ [Nat.digitChar (n % 16)] :=
      Nat.toDigits_of_base_le (by decide) (by omega)
    have hwidth : width + 2 - ((Nat.toDigits 16 (n / 16)).length + 1) =
        width + 1 - (Nat.toDigits 16 (n / 16)).length := by omega
    simp only [hexDigits, hdigits, List.length_append, List.length_singleton, hwidth,
      List.append_assoc]

theorem hexDigits_one {n : Nat} (h : n < 16) : hexDigits 1 n = [Nat.digitChar n] := by
  simp only [hexDigits, Nat.toDigits_of_lt_base h]
  rfl

theorem hexDigits_four {n : Nat} (h : n < 0x10000) :
    hexDigits 4 n = [Nat.digitChar (n / 16 / 16 / 16), Nat.digitChar (n / 16 / 16 % 16),
      Nat.digitChar (n / 16 % 16), Nat.digitChar (n % 16)] := by
  rw [hexDigits_add_two, hexDigits_add_two, hexDigits_add_two, hexDigits_one (by omega)]
  rfl

theorem hexValue?_digitChar {d : Nat} (h : d < 16) : hexValue? (Nat.digitChar d) = some d := by
  have hall : ∀ d, d < 16 → hexValue? (Nat.digitChar d) = some d := by decide
  exact hall d h

/-- Four hexadecimal digits give their number. -/
theorem readUnit?_hexDigits {n : Nat} (h : n < 0x10000) (cs : List Char) :
    readUnit? (hexDigits 4 n ++ cs) = some (n, cs) := by
  rw [hexDigits_four h]
  simp only [List.cons_append, List.nil_append, readUnit?]
  rw [hexValue?_digitChar (by omega), hexValue?_digitChar (by omega),
    hexValue?_digitChar (by omega), hexValue?_digitChar (by omega)]
  have hn : ((n / 16 / 16 / 16 * 16 + n / 16 / 16 % 16) * 16 + n / 16 % 16) * 16 + n % 16 = n := by
    omega
  simp [hn]

/-! ## One character -/

/-- No character is half of a pair. -/
theorem toNat_not_half (c : Char) : c.toNat < 0xD800 ∨ 0xE000 ≤ c.toNat := by
  rcases c.valid with h | ⟨h, -⟩
  · exact .inl h
  · exact .inr h

theorem toNat_lt (c : Char) : c.toNat < 0x110000 := by
  rcases c.valid with h | ⟨-, h⟩
  · have : c.toNat < 0xD800 := h
    omega
  · exact h

/-- A unit that is no half is the character itself, whatever follows. -/
theorem joinUnit_toNat (c : Char) (cs : List Char) : joinUnit c.toNat cs = (c, cs) := by
  have hhalf := toNat_not_half c
  have hhigh : ¬ (0xD800 ≤ c.toNat ∧ c.toNat < 0xDC00) := by omega
  have hlow : ¬ (0xDC00 ≤ c.toNat ∧ c.toNat < 0xE000) := by omega
  simp only [joinUnit, Bool.and_eq_true, decide_eq_true_eq, hhigh, hlow, if_false,
    Char.ofNat_toNat]

/-- A high half takes the low half that follows. -/
theorem joinUnit_pair {m : Nat} (h : m < 0x100000) (cs : List Char) :
    joinUnit (0xD800 + m / 0x400) ('\\' :: 'u' :: (hexDigits 4 (0xDC00 + m % 0x400) ++ cs)) =
      (Char.ofNat (0x10000 + m), cs) := by
  have hhigh : 0xD800 ≤ 0xD800 + m / 0x400 ∧ 0xD800 + m / 0x400 < 0xDC00 := by omega
  have hlow : 0xDC00 ≤ 0xDC00 + m % 0x400 ∧ 0xDC00 + m % 0x400 < 0xE000 := by omega
  have hjoined : 0x10000 + (0xD800 + m / 0x400 - 0xD800) * 0x400 +
      (0xDC00 + m % 0x400 - 0xDC00) = 0x10000 + m := by omega
  simp only [joinUnit, Bool.and_eq_true, decide_eq_true_eq, hhigh, and_self, if_true,
    readUnit?_hexDigits (show 0xDC00 + m % 0x400 < 0x10000 by omega), hlow, hjoined]

/-- The reader at a backslash. -/
theorem readString_escaped {fuel : Nat} {cs rest : List Char} {c : Char}
    (h : readEscape? cs = some (c, rest)) :
    readString (fuel + 1) ('\\' :: cs) =
      (readString fuel rest).map fun r => (c :: r.1, r.2) := by
  have hquote : ('\\' : Char) ≠ '"' := by decide
  simp only [readString, hquote, if_false, if_true, h, Option.bind_eq_bind, Option.bind_some]
  cases readString fuel rest <;> rfl

theorem unitEscape_append (n : Nat) (cs : List Char) :
    unitEscape n ++ cs = '\\' :: 'u' :: (hexDigits 4 n ++ cs) := rfl

/-- The escape of a unit. -/
theorem readEscape?_unit {n : Nat} {cs rest : List Char} (h : readUnit? cs = some (n, rest)) :
    readEscape? ('u' :: cs) = some (joinUnit n rest) := by
  simp only [readEscape?, h, Option.map_some]

/-- The reader at the two units of a character beyond sixteen bits. -/
theorem readString_escape_pair (fuel : Nat) (c : Char) (hc : ¬ c.toNat < 0x10000)
    (cs : List Char) :
    readString (fuel + 1)
        (unitEscape (0xD800 + (c.toNat - 0x10000) / 0x400) ++
          unitEscape (0xDC00 + (c.toNat - 0x10000) % 0x400) ++ cs) =
      (readString fuel cs).map fun r => (c :: r.1, r.2) := by
  have hlt := toNat_lt c
  have hback : Char.ofNat (0x10000 + (c.toNat - 0x10000)) = c := by
    rw [Nat.add_sub_cancel' (by omega), Char.ofNat_toNat]
  generalize hm : c.toNat - 0x10000 = m at hback ⊢
  rw [List.append_assoc, unitEscape_append, unitEscape_append]
  refine readString_escaped ?_
  rw [readEscape?_unit (readUnit?_hexDigits (by omega) _), joinUnit_pair (by omega), hback]

/-- The reader at the escape of a character, whatever follows. -/
theorem readString_escape (fuel : Nat) (c : Char) (cs : List Char) :
    readString (fuel + 1) (escape c ++ cs) =
      (readString fuel cs).map fun r => (c :: r.1, r.2) := by
  unfold escape
  split
  · subst_vars
    exact readString_escaped rfl
  split
  · subst_vars
    exact readString_escaped rfl
  split
  · subst_vars
    exact readString_escaped rfl
  split
  · subst_vars
    exact readString_escaped rfl
  split
  · subst_vars
    exact readString_escaped rfl
  split
  · subst_vars
    exact readString_escaped rfl
  split
  · subst_vars
    exact readString_escaped rfl
  split
  · -- A printable character stands for itself.
    rename_i hquote hslash _ _ _ _ _ hprintable
    have hlow : ¬ c.toNat < 0x20 := by
      simp only [Bool.and_eq_true, decide_eq_true_eq] at hprintable
      omega
    simp only [List.singleton_append, readString, hquote, hslash, hlow, if_false]
    cases readString fuel cs <;> rfl
  split
  · -- A single unit.
    rename_i hunit
    rw [unitEscape_append]
    refine readString_escaped ?_
    rw [readEscape?_unit (readUnit?_hexDigits hunit cs), joinUnit_toNat]
  · exact readString_escape_pair fuel c ‹_› cs

/-- No escape is empty. -/
theorem length_escape_pos (c : Char) : 0 < (escape c).length := by
  unfold escape
  repeat' split
  all_goals exact Nat.succ_pos _

/-! ## Whole strings -/

/-- A string is at most as long as it is written. -/
theorem length_le_flatMap_escape (cs : List Char) : cs.length ≤ (cs.flatMap escape).length := by
  induction cs with
  | nil => exact Nat.zero_le _
  | cons c cs ih =>
      have hc := length_escape_pos c
      rw [List.flatMap_cons, List.length_append, List.length_cons]
      omega

/-- **A written string is read back**, and what follows its closing quote is left. -/
theorem readString_flatMap_escape (cs rest : List Char) {fuel : Nat} (h : cs.length < fuel) :
    readString fuel (cs.flatMap escape ++ '"' :: rest) = some (cs, rest) := by
  induction cs generalizing fuel with
  | nil =>
      cases fuel with
      | zero => omega
      | succ fuel => simp [readString]
  | cons c cs ih =>
      cases fuel with
      | zero => omega
      | succ fuel =>
          have hrest : cs.length < fuel := by simpa using h
          rw [List.flatMap_cons, List.append_assoc, readString_escape, ih hrest]
          rfl

/-! ## Plain characters -/

/-- Whether a character is a line feed or a printable ASCII character. -/
def isPlain (c : Char) : Bool := c = '\n' || (0x20 ≤ c.toNat && c.toNat ≤ 0x7E)

theorem isPlain_of_isDigit {d : Char} (h : d.isDigit = true) : isPlain d = true := by
  simp only [Char.isDigit, Bool.and_eq_true, decide_eq_true_eq] at h
  obtain ⟨hlow, hhigh⟩ := h
  have hlow' : 48 ≤ d.toNat := hlow
  have hhigh' : d.toNat ≤ 57 := hhigh
  simp only [isPlain, Bool.or_eq_true, Bool.and_eq_true, decide_eq_true_eq]
  omega

theorem isPlain_of_mem_unitEscape {n : Nat} (hn : n < 0x10000) {d : Char}
    (hd : d ∈ unitEscape n) : isPlain d = true := by
  have hdigit : ∀ k, k < 16 → isPlain (Nat.digitChar k) = true := by decide
  simp only [unitEscape, hexDigits_four hn, List.mem_cons, List.not_mem_nil, or_false] at hd
  rcases hd with rfl | rfl | rfl | rfl | rfl | rfl
  · rfl
  · rfl
  · exact hdigit _ (by omega)
  · exact hdigit _ (by omega)
  · exact hdigit _ (by omega)
  · exact hdigit _ (by omega)

theorem isPlain_of_mem_escape {c d : Char} (hd : d ∈ escape c) : isPlain d = true := by
  unfold escape at hd
  split at hd
  · exact List.all_eq_true.mp rfl d hd
  split at hd
  · exact List.all_eq_true.mp rfl d hd
  split at hd
  · exact List.all_eq_true.mp rfl d hd
  split at hd
  · exact List.all_eq_true.mp rfl d hd
  split at hd
  · exact List.all_eq_true.mp rfl d hd
  split at hd
  · exact List.all_eq_true.mp rfl d hd
  split at hd
  · exact List.all_eq_true.mp rfl d hd
  split at hd
  · rename_i hprintable
    obtain rfl := List.mem_singleton.mp hd
    simp only [isPlain, hprintable, Bool.or_true]
  split at hd
  · exact isPlain_of_mem_unitEscape ‹_› hd
  · have hlt := toNat_lt c
    rcases List.mem_append.mp hd with hd | hd
    · exact isPlain_of_mem_unitEscape (by omega) hd
    · exact isPlain_of_mem_unitEscape (by omega) hd

theorem plain_quoted (s : String) : ∀ c ∈ quoted s, isPlain c = true := by
  have hplain : ∀ c ∈ s.toList.flatMap escape, isPlain c = true := by
    intro d hd
    obtain ⟨c, -, hc⟩ := List.mem_flatMap.mp hd
    exact isPlain_of_mem_escape hc
  simp only [quoted, List.forall_mem_append, List.forall_mem_cons]
  exact ⟨⟨rfl, hplain⟩, rfl, by simp⟩

end QueryDesk.Json
