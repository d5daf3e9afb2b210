import Mathlib.Algebra.Group.Nat.Defs
import Mathlib.Data.List.TakeWhile
import QueryDesk.Json.Reader

/-!
# Numbers of documents

A number is written with its decimal digits and perhaps a sign, a fraction and an
exponent.  The reader takes as many digits as it can, and then a fraction and an
exponent if they follow, so a number is read back only where what follows cannot
go on with it: at the end of a document, at a comma or at a line feed.  What the
digits stand for is decided after that, so one lemma about the parts of a number
serves for integers and for numbers with a fraction.

## Main results

* `readNumeral?_text` — the parts of a number are read as they are written.
* `readScalar_text` — and their value is what the reader answers.
* `Numeral.value_ofInt` — an integer has its value, unless it has too many digits.
-/

namespace QueryDesk.Json

/-! ## What ends a value -/

/-- Whether a text may follow a value: it is over, or goes on with a comma or a
line feed. -/
def Closes (cs : List Char) : Prop := ∀ c ∈ cs.head?, c = ',' ∨ c = '\n'

theorem closes_nil : Closes [] := by
  intro c hc
  cases hc

theorem closes_cons {c : Char} {cs : List Char} (h : c = ',' ∨ c = '\n') : Closes (c :: cs) := by
  intro d hd
  obtain rfl : c = d := Option.some.inj hd
  exact h

/-- Whether a text does not go on with a digit. -/
def Stops (cs : List Char) : Prop := ∀ c ∈ cs.head?, c.isDigit = false

theorem stops_cons {c : Char} {cs : List Char} (h : c.isDigit = false) : Stops (c :: cs) := by
  intro d hd
  obtain rfl : c = d := Option.some.inj hd
  exact h

theorem Closes.stops {cs : List Char} (h : Closes cs) : Stops cs := by
  intro c hc
  rcases h c hc with rfl | rfl <;> decide

theorem takeWhile_isDigit_append {ds rest : List Char} (hds : ∀ d ∈ ds, d.isDigit = true)
    (hrest : Stops rest) : (ds ++ rest).takeWhile Char.isDigit = ds := by
  rw [List.takeWhile_append_of_pos hds]
  cases rest with
  | nil => simp
  | cons c rest => rw [List.takeWhile_cons_of_neg (by simp [hrest c rfl]), List.append_nil]

theorem dropWhile_isDigit_append {ds rest : List Char} (hds : ∀ d ∈ ds, d.isDigit = true)
    (hrest : Stops rest) : (ds ++ rest).dropWhile Char.isDigit = rest := by
  rw [List.dropWhile_append_of_pos hds]
  cases rest with
  | nil => simp
  | cons c rest => rw [List.dropWhile_cons_of_neg (by simp [hrest c rfl])]

/-! ## The text of a number -/

/-- The digits behind a point, if there are any. -/
def fractionText : Option (List Char) → List Char
  | none => []
  | some ds => '.' :: ds

/-- An exponent with its sign, if there is one. -/
def exponentText : Option (Bool × List Char) → List Char
  | none => []
  | some (negative, ds) => 'e' :: (if negative then '-' else '+') :: ds

namespace Numeral

/-- The text of a number. -/
def text (n : Numeral) : List Char :=
  (if n.negative then ['-'] else []) ++
    (n.whole ++ (fractionText n.fraction ++ exponentText n.exponent))

/-- Whether the parts of a number are rows of digits, and the first of them has
no leading zero. -/
structure Proper (n : Numeral) : Prop where
  whole : n.whole ≠ [] ∧ ∀ d ∈ n.whole, d.isDigit = true
  leading : n.whole.head? = some '0' → n.whole = ['0']
  fraction : ∀ ds ∈ n.fraction, ds ≠ [] ∧ ∀ d ∈ ds, d.isDigit = true
  exponent : ∀ x ∈ n.exponent, x.2 ≠ [] ∧ ∀ d ∈ x.2, d.isDigit = true

/-- A number begins with a sign or a digit, and goes on with these, points and
marks of exponents. -/
theorem mem_text {n : Numeral} (h : n.Proper) {c : Char} (hc : c ∈ n.text) :
    c.isDigit = true ∨ c = '-' ∨ c = '+' ∨ c = '.' ∨ c = 'e' := by
  simp only [text, List.mem_append] at hc
  rcases hc with hc | hc | hc | hc
  · split at hc
    · exact .inr (.inl (List.mem_singleton.mp hc))
    · cases hc
  · exact .inl (h.whole.2 c hc)
  · cases hfraction : n.fraction with
    | none =>
        rw [hfraction] at hc
        cases hc
    | some ds =>
        rw [hfraction] at hc
        rcases List.mem_cons.mp hc with rfl | hc
        · exact .inr (.inr (.inr (.inl rfl)))
        · exact .inl ((h.fraction ds hfraction).2 c hc)
  · cases hexponent : n.exponent with
    | none =>
        rw [hexponent] at hc
        cases hc
    | some x =>
        obtain ⟨negative, ds⟩ := x
        rw [hexponent] at hc
        rcases List.mem_cons.mp hc with rfl | hc
        · exact .inr (.inr (.inr (.inr rfl)))
        · rcases List.mem_cons.mp hc with rfl | hc
          · cases negative with
            | true => exact .inr (.inl rfl)
            | false => exact .inr (.inr (.inl rfl))
          · exact .inl ((h.exponent _ hexponent).2 c hc)

/-- A number begins with a digit or with the sign in front of one. -/
theorem exists_text_eq_cons {n : Numeral} (h : n.Proper) :
    ∃ c cs, n.text = c :: cs ∧ (c.isDigit = true ∨ c = '-') := by
  obtain ⟨hne, hwhole⟩ := h.whole
  cases hds : n.whole with
  | nil => exact absurd hds hne
  | cons d ds =>
      have hd : d.isDigit = true := hwhole d (by rw [hds]; exact List.mem_cons_self)
      rw [text, hds]
      cases n.negative with
      | true => exact ⟨'-', _, rfl, .inr rfl⟩
      | false => exact ⟨d, _, rfl, .inl hd⟩

/-- The digits behind the point of a number. -/
def behind (n : Numeral) : List Char := n.fraction.getD []

/-- The exponent that is written with a number. -/
def scale (n : Numeral) : Int :=
  match n.exponent with
  | none => 0
  | some (negative, ds) => if negative then -(decimalValue ds : Int) else decimalValue ds

/-- A number with a fraction or an exponent stands for the nearest word. -/
theorem value_of_fraction {n : Numeral} (h : n.fraction ≠ none ∨ n.exponent ≠ none) :
    n.value = .ok (.float (Decimal.Binary64.ofDecimal n.negative
      (decimalValue (n.whole ++ n.behind)) (n.scale - n.behind.length))) := by
  unfold Numeral.value
  split
  · rename_i hfraction hexponent
    exact absurd h (by simp [hfraction, hexponent])
  · rfl

end Numeral

/-! ## Reading the parts -/

theorem stops_exponentText (x : Option (Bool × List Char)) {rest : List Char}
    (hrest : Closes rest) : Stops (exponentText x ++ rest) := by
  cases x with
  | none => exact hrest.stops
  | some x => exact stops_cons (by decide)

theorem stops_fractionText (f : Option (List Char)) (x : Option (Bool × List Char))
    {rest : List Char} (hrest : Closes rest) :
    Stops (fractionText f ++ (exponentText x ++ rest)) := by
  cases f with
  | none => exact stops_exponentText x hrest
  | some ds => exact stops_cons (by decide)

/-- A fraction is read as it is written. -/
theorem readFraction_fractionText {f : Option (List Char)} (x : Option (Bool × List Char))
    (hf : ∀ ds ∈ f, ds ≠ [] ∧ ∀ d ∈ ds, d.isDigit = true) {rest : List Char}
    (hrest : Closes rest) :
    readFraction (fractionText f ++ (exponentText x ++ rest)) = (f, exponentText x ++ rest) := by
  cases f with
  | none =>
      -- An exponent begins with its mark, and nothing that ends a value is a point.
      cases x with
      | none =>
          cases rest with
          | nil => rfl
          | cons c rest => rcases hrest c rfl with rfl | rfl <;> rfl
      | some x => rfl
  | some ds =>
      obtain ⟨hne, hds⟩ := hf ds rfl
      cases ds with
      | nil => exact absurd rfl hne
      | cons d ds =>
          obtain ⟨hd, hds⟩ := List.forall_mem_cons.mp hds
          have hstops := stops_exponentText x hrest
          show readFraction ('.' :: d :: (ds ++ (exponentText x ++ rest))) = _
          rw [readFraction, if_pos hd, takeWhile_isDigit_append hds hstops,
            dropWhile_isDigit_append hds hstops]

/-- An exponent is read as it is written. -/
theorem readExponent_exponentText {x : Option (Bool × List Char)}
    (hx : ∀ y ∈ x, y.2 ≠ [] ∧ ∀ d ∈ y.2, d.isDigit = true) {rest : List Char}
    (hrest : Closes rest) : readExponent (exponentText x ++ rest) = (x, rest) := by
  cases x with
  | none =>
      cases rest with
      | nil => rfl
      | cons c rest => rcases hrest c rfl with rfl | rfl <;> rfl
  | some y =>
      obtain ⟨negative, ds⟩ := y
      obtain ⟨hne, hds⟩ := hx _ rfl
      cases ds with
      | nil => exact absurd rfl hne
      | cons d ds =>
          have htake : (d :: (ds ++ rest)).takeWhile Char.isDigit = d :: ds :=
            takeWhile_isDigit_append hds hrest.stops
          have hdrop : (d :: (ds ++ rest)).dropWhile Char.isDigit = rest :=
            dropWhile_isDigit_append hds hrest.stops
          have hd : d.isDigit = true := hds d List.mem_cons_self
          cases negative with
          | true =>
              show readExponent ('e' :: '-' :: d :: (ds ++ rest)) = _
              simp only [readExponent, hd, htake, hdrop, if_true, decide_true, Bool.true_or]
          | false =>
              show readExponent ('e' :: '+' :: d :: (ds ++ rest)) = _
              simp only [readExponent, hd, htake, hdrop, if_true, decide_true, Bool.true_or]

/-- **The parts of a number are read as they are written.** -/
theorem readNumeral?_text {n : Numeral} (h : n.Proper) {rest : List Char} (hrest : Closes rest) :
    readNumeral? (n.text ++ rest) = some (n, rest) := by
  obtain ⟨negative, whole, fraction, exponent⟩ := n
  obtain ⟨⟨hne, hwhole⟩, hleading, hfraction, hexponent⟩ := h
  have htake : (whole ++ (fractionText fraction ++ (exponentText exponent ++ rest))).takeWhile
      Char.isDigit = whole :=
    takeWhile_isDigit_append hwhole (stops_fractionText fraction exponent hrest)
  cases whole with
  | nil => exact absurd rfl hne
  | cons d ds =>
      -- The sign is off before a digit is looked at, and no digit is a sign.
      have hminus : d ≠ '-' := by
        rintro rfl
        have := hwhole _ List.mem_cons_self
        revert this
        decide
      have hbody : readNumeral? (Numeral.text ⟨negative, d :: ds, fraction, exponent⟩ ++ rest) =
          let body := (d :: ds) ++ (fractionText fraction ++ (exponentText exponent ++ rest))
          let whole := if body.head? = some '0' then ['0'] else body.takeWhile Char.isDigit
          if whole.isEmpty then none
          else
            let fraction := readFraction (body.drop whole.length)
            let exponent := readExponent fraction.2
            some (⟨negative, whole, fraction.1, exponent.1⟩, exponent.2) := by
        cases negative with
        | true => simp [Numeral.text, readNumeral?]
        | false => simp [Numeral.text, readNumeral?, hminus]
      have hdigits : (if ((d :: ds) ++
          (fractionText fraction ++ (exponentText exponent ++ rest))).head? = some '0' then ['0']
          else ((d :: ds) ++ (fractionText fraction ++ (exponentText exponent ++ rest))).takeWhile
            Char.isDigit) = d :: ds := by
        split
        · rename_i hzero
          exact (hleading hzero).symm
        · exact htake
      rw [hbody]
      simp only [hdigits, List.drop_left, readFraction_fractionText exponent hfraction hrest,
        readExponent_exponentText hexponent hrest]
      rfl

/-- No word stands at the front of a digit, or of a sign and a digit. -/
theorem findSome?_wordValues {d : Char} (hd : d.isDigit = true) (negative : Bool)
    (cs : List Char) :
    (wordValues.findSome? fun (w, v) =>
      (afterWord? w ((if negative then ['-'] else []) ++ d :: cs)).map (v, ·)) = none := by
  have hne : d ≠ 'n' ∧ d ≠ 't' ∧ d ≠ 'f' ∧ d ≠ 'N' ∧ d ≠ 'I' ∧ d ≠ '-' := by
    refine ⟨?_, ?_, ?_, ?_, ?_, ?_⟩ <;> (rintro rfl; revert hd; decide)
  obtain ⟨hn, ht, hf, hN, hI, hminus⟩ := hne
  cases negative with
  | true => simp [wordValues, afterWord?, hI.symm]
  | false =>
      simp [wordValues, afterWord?, hn.symm, ht.symm, hf.symm, hN.symm, hI.symm,
        hminus.symm]

/-- **The value of a written number is what the reader answers.** -/
theorem readScalar_text {n : Numeral} (h : n.Proper) {rest : List Char} (hrest : Closes rest) :
    readScalar (n.text ++ rest) = n.value.map (·, rest) := by
  have hwords : (wordValues.findSome? fun (w, v) =>
      (afterWord? w (n.text ++ rest)).map (v, ·)) = none := by
    obtain ⟨hne, hwhole⟩ := h.whole
    cases hds : n.whole with
    | nil => exact absurd hds hne
    | cons d ds =>
        have hd : d.isDigit = true := hwhole d (by rw [hds]; exact List.mem_cons_self)
        rw [Numeral.text, hds, List.append_assoc]
        exact findSome?_wordValues hd _ _
  rw [readScalar, hwords]
  simp only [readNumeral?_text h hrest]

/-! ## Decimal digits -/

theorem decimalValue_toDigits (n : Nat) : decimalValue (Nat.toDigits 10 n) = n :=
  Nat.ofDigitChars_ten_toDigits

theorem isDigit_of_mem_toDigits {n : Nat} {d : Char} (hd : d ∈ Nat.toDigits 10 n) :
    d.isDigit = true :=
  Nat.isDigit_of_mem_toDigits (by decide) (by decide) hd

/-- A number that is written with a leading zero is zero. -/
theorem toDigits_of_head_zero {n : Nat} (h : (Nat.toDigits 10 n).head? = some '0') : n = 0 := by
  induction n using Nat.strong_induction_on with
  | h n ih =>
      by_cases hn : n < 10
      · rw [Nat.toDigits_of_lt_base hn] at h
        have hall : ∀ d, d < 10 → Nat.digitChar d = '0' → d = 0 := by decide
        exact hall n hn (Option.some.inj h)
      · have hhead : (Nat.toDigits 10 (n / 10)).head? = some '0' := by
          rw [Nat.toDigits_of_base_le (by decide) (by omega)] at h
          cases hds : Nat.toDigits 10 (n / 10) with
          | nil => exact absurd hds Nat.toDigits_ne_nil
          | cons d ds =>
              rw [hds] at h
              exact h
        have := ih (n / 10) (by omega) hhead
        omega

/-! ## Integers -/

/-- The text of an integer: a sign if it is negative, and its digits. -/
theorem toList_toString_int (n : Int) :
    (toString n).toList = (if n < 0 then ['-'] else []) ++ Nat.toDigits 10 n.natAbs := by
  rw [Int.toString_eq_repr, Int.repr_eq_if]
  by_cases hn : 0 ≤ n
  · have hneg : ¬ n < 0 := by omega
    have habs : n.toNat = n.natAbs := by omega
    rw [if_pos hn, if_neg hneg, Nat.toList_repr, habs, List.nil_append]
  · have hneg : n < 0 := by omega
    have habs : (-n).toNat = n.natAbs := by omega
    rw [if_neg hn, if_pos hneg, String.toList_append, Nat.toList_repr, habs]
    rfl

/-- A sign and digits. -/
def Numeral.ofInt (n : Int) : Numeral :=
  ⟨decide (n < 0), Nat.toDigits 10 n.natAbs, none, none⟩

theorem Numeral.text_ofInt (n : Int) : (ofInt n).text = (toString n).toList := by
  rw [toList_toString_int]
  simp [ofInt, text, fractionText, exponentText]

theorem Numeral.proper_ofInt (n : Int) : (ofInt n).Proper where
  whole := ⟨Nat.toDigits_ne_nil, fun _ hd => isDigit_of_mem_toDigits hd⟩
  leading hzero := by
    show Nat.toDigits 10 n.natAbs = ['0']
    rw [toDigits_of_head_zero hzero, Nat.toDigits_zero]
  fraction ds hds := by cases hds
  exponent x hx := by cases hx

theorem tenPow_eq (k : Nat) : Decimal.tenPow k = 10 ^ k := rfl

theorem Numeral.value_ofInt {n : Int} (hn : n.natAbs < Decimal.tenPow Decimal.digitLimit) :
    (ofInt n).value = .ok (.int n) := by
  rw [tenPow_eq] at hn
  have hlimit : ¬ Decimal.digitLimit < (Nat.toDigits 10 n.natAbs).length := by
    have := (Nat.length_toDigits_le_iff (b := 10) (n := n.natAbs) (by decide)
      (show 0 < Decimal.digitLimit by decide)).mpr hn
    omega
  have hvalue : (if decide (n < 0) then -(n.natAbs : Int) else n.natAbs) = n := by
    by_cases hneg : n < 0
    · simp only [hneg, decide_true, if_true]
      omega
    · simp only [hneg, decide_false]
      show (n.natAbs : Int) = n
      omega
  simp only [ofInt, value, hlimit, if_false, decimalValue_toDigits, hvalue]

end QueryDesk.Json
