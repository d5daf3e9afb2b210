import QueryDesk.Proofs.Decimal.Shortest
import QueryDesk.Proofs.Json.RoundTrip

/-!
# Numbers with a fraction read back

A number with a fraction is written with the digits of its shortest decimal, and
zeros where the point stands outside of them, or with an exponent if it stands too
far away.  However that is, the digits and the exponent that the reader takes from
the text have the value of the shortest decimal, and a value in the interval of a
number is rounded to it.

## Main results

* `Numeral.text_ofScaled` — the parts that the text of a decimal has.
* `Numeral.value_ofScaled` — they have its value.
* `Faithful.float` — every regular word is faithful.
-/

namespace QueryDesk.Json

open Decimal (Scaled Binary64)

/-! ## The value of digits -/

theorem decimalValue_append (as bs : List Char) :
    decimalValue (as ++ bs) = decimalValue as * 10 ^ bs.length + decimalValue bs := by
  have hfold : ∀ n, bs.foldl (fun n d => 10 * n + (d.toNat - 0x30)) n =
      n * 10 ^ bs.length + decimalValue bs := by
    induction bs with
    | nil =>
        intro n
        simp [decimalValue]
    | cons b bs ih =>
        intro n
        rw [List.foldl_cons, ih]
        conv_rhs => rw [decimalValue, List.foldl_cons, ih]
        rw [List.length_cons, Nat.pow_succ]
        ring
  rw [decimalValue, List.foldl_append]
  exact hfold _

theorem decimalValue_zeros (k : Nat) : decimalValue (List.replicate k '0') = 0 := by
  induction k with
  | zero => rfl
  | succ k ih =>
      rw [List.replicate_succ', decimalValue_append, ih]
      rfl

theorem decimalValue_zeros_append (k : Nat) (ds : List Char) :
    decimalValue (List.replicate k '0' ++ ds) = decimalValue ds := by
  rw [decimalValue_append, decimalValue_zeros, Nat.zero_mul, Nat.zero_add]

theorem decimalValue_append_zeros (ds : List Char) (k : Nat) :
    decimalValue (ds ++ List.replicate k '0') = decimalValue ds * 10 ^ k := by
  rw [decimalValue_append, decimalValue_zeros, List.length_replicate, Nat.add_zero]

theorem decimalValue_zero_cons (ds : List Char) : decimalValue ('0' :: ds) = decimalValue ds :=
  decimalValue_zeros_append 1 ds

/-! ## The parts of a decimal -/

/-- The digits of an exponent, at least two of them. -/
def exponentDigits (x : Nat) : List Char :=
  if (Nat.toDigits 10 x).length < 2 then '0' :: Nat.toDigits 10 x else Nat.toDigits 10 x

theorem decimalValue_exponentDigits (x : Nat) : decimalValue (exponentDigits x) = x := by
  unfold exponentDigits
  split
  · rw [decimalValue_zero_cons, decimalValue_toDigits]
  · exact decimalValue_toDigits x

theorem isDigit_of_mem_exponentDigits {x : Nat} {d : Char} (hd : d ∈ exponentDigits x) :
    d.isDigit = true := by
  unfold exponentDigits at hd
  split at hd
  · rcases List.mem_cons.mp hd with rfl | hd
    · decide
    · exact isDigit_of_mem_toDigits hd
  · exact isDigit_of_mem_toDigits hd

theorem exponentDigits_ne_nil (x : Nat) : exponentDigits x ≠ [] := by
  unfold exponentDigits
  split
  · exact List.cons_ne_nil _ _
  · exact Nat.toDigits_ne_nil

namespace Numeral

/-- Where the point of a decimal stands, counted from before its digits. -/
def pointOf (s : Scaled) : Int := (Nat.toDigits 10 s.digits).length + s.exponent

/-- The parts that the text of a decimal has. -/
def ofScaled (negative : Bool) (s : Scaled) : Numeral :=
  let ds := Nat.toDigits 10 s.digits
  if -4 < pointOf s && pointOf s ≤ 16 then
    if pointOf s ≤ 0 then
      ⟨negative, ['0'], some (List.replicate (-pointOf s).toNat '0' ++ ds), none⟩
    else if pointOf s < ds.length then
      ⟨negative, ds.take (pointOf s).toNat, some (ds.drop (pointOf s).toNat), none⟩
    else
      ⟨negative, ds ++ List.replicate (pointOf s - ds.length).toNat '0', some ['0'], none⟩
  else
    ⟨negative, ds.take 1, if ds.length ≤ 1 then none else some (ds.drop 1),
      some (pointOf s - 1 < 0, exponentDigits (pointOf s - 1).natAbs)⟩

variable {s : Scaled}

theorem negative_ofScaled (negative : Bool) (s : Scaled) :
    (ofScaled negative s).negative = negative := by
  unfold ofScaled
  simp only
  split_ifs <;> rfl

/-- **The text of a decimal** has these parts. -/
theorem text_ofScaled (negative : Bool) (s : Scaled) :
    (ofScaled negative s).text = (if negative then ['-'] else []) ++ s.text.toList := by
  have hpoint : ((Nat.toDigits 10 s.digits).length : Int) + s.exponent = pointOf s := rfl
  unfold Scaled.text ofScaled
  simp only [String.toList_ofList, hpoint]
  by_cases hnear : (decide (-4 < pointOf s) && decide (pointOf s ≤ 16)) = true
  · rw [if_pos hnear, if_pos hnear]
    by_cases hbefore : pointOf s ≤ 0
    · rw [if_pos hbefore, if_pos hbefore]
      simp [text, fractionText, exponentText]
    · rw [if_neg hbefore, if_neg hbefore]
      by_cases hinside : pointOf s < (Nat.toDigits 10 s.digits).length
      · rw [if_pos hinside, if_pos hinside]
        simp [text, fractionText, exponentText]
      · rw [if_neg hinside, if_neg hinside]
        simp [text, fractionText, exponentText]
  · rw [if_neg hnear, if_neg hnear]
    by_cases hsingle : (Nat.toDigits 10 s.digits).length ≤ 1
    · rw [if_pos hsingle, if_pos hsingle]
      simp [text, fractionText, exponentText, exponentDigits]
    · rw [if_neg hsingle, if_neg hsingle]
      simp [text, fractionText, exponentText, exponentDigits]

/-- A decimal that is not zero has no leading zero. -/
theorem head?_ne_zero (hs : 0 < s.digits) : (Nat.toDigits 10 s.digits).head? ≠ some '0' := by
  intro hzero
  have := toDigits_of_head_zero hzero
  omega

theorem proper_ofScaled (negative : Bool) (hs : 0 < s.digits) :
    (ofScaled negative s).Proper := by
  have hhead := head?_ne_zero hs
  have hne : Nat.toDigits 10 s.digits ≠ [] := Nat.toDigits_ne_nil
  have hdigits : ∀ d ∈ Nat.toDigits 10 s.digits, d.isDigit = true := fun d hd =>
    isDigit_of_mem_toDigits hd
  have hzeros : ∀ (k : Nat), ∀ d ∈ List.replicate k '0', d.isDigit = true := by
    intro k d hd
    rw [List.eq_of_mem_replicate hd]
    decide
  have hexponent : ∀ (b : Bool) (x : Nat), ∀ y ∈ some (b, exponentDigits x),
      y.2 ≠ [] ∧ ∀ d ∈ y.2, d.isDigit = true := by
    rintro b x y ⟨⟩
    exact ⟨exponentDigits_ne_nil x, fun d hd => isDigit_of_mem_exponentDigits hd⟩
  unfold ofScaled
  simp only
  generalize pointOf s = p
  generalize Nat.toDigits 10 s.digits = ds at hhead hne hdigits ⊢
  -- The digits before a place and those behind it are rows of digits too.
  have hfront : ∀ k : Nat, 0 < k → (ds.take k ≠ [] ∧ ∀ d ∈ ds.take k, d.isDigit = true) ∧
      (ds.take k).head? ≠ some '0' := by
    intro k hk
    refine ⟨⟨?_, fun d hd => hdigits d (List.mem_of_mem_take hd)⟩, ?_⟩
    · intro hnil
      rcases List.take_eq_nil_iff.mp hnil with hzero | hnil
      · omega
      · exact hne hnil
    · rw [List.head?_take, if_neg (by omega)]
      exact hhead
  have hbehind : ∀ k : Nat, k < ds.length →
      ds.drop k ≠ [] ∧ ∀ d ∈ ds.drop k, d.isDigit = true := by
    intro k hk
    refine ⟨?_, fun d hd => hdigits d (List.mem_of_mem_drop hd)⟩
    rw [ne_eq, List.drop_eq_nil_iff]
    omega
  split_ifs with hnear hbefore hinside hsingle
  · refine ⟨⟨List.cons_ne_nil _ _, by simp⟩, fun _ => rfl, ?_, fun x hx => by cases hx⟩
    rintro _ ⟨⟩
    exact ⟨List.append_ne_nil_of_right_ne_nil _ hne,
      List.forall_mem_append.mpr ⟨hzeros _, hdigits⟩⟩
  · obtain ⟨hwhole, hleading⟩ := hfront p.toNat (by omega)
    refine ⟨hwhole, fun hzero => absurd hzero hleading, ?_, fun x hx => by cases hx⟩
    rintro _ ⟨⟩
    exact hbehind _ (by omega)
  · refine ⟨⟨List.append_ne_nil_of_left_ne_nil hne _,
      List.forall_mem_append.mpr ⟨hdigits, hzeros _⟩⟩, ?_, ?_, fun x hx => by cases hx⟩
    · intro hzero
      rw [List.head?_append_of_ne_nil _ hne] at hzero
      exact absurd hzero hhead
    · rintro _ ⟨⟩
      exact ⟨List.cons_ne_nil _ _, List.forall_mem_singleton.mpr rfl⟩
  · obtain ⟨hwhole, hleading⟩ := hfront 1 Nat.one_pos
    exact ⟨hwhole, fun hzero => absurd hzero hleading, (fun ds hds => by cases hds),
      hexponent _ _⟩
  · obtain ⟨hwhole, hleading⟩ := hfront 1 Nat.one_pos
    refine ⟨hwhole, fun hzero => absurd hzero hleading, ?_, hexponent _ _⟩
    rintro _ ⟨⟩
    exact hbehind 1 (by omega)

theorem fraction_or_exponent_ofScaled (negative : Bool) (s : Scaled) :
    (ofScaled negative s).fraction ≠ none ∨ (ofScaled negative s).exponent ≠ none := by
  unfold ofScaled
  simp only
  split_ifs <;> simp

/-- **The parts of a decimal have its value.** -/
theorem value_ofScaled (negative : Bool) (s : Scaled) :
    let n := ofScaled negative s
    (decimalValue (n.whole ++ n.behind) * 10 ^ (n.scale - n.behind.length) : ℚ) = s.value := by
  intro n
  have hpoint : pointOf s = (Nat.toDigits 10 s.digits).length + s.exponent := rfl
  have hlength : 0 < (Nat.toDigits 10 s.digits).length :=
    List.length_pos_iff.mpr Nat.toDigits_ne_nil
  have hdigits := decimalValue_toDigits s.digits
  have hscale : (if decide (pointOf s - 1 < 0) then -((pointOf s - 1).natAbs : Int)
      else (pointOf s - 1).natAbs) = pointOf s - 1 := by
    by_cases hneg : pointOf s - 1 < 0
    · simp only [hneg, decide_true, if_true]
      omega
    · simp only [hneg, decide_false]
      show ((pointOf s - 1).natAbs : Int) = pointOf s - 1
      omega
  show (decimalValue ((ofScaled negative s).whole ++ (ofScaled negative s).behind) *
    10 ^ ((ofScaled negative s).scale - (ofScaled negative s).behind.length) : ℚ) = _
  unfold ofScaled Scaled.value
  simp only
  generalize pointOf s = p at hpoint hscale ⊢
  generalize Nat.toDigits 10 s.digits = ds at hpoint hlength hdigits ⊢
  split_ifs with hnear hbefore hinside hsingle
  · simp only [behind, scale, Option.getD_some, List.singleton_append]
    rw [decimalValue_zero_cons, decimalValue_zeros_append, hdigits, List.length_append,
      List.length_replicate]
    congr 2
    omega
  · simp only [behind, scale, Option.getD_some]
    rw [List.take_append_drop, hdigits, List.length_drop]
    congr 2
    omega
  · simp only [behind, scale, Option.getD_some]
    rw [show (['0'] : List Char) = List.replicate 1 '0' from rfl, decimalValue_append_zeros,
      decimalValue_append_zeros, hdigits, List.length_replicate]
    have hexp : s.exponent = ((p - ds.length).toNat : Int) := by omega
    rw [hexp]
    push_cast
    rw [zpow_natCast, zpow_neg_one]
    field_simp
  · simp only [behind, scale, Option.getD_none, List.append_nil]
    rw [List.take_of_length_le (by omega), hdigits, decimalValue_exponentDigits, hscale,
      List.length_nil]
    congr 2
    omega
  · simp only [behind, scale, Option.getD_some]
    rw [List.take_append_drop, hdigits, List.length_drop, decimalValue_exponentDigits, hscale]
    congr 2
    omega

/-- Zero, with its one digit before the point and one behind it. -/
def zero (negative : Bool) : Numeral := ⟨negative, ['0'], some ['0'], none⟩

theorem proper_zero (negative : Bool) : (zero negative).Proper := by
  have hzero : ∀ d ∈ ['0'], d.isDigit = true := List.forall_mem_singleton.mpr rfl
  refine ⟨⟨List.cons_ne_nil _ _, hzero⟩, fun _ => rfl, ?_, fun x hx => by cases hx⟩
  rintro _ ⟨⟩
  exact ⟨List.cons_ne_nil _ _, hzero⟩

end Numeral

/-! ## Faithful numbers -/

namespace Faithful

variable {room : Nat}

/-- A finite number is faithful. -/
theorem finite {negative : Bool} {m : Nat} {q : Int} (hcanonical : Binary64.Canonical m q)
    {x : Binary64} (hreading : x.reading = .finite negative m q)
    (hx : x = Binary64.ofParts negative (Binary64.magnitudeBits m q)) :
    Faithful room (.float x) := by
  have hwrite : ∀ level, write level (.float x) = (if negative then ['-'] else []) ++
      (if m = 0 then "0.0" else (Decimal.shortest m q).text).toList := by
    intro level
    rw [write, floatText]
    simp only [hreading, Binary64.text, String.toList_append]
    cases negative <;> rfl
  rcases Nat.eq_zero_or_pos m with rfl | hm
  · -- Zero has the least exponent, so its word has no bits below the sign.
    have hq : q = -1074 := by
      rcases hcanonical.leading with hq | hq
      · exact hq
      · exact absurd hq (by decide)
    refine of_numeral (n := .zero negative) (Numeral.proper_zero negative) rfl ?_ ?_
    · intro level
      rw [hwrite, if_pos rfl]
      cases negative <;> rfl
    · rw [Numeral.value_of_fraction (.inl (by simp [Numeral.zero])), hx, hq]
      rfl
  · obtain ⟨hdigits, -⟩ := Decimal.shortest_contains hcanonical hm
    refine of_numeral (Numeral.proper_ofScaled negative hdigits) rfl ?_ ?_
    · intro level
      rw [hwrite, if_neg hm.ne', Numeral.text_ofScaled]
    · rw [Numeral.value_of_fraction (Numeral.fraction_or_exponent_ofScaled _ _),
        Numeral.negative_ofScaled, hx,
        Decimal.ofDecimal_of_shortest negative hcanonical hm (Numeral.value_ofScaled negative _)]

/-- **A regular word is faithful**: every number with a fraction that a text can
hold is read back as it was, and so are the infinities and what is no number. -/
theorem float {x : Binary64} (h : x.Regular) : Faithful room (.float x) := by
  rcases h.cases_reading with ⟨negative, m, q, hcanonical, hreading, hx⟩ |
    ⟨negative, hreading, rfl⟩ | ⟨hreading, rfl⟩
  · exact finite hcanonical hreading hx
  · have hwrite : ∀ level, write level (.float (Binary64.infinity negative)) =
        (if negative then "-Infinity" else "Infinity").toList := by
      intro level
      rw [write, floatText, hreading]
    cases negative with
    | false =>
        exact of_scalar rfl hwrite (List.all_eq_true.mp rfl) (by decide) fun _ _ => rfl
    | true =>
        exact of_scalar rfl hwrite (List.all_eq_true.mp rfl) (by decide) fun _ _ => rfl
  · have hwrite : ∀ level, write level (.float Binary64.notANumber) = "NaN".toList := by
      intro level
      rw [write, floatText, hreading]
    exact of_scalar rfl hwrite (List.all_eq_true.mp rfl) (by decide) fun _ _ => rfl

end Faithful

end QueryDesk.Json
