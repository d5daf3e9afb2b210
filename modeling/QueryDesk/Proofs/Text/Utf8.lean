import Mathlib.Tactic.SplitIfs
import QueryDesk.Text.Utf8

/-!
# Strict reading of bytes

A row of bytes is read as a text if it is the bytes of that text, and is refused
in every other case.  The reader looks at one character at a time, so this is a
fact about the bytes of one character: with anything behind them they are read as
the character, and what is read as a character is its bytes.  Overlong forms,
halves of pairs and values beyond the last code point are kept out by the range
of the second byte alone.

## Main results

* `next_encoded` — the bytes of a character are read as it.
* `encoded_of_next` — what is read as a character is its bytes.
* `decode?_eq_some_iff` — the texts that a strict reading accepts.
* `lineFeedsOnly_eq_self` — a text without carriage returns keeps its line ends.
-/

namespace QueryDesk.Text.Utf8

open String (utf8EncodeChar)

/-! ## First bytes -/

/-- What a byte announces, by the length of the character that it begins. -/
theorem announced_eq_some {b : UInt8} {value need lo hi : Nat}
    (h : announced b = some (value, need, lo, hi)) :
    (b.toNat < 0x80 ∧ value = b.toNat ∧ need = 0) ∨
    (0xC2 ≤ b.toNat ∧ b.toNat < 0xE0 ∧ value = b.toNat % 0x20 ∧ need = 1 ∧ lo = 0x80 ∧
      hi = 0xBF) ∨
    (0xE0 ≤ b.toNat ∧ b.toNat < 0xF0 ∧ value = b.toNat % 0x10 ∧ need = 2 ∧
      lo = (if b.toNat = 0xE0 then 0xA0 else 0x80) ∧
      hi = (if b.toNat = 0xED then 0x9F else 0xBF)) ∨
    (0xF0 ≤ b.toNat ∧ b.toNat ≤ 0xF4 ∧ value = b.toNat % 8 ∧ need = 3 ∧
      lo = (if b.toNat = 0xF0 then 0x90 else 0x80) ∧
      hi = (if b.toNat = 0xF4 then 0x8F else 0xBF)) := by
  unfold announced at h
  simp only at h
  split_ifs at h <;> cases h <;> split_ifs <;> omega

theorem announced_ascii {b : UInt8} (h : b.toNat < 0x80) :
    announced b = some (b.toNat, 0, 0x80, 0xBF) := by
  simp only [announced, h, if_true]

theorem announced_two {b : UInt8} (hlow : 0xC2 ≤ b.toNat) (hhigh : b.toNat < 0xE0) :
    announced b = some (b.toNat % 0x20, 1, 0x80, 0xBF) := by
  simp only [announced, show ¬ b.toNat < 0x80 by omega, show ¬ b.toNat < 0xC2 by omega, hhigh,
    if_false, if_true]

theorem announced_three {b : UInt8} (hlow : 0xE0 ≤ b.toNat) (hhigh : b.toNat < 0xF0) :
    announced b = some (b.toNat % 0x10, 2, (if b.toNat = 0xE0 then 0xA0 else 0x80),
      (if b.toNat = 0xED then 0x9F else 0xBF)) := by
  unfold announced
  simp only
  split_ifs <;> first | omega | rfl

theorem announced_four {b : UInt8} (hlow : 0xF0 ≤ b.toNat) (hhigh : b.toNat ≤ 0xF4) :
    announced b = some (b.toNat % 8, 3, (if b.toNat = 0xF0 then 0x90 else 0x80),
      (if b.toNat = 0xF4 then 0x8F else 0xBF)) := by
  unfold announced
  simp only
  split_ifs <;> first | omega | rfl

/-! ## Further bytes -/

/-- A byte in the range that is asked for is taken. -/
theorem goOn_of_mem {b : UInt8} {lo hi : Nat} (hlow : lo ≤ b.toNat) (hhigh : b.toNat ≤ hi)
    (value need : Nat) (bs : List UInt8) :
    goOn value lo hi (need + 1) (b :: bs) =
      goOn (value * 0x40 + b.toNat % 0x40) 0x80 0xBF need bs := by
  have hmem : (decide (lo ≤ b.toNat) && decide (b.toNat ≤ hi)) = true := by
    simp only [hlow, hhigh, decide_true, Bool.and_self]
  rw [goOn, if_pos hmem]

/-- A character that goes on has a next byte in the range that is asked for. -/
theorem goOn_eq_some {value lo hi need code : Nat} {bs rest : List UInt8}
    (h : goOn value lo hi (need + 1) bs = (some code, rest)) :
    ∃ b bs', bs = b :: bs' ∧ lo ≤ b.toNat ∧ b.toNat ≤ hi ∧
      goOn (value * 0x40 + b.toNat % 0x40) 0x80 0xBF need bs' = (some code, rest) := by
  cases bs with
  | nil =>
      rw [goOn] at h
      cases h
  | cons b bs' =>
      rw [goOn] at h
      split at h
      · rename_i hmem
        simp only [Bool.and_eq_true, decide_eq_true_eq] at hmem
        exact ⟨b, bs', rfl, hmem.1, hmem.2, h⟩
      · cases h

/-! ## One character -/

theorem toNat_ofNat {n : Nat} (h : n < 0x100) : (UInt8.ofNat n).toNat = n := by
  rw [UInt8.toNat_ofNat']
  exact Nat.mod_eq_of_lt h

/-- A byte is known by its number. -/
theorem ofNat_eq {b : UInt8} {n : Nat} (h : n = b.toNat) : UInt8.ofNat n = b := by
  rw [h, UInt8.ofNat_toNat]

/-- The number of the character that a number makes. -/
theorem toNat_charOfNat {n : Nat} (h : n < 0xD800 ∨ (0xE000 ≤ n ∧ n < 0x110000)) :
    (Char.ofNat n).val.toNat = n := by
  have hvalid : n.isValidChar := by
    rcases h with h | ⟨hlow, hhigh⟩
    · exact .inl h
    · exact .inr ⟨by omega, hhigh⟩
  rw [Char.ofNat, dif_pos hvalid]
  rfl

/-! ### Reading the bytes of a character -/

section Next

variable {v : Nat} (rest : List UInt8)

theorem next_ascii (hhigh : v < 0x80) :
    next (.ofNat v) rest = (some (.ofNat v), rest) := by
  have hb : (UInt8.ofNat v).toNat = v := toNat_ofNat (by omega)
  rw [next, announced_ascii (by omega), hb]
  simp only [goOn, Option.map_some]

theorem next_two (hlow : 0x80 ≤ v) (hhigh : v < 0x800) :
    next (.ofNat (v / 64 % 32 + 192)) (.ofNat (v % 64 + 128) :: rest) =
      (some (.ofNat v), rest) := by
  have hb : (UInt8.ofNat (v / 64 % 32 + 192)).toNat = v / 64 % 32 + 192 := toNat_ofNat (by omega)
  have hb₁ : (UInt8.ofNat (v % 64 + 128)).toNat = v % 64 + 128 := toNat_ofNat (by omega)
  have hcode : (v / 64 % 32 + 192) % 0x20 * 0x40 + (v % 64 + 128) % 0x40 = v := by omega
  rw [next, announced_two (by omega) (by omega), hb]
  simp only
  rw [goOn_of_mem (by omega) (by omega), hb₁, hcode]
  simp only [goOn, Option.map_some]

theorem next_three (hlow : 0x800 ≤ v) (hhigh : v < 0x10000) (hpairs : v < 0xD800 ∨ 0xDFFF < v) :
    next (.ofNat (v / 4096 % 16 + 224))
        (.ofNat (v / 64 % 64 + 128) :: .ofNat (v % 64 + 128) :: rest) =
      (some (.ofNat v), rest) := by
  have hb : (UInt8.ofNat (v / 4096 % 16 + 224)).toNat = v / 4096 % 16 + 224 :=
    toNat_ofNat (by omega)
  have hb₁ : (UInt8.ofNat (v / 64 % 64 + 128)).toNat = v / 64 % 64 + 128 := toNat_ofNat (by omega)
  have hb₂ : (UInt8.ofNat (v % 64 + 128)).toNat = v % 64 + 128 := toNat_ofNat (by omega)
  have hcode : ((v / 4096 % 16 + 224) % 0x10 * 0x40 + (v / 64 % 64 + 128) % 0x40) * 0x40 +
      (v % 64 + 128) % 0x40 = v := by omega
  -- The second byte is past the overlong forms and short of the halves of pairs.
  have hpast : (if v / 4096 % 16 + 224 = 0xE0 then 0xA0 else 0x80) ≤ v / 64 % 64 + 128 := by
    split_ifs <;> omega
  have hshort : v / 64 % 64 + 128 ≤ if v / 4096 % 16 + 224 = 0xED then 0x9F else 0xBF := by
    split_ifs <;> omega
  rw [next, announced_three (by omega) (by omega), hb]
  simp only
  rw [goOn_of_mem (by rw [hb₁]; exact hpast) (by rw [hb₁]; exact hshort),
    goOn_of_mem (by omega) (by omega), hb₁, hb₂, hcode]
  simp only [goOn, Option.map_some]

theorem next_four (hlow : 0x10000 ≤ v) (hhigh : v < 0x110000) :
    next (.ofNat (v / 262144 % 8 + 240))
        (.ofNat (v / 4096 % 64 + 128) :: .ofNat (v / 64 % 64 + 128) ::
          .ofNat (v % 64 + 128) :: rest) =
      (some (.ofNat v), rest) := by
  have hb : (UInt8.ofNat (v / 262144 % 8 + 240)).toNat = v / 262144 % 8 + 240 :=
    toNat_ofNat (by omega)
  have hb₁ : (UInt8.ofNat (v / 4096 % 64 + 128)).toNat = v / 4096 % 64 + 128 :=
    toNat_ofNat (by omega)
  have hb₂ : (UInt8.ofNat (v / 64 % 64 + 128)).toNat = v / 64 % 64 + 128 := toNat_ofNat (by omega)
  have hb₃ : (UInt8.ofNat (v % 64 + 128)).toNat = v % 64 + 128 := toNat_ofNat (by omega)
  have hcode : (((v / 262144 % 8 + 240) % 8 * 0x40 + (v / 4096 % 64 + 128) % 0x40) * 0x40 +
      (v / 64 % 64 + 128) % 0x40) * 0x40 + (v % 64 + 128) % 0x40 = v := by omega
  -- The second byte is past the overlong forms and short of what lies beyond the last character.
  have hpast : (if v / 262144 % 8 + 240 = 0xF0 then 0x90 else 0x80) ≤ v / 4096 % 64 + 128 := by
    split_ifs <;> omega
  have hshort : v / 4096 % 64 + 128 ≤ if v / 262144 % 8 + 240 = 0xF4 then 0x8F else 0xBF := by
    split_ifs <;> omega
  rw [next, announced_four (by omega) (by omega), hb]
  simp only
  rw [goOn_of_mem (by rw [hb₁]; exact hpast) (by rw [hb₁]; exact hshort),
    goOn_of_mem (by omega) (by omega), goOn_of_mem (by omega) (by omega), hb₁, hb₂, hb₃, hcode]
  simp only [goOn, Option.map_some]

end Next

/-- **The bytes of a character are read as it**, whatever follows. -/
theorem next_encoded (c : Char) (rest : List UInt8) :
    ∃ b bs, utf8EncodeChar c = b :: bs ∧ next b (bs ++ rest) = (some c, rest) := by
  have hvalid : c.toNat < 0xD800 ∨ (0xDFFF < c.toNat ∧ c.toNat < 0x110000) := c.valid
  have hvalue : c.val.toNat = c.toNat := rfl
  have hback : Char.ofNat c.toNat = c := Char.ofNat_toNat c
  unfold utf8EncodeChar
  simp only [hvalue]
  split_ifs with hone htwo hthree
  · refine ⟨_, _, rfl, ?_⟩
    rw [List.nil_append, next_ascii rest (by omega), hback]
  · refine ⟨_, _, rfl, ?_⟩
    rw [List.singleton_append, next_two rest (by omega) (by omega), hback]
  · refine ⟨_, _, rfl, ?_⟩
    rw [List.cons_append, List.singleton_append,
      next_three rest (by omega) (by omega) (by omega), hback]
  · refine ⟨_, _, rfl, ?_⟩
    rw [List.cons_append, List.cons_append, List.singleton_append,
      next_four rest (by omega) (by omega), hback]

/-! ### The bytes that are read as a character -/

section Encoded

variable {b b₁ b₂ b₃ : UInt8}

theorem encoded_ascii (hhigh : b.toNat < 0x80) : utf8EncodeChar (.ofNat b.toNat) = [b] := by
  rw [utf8EncodeChar]
  simp only [toNat_charOfNat (n := b.toNat) (by omega)]
  rw [if_pos (by omega), ofNat_eq rfl]

theorem encoded_two (hlow : 0xC2 ≤ b.toNat) (hhigh : b.toNat < 0xE0) (hlow₁ : 0x80 ≤ b₁.toNat)
    (hhigh₁ : b₁.toNat ≤ 0xBF) :
    utf8EncodeChar (.ofNat (b.toNat % 0x20 * 0x40 + b₁.toNat % 0x40)) = [b, b₁] := by
  rw [utf8EncodeChar]
  simp only [toNat_charOfNat (n := b.toNat % 0x20 * 0x40 + b₁.toNat % 0x40) (by omega)]
  rw [if_neg (by omega), if_pos (by omega), ofNat_eq (show _ = b.toNat by omega),
    ofNat_eq (show _ = b₁.toNat by omega)]

theorem encoded_three (hlow : 0xE0 ≤ b.toNat) (hhigh : b.toNat < 0xF0)
    (hlow₁ : (if b.toNat = 0xE0 then 0xA0 else 0x80) ≤ b₁.toNat)
    (hhigh₁ : b₁.toNat ≤ if b.toNat = 0xED then 0x9F else 0xBF)
    (hlow₂ : 0x80 ≤ b₂.toNat) (hhigh₂ : b₂.toNat ≤ 0xBF) :
    utf8EncodeChar (.ofNat
      ((b.toNat % 0x10 * 0x40 + b₁.toNat % 0x40) * 0x40 + b₂.toNat % 0x40)) = [b, b₁, b₂] := by
  have hvalid : (b.toNat % 0x10 * 0x40 + b₁.toNat % 0x40) * 0x40 + b₂.toNat % 0x40 < 0xD800 ∨
      (0xE000 ≤ (b.toNat % 0x10 * 0x40 + b₁.toNat % 0x40) * 0x40 + b₂.toNat % 0x40 ∧
        (b.toNat % 0x10 * 0x40 + b₁.toNat % 0x40) * 0x40 + b₂.toNat % 0x40 < 0x110000) := by
    split_ifs at hlow₁ hhigh₁ <;> omega
  have hlong : ¬ (b.toNat % 0x10 * 0x40 + b₁.toNat % 0x40) * 0x40 + b₂.toNat % 0x40 ≤ 2047 := by
    split_ifs at hlow₁ hhigh₁ <;> omega
  have hlow₁ : 0x80 ≤ b₁.toNat := by split_ifs at hlow₁ <;> omega
  have hhigh₁ : b₁.toNat ≤ 0xBF := by split_ifs at hhigh₁ <;> omega
  rw [utf8EncodeChar]
  simp only [toNat_charOfNat hvalid]
  rw [if_neg (by omega), if_neg hlong, if_pos (by omega), ofNat_eq (show _ = b.toNat by omega),
    ofNat_eq (show _ = b₁.toNat by omega), ofNat_eq (show _ = b₂.toNat by omega)]

theorem encoded_four (hlow : 0xF0 ≤ b.toNat) (hhigh : b.toNat ≤ 0xF4)
    (hlow₁ : (if b.toNat = 0xF0 then 0x90 else 0x80) ≤ b₁.toNat)
    (hhigh₁ : b₁.toNat ≤ if b.toNat = 0xF4 then 0x8F else 0xBF)
    (hlow₂ : 0x80 ≤ b₂.toNat) (hhigh₂ : b₂.toNat ≤ 0xBF)
    (hlow₃ : 0x80 ≤ b₃.toNat) (hhigh₃ : b₃.toNat ≤ 0xBF) :
    utf8EncodeChar (.ofNat (((b.toNat % 8 * 0x40 + b₁.toNat % 0x40) * 0x40 +
      b₂.toNat % 0x40) * 0x40 + b₃.toNat % 0x40)) = [b, b₁, b₂, b₃] := by
  have hrange : 65535 < ((b.toNat % 8 * 0x40 + b₁.toNat % 0x40) * 0x40 + b₂.toNat % 0x40) * 0x40 +
      b₃.toNat % 0x40 ∧ ((b.toNat % 8 * 0x40 + b₁.toNat % 0x40) * 0x40 + b₂.toNat % 0x40) * 0x40 +
      b₃.toNat % 0x40 < 0x110000 := by
    split_ifs at hlow₁ hhigh₁ <;> omega
  have hlow₁ : 0x80 ≤ b₁.toNat := by split_ifs at hlow₁ <;> omega
  have hhigh₁ : b₁.toNat ≤ 0xBF := by split_ifs at hhigh₁ <;> omega
  rw [utf8EncodeChar]
  simp only [toNat_charOfNat (.inr ⟨Nat.le_trans (by decide) hrange.1, hrange.2⟩)]
  rw [if_neg (by omega), if_neg (by omega), if_neg (Nat.not_le.mpr hrange.1),
    ofNat_eq (show _ = b.toNat by omega), ofNat_eq (show _ = b₁.toNat by omega),
    ofNat_eq (show _ = b₂.toNat by omega), ofNat_eq (show _ = b₃.toNat by omega)]

end Encoded

/-- **What is read as a character is its bytes.** -/
theorem encoded_of_next {b : UInt8} {bs rest : List UInt8} {c : Char}
    (h : next b bs = (some c, rest)) : b :: bs = utf8EncodeChar c ++ rest := by
  unfold next at h
  cases hannounced : announced b with
  | none =>
      rw [hannounced] at h
      cases h
  | some a =>
      obtain ⟨value, need, lo, hi⟩ := a
      rw [hannounced] at h
      simp only [Prod.mk.injEq, Option.map_eq_some_iff] at h
      obtain ⟨⟨code, hcode, rfl⟩, hrest⟩ := h
      have hgo : goOn value lo hi need bs = (some code, rest) := by
        rw [← hcode, ← hrest]
      rcases announced_eq_some hannounced with ⟨hhigh, rfl, rfl⟩ |
        ⟨hlow, hhigh, rfl, rfl, rfl, rfl⟩ | ⟨hlow, hhigh, rfl, rfl, rfl, rfl⟩ |
        ⟨hlow, hhigh, rfl, rfl, rfl, rfl⟩
      · cases hgo
        rw [encoded_ascii hhigh]
        rfl
      · obtain ⟨b₁, bs, rfl, hlow₁, hhigh₁, hgo⟩ := goOn_eq_some hgo
        cases hgo
        rw [encoded_two hlow hhigh hlow₁ hhigh₁]
        rfl
      · obtain ⟨b₁, bs, rfl, hlow₁, hhigh₁, hgo⟩ := goOn_eq_some hgo
        obtain ⟨b₂, bs, rfl, hlow₂, hhigh₂, hgo⟩ := goOn_eq_some hgo
        cases hgo
        rw [encoded_three hlow hhigh hlow₁ hhigh₁ hlow₂ hhigh₂]
        rfl
      · obtain ⟨b₁, bs, rfl, hlow₁, hhigh₁, hgo⟩ := goOn_eq_some hgo
        obtain ⟨b₂, bs, rfl, hlow₂, hhigh₂, hgo⟩ := goOn_eq_some hgo
        obtain ⟨b₃, bs, rfl, hlow₃, hhigh₃, hgo⟩ := goOn_eq_some hgo
        cases hgo
        rw [encoded_four hlow hhigh hlow₁ hhigh₁ hlow₂ hhigh₂ hlow₃ hhigh₃]
        rfl

/-! ## Whole texts -/

theorem pieces_encode (cs : List Char) : pieces (encode cs) = cs.map some := by
  induction cs with
  | nil => rw [encode, List.flatMap_nil, pieces, List.map_nil]
  | cons c cs ih =>
      obtain ⟨b, bs, hencode, hnext⟩ := next_encoded c (encode cs)
      have hcons : encode (c :: cs) = b :: (bs ++ encode cs) := by
        rw [encode, List.flatMap_cons, hencode]
        rfl
      rw [hcons, pieces, hnext, ih, List.map_cons]

/-- Bytes without ill-formed pieces are those of their characters. -/
theorem eq_encode_of_pieces {bs : List UInt8} {cs : List Char} (h : pieces bs = cs.map some) :
    bs = encode cs := by
  induction cs generalizing bs with
  | nil =>
      cases bs with
      | nil => rfl
      | cons b bs =>
          rw [pieces] at h
          cases h
  | cons c cs ih =>
      cases bs with
      | nil =>
          rw [pieces] at h
          cases h
      | cons b bs =>
          rw [pieces, List.map_cons, List.cons.injEq] at h
          have hnext : next b bs = (some c, (next b bs).2) := by rw [← h.1]
          rw [encoded_of_next hnext, ih h.2]
          rfl

theorem mapM_id_eq_some {ps : List (Option Char)} {cs : List Char} :
    ps.mapM id = some cs ↔ ps = cs.map some := by
  induction ps generalizing cs with
  | nil => cases cs <;> simp
  | cons p ps ih =>
      rw [List.mapM_cons]
      cases p with
      | none => cases cs <;> simp
      | some c =>
          cases cs with
          | nil => simp [Option.bind_eq_some_iff]
          | cons d cs =>
              simp only [id, Option.pure_def, Option.bind_eq_bind, Option.bind_some,
                Option.bind_eq_some_iff, ih, Option.some.injEq, List.cons.injEq, List.map_cons]
              constructor
              · rintro ⟨_, rfl, rfl, rfl⟩
                exact ⟨rfl, rfl⟩
              · rintro ⟨rfl, rfl⟩
                exact ⟨_, rfl, rfl, rfl⟩

/-- **A strict reading accepts the bytes of a text, and no others.** -/
theorem decode?_eq_some_iff {bs : List UInt8} {cs : List Char} :
    decode? bs = some cs ↔ bs = encode cs := by
  rw [decode?, mapM_id_eq_some]
  constructor
  · intro h
    exact eq_encode_of_pieces h
  · rintro rfl
    exact pieces_encode cs

/-! ## Line ends -/

/-- **A text without carriage returns keeps its line ends.** -/
theorem lineFeedsOnly_eq_self {cs : List Char} (h : '\r' ∉ cs) : lineFeedsOnly cs = cs := by
  induction cs with
  | nil => rfl
  | cons c cs ih =>
      obtain ⟨hc, hcs⟩ : c ≠ '\r' ∧ '\r' ∉ cs := by
        simpa [eq_comm] using h
      have hstep : lineFeedsOnly (c :: cs) =
          (if c = '\r' then '\n' else c) :: lineFeedsOnly cs := by
        rw [lineFeedsOnly]
        rintro rest rfl
        exact absurd rfl hc
      rw [hstep, if_neg hc, ih hcs]

end QueryDesk.Text.Utf8
