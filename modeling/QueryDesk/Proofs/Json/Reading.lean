import QueryDesk.Proofs.Json.Fractions

/-!
# What the reader makes of a text

Whatever text the reader is given, what it answers is one of four things.  A value
that it reads is *readable*: its integers are within the limit of digits, its
numbers with a fraction are regular words, the names in its objects are all
different, and its lists and objects have room.  All of that survives when the
value is written and read again.  An error says something about the text: a row of
digits in it is too long, or somewhere in it more lists and objects are open than
are followed.

Both are proved together by one induction on the steps of the reader, since what
an error says about a list is known only if the items before it close whatever
they open.  How many brackets are open is counted by a scan that knows of strings
and of nothing else.

## Main results

* `Readable.faithful` — a readable value survives.
* `reads` — what the readers answer, whatever the text.
* `readable_of_read` — a value that is read is readable.
* `hasLongRow_of_read`, `nestsBeyond_of_read` — what the two limits say about the text.
-/

namespace QueryDesk.Json

open Decimal (Binary64)

/-! ## Readable values -/

/-- A value that can be read where `room` lists and objects may begin, one in the
other. -/
inductive Readable : Nat → Value → Prop where
  | null {room : Nat} : Readable room .null
  | bool {room : Nat} (b : Bool) : Readable room (.bool b)
  | int {room : Nat} {n : Int} (hn : n.natAbs < Decimal.tenPow Decimal.digitLimit) :
      Readable room (.int n)
  | float {room : Nat} {x : Binary64} (hx : x.Regular) : Readable room (.float x)
  | text {room : Nat} (s : String) : Readable room (.text s)
  | list {room : Nat} {items : List Value} (hitems : ∀ v ∈ items, Readable room v) :
      Readable (room + 1) (.list items)
  | object {room : Nat} {fields : List (String × Value)}
      (hnames : (OrderedMap.names fields).Nodup) (hfields : ∀ f ∈ fields, Readable room f.2) :
      Readable (room + 1) (.object fields)

/-- The names in an object are all different. -/
theorem Readable.nodup_names {room : Nat} {fields : List (String × Value)}
    (h : Readable room (.object fields)) : (OrderedMap.names fields).Nodup := by
  cases h with
  | object hnames _ => exact hnames

/-- More room does no harm. -/
theorem Readable.mono {room room' : Nat} {v : Value} (h : Readable room v) (hle : room ≤ room') :
    Readable room' v := by
  induction h generalizing room' with
  | null => exact .null
  | bool b => exact .bool b
  | int hn => exact .int hn
  | float hx => exact .float hx
  | text s => exact .text s
  | list _ ih =>
      cases room' with
      | zero => omega
      | succ room' => exact .list fun v hv => ih v hv (Nat.le_of_succ_le_succ hle)
  | object hnames _ ih =>
      cases room' with
      | zero => omega
      | succ room' =>
          exact .object hnames fun f hf => ih f hf (Nat.le_of_succ_le_succ hle)

/-- **A readable value survives** when it is written and read again. -/
theorem Readable.faithful {room : Nat} {v : Value} (h : Readable room v) : Faithful room v := by
  induction h with
  | null => exact .null
  | bool b => exact .bool b
  | int hn => exact .int hn
  | float hx => exact .float hx
  | text s => exact .text s
  | list _ ih => exact .list ih
  | object hnames _ ih => exact .object hnames ih

/-! ## Counting brackets -/

/-- Where a count of brackets stands. -/
inductive Place where
  | between
  | inString
  /-- Behind a backslash in a string. -/
  | escaped
  deriving DecidableEq, Repr

/-- How many lists and objects are open, and whether a string is. -/
structure Nesting where
  depth : Nat
  place : Place
  deriving DecidableEq, Repr

namespace Nesting

/-- The count after one more character. -/
def after (k : Nesting) (c : Char) : Nesting :=
  match k.place with
  | .escaped => ⟨k.depth, .inString⟩
  | .inString =>
    if c = '"' then ⟨k.depth, .between⟩ else if c = '\\' then ⟨k.depth, .escaped⟩ else k
  | .between =>
    if c = '"' then ⟨k.depth, .inString⟩
    else if c = '[' || c = '\x7b' then ⟨k.depth + 1, .between⟩
    else if c = ']' || c = '\x7d' then ⟨k.depth - 1, .between⟩
    else k

/-- The count after a piece of text. -/
def afterAll (k : Nesting) (cs : List Char) : Nesting := cs.foldl after k

theorem afterAll_cons (k : Nesting) (c : Char) (cs : List Char) :
    k.afterAll (c :: cs) = (k.after c).afterAll cs := rfl

theorem afterAll_append (k : Nesting) (as bs : List Char) :
    k.afterAll (as ++ bs) = (k.afterAll as).afterAll bs :=
  List.foldl_append

end Nesting

/-- Whether more than `room` lists and objects are open somewhere in a text,
besides those that are open before it. -/
def NestsBeyond (room : Nat) (cs : List Char) : Prop :=
  ∃ front, front <+: cs ∧ ∀ d, d + room < (Nesting.afterAll ⟨d, .between⟩ front).depth

/-- Whether a text has a row of digits that is too long for an integer. -/
def HasLongRow (cs : List Char) : Prop :=
  ∃ row, row <:+: cs ∧ (∀ d ∈ row, d.isDigit = true) ∧ Decimal.digitLimit < row.length

/-! ## Passing over text -/

/-- Whether a character can begin or end a string, a list or an object. -/
def isMark (c : Char) : Bool :=
  c = '"' || c = '[' || c = ']' || c = '\x7b' || c = '\x7d'

/-- Whether nothing but characters without meaning for a count stands between a
text and a later part of it. -/
def Skims (cs rest : List Char) : Prop :=
  ∃ used, cs = used ++ rest ∧ ∀ c ∈ used, isMark c = false

/-- Whether what stands between a text and a later part of it closes `n` lists and
objects more than it opens. -/
def Passes (n : Nat) (cs rest : List Char) : Prop :=
  ∃ used, cs = used ++ rest ∧ ∀ d, Nesting.afterAll ⟨d + n, .between⟩ used = ⟨d, .between⟩

section Passing

variable {n room : Nat} {as bs cs rest : List Char}

theorem Skims.refl (cs : List Char) : Skims cs cs := ⟨[], rfl, by simp⟩

theorem Skims.trans (h : Skims as bs) (h' : Skims bs cs) : Skims as cs := by
  obtain ⟨used, rfl, hused⟩ := h
  obtain ⟨used', rfl, hused'⟩ := h'
  exact ⟨used ++ used', (List.append_assoc ..).symm, List.forall_mem_append.mpr ⟨hused, hused'⟩⟩

theorem Skims.cons {c : Char} (hc : isMark c = false) (h : Skims cs rest) :
    Skims (c :: cs) rest := by
  obtain ⟨used, rfl, hused⟩ := h
  exact ⟨c :: used, rfl, List.forall_mem_cons.mpr ⟨hc, hused⟩⟩

theorem Nesting.afterAll_of_not_mark (hcs : ∀ c ∈ cs, isMark c = false) (d : Nat) :
    Nesting.afterAll ⟨d, .between⟩ cs = ⟨d, .between⟩ := by
  induction cs with
  | nil => rfl
  | cons c cs ih =>
      obtain ⟨hc, hcs⟩ := List.forall_mem_cons.mp hcs
      simp only [isMark, Bool.or_eq_false_iff, decide_eq_false_iff_not] at hc
      obtain ⟨⟨⟨⟨hquote, hopen⟩, hclose⟩, hopen'⟩, hclose'⟩ := hc
      have hafter : Nesting.after ⟨d, .between⟩ c = ⟨d, .between⟩ := by
        simp [Nesting.after, hquote, hopen, hopen', hclose, hclose']
      rw [Nesting.afterAll_cons, hafter, ih hcs]

theorem Skims.passes (h : Skims cs rest) : Passes 0 cs rest := by
  obtain ⟨used, rfl, hused⟩ := h
  exact ⟨used, rfl, Nesting.afterAll_of_not_mark hused⟩

theorem Passes.trans (h : Passes 0 as bs) (h' : Passes n bs cs) : Passes n as cs := by
  obtain ⟨used, rfl, hused⟩ := h
  obtain ⟨used', rfl, hused'⟩ := h'
  refine ⟨used ++ used', (List.append_assoc ..).symm, ?_⟩
  intro d
  have hfirst : Nesting.afterAll ⟨d + n, .between⟩ used = ⟨d + n, .between⟩ := hused (d + n)
  rw [Nesting.afterAll_append, hfirst, hused']

/-- A list or an object is passed over by its brackets and what stands between. -/
theorem Passes.opened {c : Char} (hc : c = '[' ∨ c = '\x7b') (h : Passes 1 cs rest) :
    Passes 0 (c :: cs) rest := by
  obtain ⟨used, rfl, hused⟩ := h
  refine ⟨c :: used, rfl, ?_⟩
  intro d
  have hopen : Nesting.after ⟨d, .between⟩ c = ⟨d + 1, .between⟩ := by
    rcases hc with rfl | rfl <;> rfl
  rw [Nesting.afterAll_cons]
  show ((Nesting.after ⟨d, .between⟩ c).afterAll used) = _
  rw [hopen, hused]

theorem Passes.closed {c : Char} (hc : c = ']' ∨ c = '\x7d') (rest : List Char) :
    Passes 1 (c :: rest) rest := by
  refine ⟨[c], rfl, ?_⟩
  intro d
  rcases hc with rfl | rfl <;> rfl

theorem Passes.hasLongRow (h : Passes n cs rest) (hrow : HasLongRow rest) : HasLongRow cs := by
  obtain ⟨used, rfl, -⟩ := h
  obtain ⟨row, hinfix, hdigits, hlong⟩ := hrow
  exact ⟨row, hinfix.trans (List.suffix_append used rest).isInfix, hdigits, hlong⟩

theorem Passes.nestsBeyond (h : Passes 0 cs rest) (hdeep : NestsBeyond room rest) :
    NestsBeyond room cs := by
  obtain ⟨used, rfl, hused⟩ := h
  obtain ⟨front, hfront, hdepth⟩ := hdeep
  refine ⟨used ++ front, (List.prefix_append_right_inj used).mpr hfront, ?_⟩
  intro d
  have hused : Nesting.afterAll ⟨d, .between⟩ used = ⟨d, .between⟩ := hused d
  rw [Nesting.afterAll_append, hused]
  exact hdepth d

/-- What is open in a list or an object is one more than what is open in its parts. -/
theorem NestsBeyond.opened {c : Char} (hc : c = '[' ∨ c = '\x7b') (h : NestsBeyond room cs) :
    NestsBeyond (room + 1) (c :: cs) := by
  obtain ⟨front, hfront, hdepth⟩ := h
  refine ⟨c :: front, (List.prefix_cons_inj c).mpr hfront, ?_⟩
  intro d
  have hopen : Nesting.after ⟨d, .between⟩ c = ⟨d + 1, .between⟩ := by
    rcases hc with rfl | rfl <;> rfl
  rw [Nesting.afterAll_cons, hopen]
  have := hdepth (d + 1)
  omega

theorem nestsBeyond_zero {c : Char} (hc : c = '[' ∨ c = '\x7b') (cs : List Char) :
    NestsBeyond 0 (c :: cs) := by
  refine ⟨[c], (List.prefix_cons_inj c).mpr List.nil_prefix, ?_⟩
  intro d
  rcases hc with rfl | rfl <;> exact Nat.lt_succ_self d

end Passing

/-! ## Answers of the readers -/

section Answers

variable {α β : Type}

/-- What an error says about a text. -/
def Explains (room : Nat) (cs : List Char) : ReadError → Prop
  | .malformed => True
  | .integerTooLong => HasLongRow cs
  | .tooDeep => NestsBeyond room cs

/-- What a reader that closes `n` lists and objects answers: something of a kind,
with the text passed over, or an error that says something about the text. -/
def Answers (n room : Nat) (good : α → Prop) (cs : List Char) :
    Except ReadError (α × List Char) → Prop
  | .ok (a, rest) => good a ∧ Passes n cs rest
  | .error e => Explains room cs e

theorem Explains.behind {room : Nat} {cs rest : List Char} {e : ReadError}
    (h : Explains room rest e) (hpasses : Passes 0 cs rest) : Explains room cs e := by
  cases e with
  | malformed => trivial
  | integerTooLong => exact hpasses.hasLongRow h
  | tooDeep => exact hpasses.nestsBeyond h

theorem Explains.opened {room : Nat} {cs : List Char} {e : ReadError} {c : Char}
    (hc : c = '[' ∨ c = '\x7b') (h : Explains room cs e) : Explains (room + 1) (c :: cs) e := by
  cases e with
  | malformed => trivial
  | integerTooLong =>
      obtain ⟨row, hinfix, hdigits, hlong⟩ := h
      exact ⟨row, hinfix.trans (List.suffix_cons c cs).isInfix, hdigits, hlong⟩
  | tooDeep => exact NestsBeyond.opened hc h

/-- What a reader answers behind text that is passed over. -/
theorem Answers.behind {n room : Nat} {good : α → Prop} {cs rest : List Char}
    {r : Except ReadError (α × List Char)} (h : Answers n room good rest r)
    (hpasses : Passes 0 cs rest) : Answers n room good cs r := by
  cases r with
  | error e => exact Explains.behind h hpasses
  | ok a => exact ⟨h.1, hpasses.trans h.2⟩

end Answers

/-! ## Strings -/

section Strings

variable {cs rest : List Char}

theorem not_mark_of_hexValue? {c : Char} {n : Nat} (h : hexValue? c = some n) :
    c ≠ '"' ∧ c ≠ '\\' := by
  have hnone : hexValue? '"' = none ∧ hexValue? '\\' = none := by decide
  constructor
  · rintro rfl
    rw [hnone.1] at h
    cases h
  · rintro rfl
    rw [hnone.2] at h
    cases h

/-- A character in a string that neither ends it nor begins an escape. -/
theorem after_inString {c : Char} (hquote : c ≠ '"') (hslash : c ≠ '\\') (d : Nat) :
    Nesting.after ⟨d, .inString⟩ c = ⟨d, .inString⟩ := by
  simp [Nesting.after, hquote, hslash]

/-- The four digits of a unit. -/
theorem readUnit?_passes {n : Nat} (h : readUnit? cs = some (n, rest)) :
    ∃ used, cs = used ++ rest ∧
      ∀ d, Nesting.afterAll ⟨d, .inString⟩ used = ⟨d, .inString⟩ := by
  match cs with
  | [] | [_] | [_, _] | [_, _, _] => cases h
  | a :: b :: c :: e :: cs =>
    simp only [readUnit?, Option.bind_eq_bind, Option.bind_eq_some_iff, Option.pure_def,
      Option.some.injEq, Prod.mk.injEq] at h
    obtain ⟨w, hw, x, hx, y, hy, z, hz, -, rfl⟩ := h
    refine ⟨[a, b, c, e], rfl, ?_⟩
    intro d
    obtain ⟨ha, ha'⟩ := not_mark_of_hexValue? hw
    obtain ⟨hb, hb'⟩ := not_mark_of_hexValue? hx
    obtain ⟨hc, hc'⟩ := not_mark_of_hexValue? hy
    obtain ⟨he, he'⟩ := not_mark_of_hexValue? hz
    rw [Nesting.afterAll_cons, after_inString ha ha', Nesting.afterAll_cons, after_inString hb hb',
      Nesting.afterAll_cons, after_inString hc hc', Nesting.afterAll_cons, after_inString he he']
    rfl

/-- A unit takes nothing more, or the escape of a second unit. -/
theorem joinUnit_passes (n : Nat) (cs : List Char) :
    ∃ used, cs = used ++ (joinUnit n cs).2 ∧
      ∀ d, Nesting.afterAll ⟨d, .inString⟩ used = ⟨d, .inString⟩ := by
  have hnothing : ∃ used, cs = used ++ cs ∧
      ∀ d, Nesting.afterAll ⟨d, .inString⟩ used = ⟨d, .inString⟩ := ⟨[], rfl, fun _ => rfl⟩
  unfold joinUnit
  split
  · split
    · split
      · rename_i low rest' hunit
        split
        · obtain ⟨used, hused, hplace⟩ := readUnit?_passes hunit
          refine ⟨'\\' :: 'u' :: used, by rw [hused]; rfl, ?_⟩
          intro d
          exact hplace d
        · exact hnothing
      · exact hnothing
    · exact hnothing
  · split
    · exact hnothing
    · exact hnothing

/-- What an escape takes behind its backslash. -/
theorem readEscape?_passes {c : Char} (h : readEscape? cs = some (c, rest)) :
    ∃ used, cs = used ++ rest ∧
      ∀ d, Nesting.afterAll ⟨d, .escaped⟩ used = ⟨d, .inString⟩ := by
  unfold readEscape? at h
  split at h
  case h_9 =>
    simp only [Option.map_eq_some_iff, Prod.exists] at h
    obtain ⟨n, behind, hunit, hjoin⟩ := h
    obtain ⟨used, rfl, hplace⟩ := readUnit?_passes hunit
    obtain ⟨used', hused', hplace'⟩ := joinUnit_passes n behind
    rw [hjoin] at hused'
    refine ⟨'u' :: (used ++ used'), by rw [hused']; simp, ?_⟩
    intro d
    show Nesting.afterAll ⟨d, .inString⟩ (used ++ used') = _
    rw [Nesting.afterAll_append, hplace, hplace']
  case h_10 => cases h
  all_goals
    cases h
    exact ⟨[_], rfl, fun _ => rfl⟩

/-- The rest of a string, up to its closing quote. -/
theorem readString_passes {fuel : Nat} {s : List Char} (h : readString fuel cs = some (s, rest)) :
    ∃ used, cs = used ++ rest ∧
      ∀ d, Nesting.afterAll ⟨d, .inString⟩ used = ⟨d, .between⟩ := by
  induction fuel generalizing cs s with
  | zero => cases h
  | succ fuel ih =>
      cases cs with
      | nil => cases h
      | cons c cs =>
          rw [readString] at h
          split at h
          · subst c
            cases h
            exact ⟨['"'], rfl, fun _ => rfl⟩
          · rename_i hquote
            split at h
            · subst c
              simp only [Option.bind_eq_bind, Option.bind_eq_some_iff, Prod.exists] at h
              obtain ⟨e, behind, hescape, s', rest', hrest, hs⟩ := h
              cases hs
              obtain ⟨used, rfl, hplace⟩ := readEscape?_passes hescape
              obtain ⟨used', rfl, hplace'⟩ := ih hrest
              refine ⟨'\\' :: (used ++ used'), by simp, ?_⟩
              intro d
              show Nesting.afterAll ⟨d, .escaped⟩ (used ++ used') = _
              rw [Nesting.afterAll_append, hplace, hplace']
            · rename_i hslash
              split at h
              · cases h
              · simp only [Option.bind_eq_bind, Option.bind_eq_some_iff, Prod.exists] at h
                obtain ⟨s', rest', hrest, hs⟩ := h
                cases hs
                obtain ⟨used, rfl, hplace⟩ := ih hrest
                refine ⟨c :: used, rfl, ?_⟩
                intro d
                rw [Nesting.afterAll_cons, after_inString hquote hslash, hplace]

/-- A string is passed over with its quotes. -/
theorem passes_string {fuel : Nat} {s : List Char} (h : readString fuel cs = some (s, rest)) :
    Passes 0 ('"' :: cs) rest := by
  obtain ⟨used, rfl, hplace⟩ := readString_passes h
  refine ⟨'"' :: used, rfl, ?_⟩
  intro d
  exact hplace d

end Strings

/-! ## Words and numbers -/

section Scalars

variable {cs rest : List Char}

theorem skims_skipGaps (cs : List Char) : Skims cs (skipGaps cs) := by
  refine ⟨cs.takeWhile isGap, (List.takeWhile_append_dropWhile ..).symm, ?_⟩
  intro c hc
  have hgap : isGap c = true := List.mem_takeWhile_imp hc
  simp only [isGap, Bool.or_eq_true, decide_eq_true_eq] at hgap
  rcases hgap with ((rfl | rfl) | rfl) | rfl <;> rfl

theorem not_mark_of_isDigit {c : Char} (hc : c.isDigit = true) : isMark c = false := by
  simp only [isMark, Bool.or_eq_false_iff, decide_eq_false_iff_not]
  refine ⟨⟨⟨⟨?_, ?_⟩, ?_⟩, ?_⟩, ?_⟩ <;> (rintro rfl; revert hc; decide)

theorem skims_digits (cs : List Char) : Skims cs (cs.dropWhile Char.isDigit) :=
  ⟨cs.takeWhile Char.isDigit, (List.takeWhile_append_dropWhile ..).symm,
    fun _ hc => not_mark_of_isDigit (List.mem_takeWhile_imp hc)⟩

theorem skims_readFraction (cs : List Char) : Skims cs (readFraction cs).2 := by
  unfold readFraction
  split
  · rename_i d cs
    split
    · rename_i hd
      exact .cons rfl (.cons (not_mark_of_isDigit hd) (skims_digits cs))
    · exact .refl _
  · exact .refl _

/-- An exponent is read behind its mark and a sign. -/
theorem readExponent_cons {m : Char} (hm : (decide (m = 'e') || decide (m = 'E')) = true)
    (cs : List Char) :
    ∃ negative ds, Skims cs ds ∧ readExponent (m :: cs) =
      match ds with
      | d :: _ =>
        if d.isDigit then (some (negative, ds.takeWhile Char.isDigit), ds.dropWhile Char.isDigit)
        else (none, m :: cs)
      | [] => (none, m :: cs) := by
  cases cs with
  | nil => exact ⟨false, [], .refl [], by simp [readExponent, hm]⟩
  | cons c cs =>
      by_cases hminus : c = '-'
      · subst c
        exact ⟨true, cs, .cons rfl (.refl cs), if_pos hm⟩
      · by_cases hplus : c = '+'
        · subst c
          exact ⟨false, cs, .cons rfl (.refl cs), if_pos hm⟩
        · exact ⟨false, c :: cs, .refl _, by simp [readExponent, hm, hminus, hplus]⟩

theorem skims_readExponent (cs : List Char) : Skims cs (readExponent cs).2 := by
  cases cs with
  | nil => exact .refl _
  | cons m cs =>
      by_cases hm : (decide (m = 'e') || decide (m = 'E')) = true
      · have hmark : isMark m = false := by
          simp only [Bool.or_eq_true, decide_eq_true_eq] at hm
          rcases hm with rfl | rfl <;> rfl
        obtain ⟨negative, ds, hskims, hread⟩ := readExponent_cons hm cs
        rw [hread]
        split
        · split
          · exact (Skims.cons hmark hskims).trans (skims_digits _)
          · exact .refl _
        · exact .refl _
      · simp only [readExponent, hm]
        exact .refl _

/-- A number is read behind its sign. -/
theorem readNumeral?_body (cs : List Char) :
    ∃ negative body, Skims cs body ∧ body <:+ cs ∧ readNumeral? cs =
      let whole := if body.head? = some '0' then ['0'] else body.takeWhile Char.isDigit
      if whole.isEmpty then none
      else
        let fraction := readFraction (body.drop whole.length)
        let exponent := readExponent fraction.2
        some (⟨negative, whole, fraction.1, exponent.1⟩, exponent.2) := by
  cases cs with
  | nil => exact ⟨false, [], .refl [], List.suffix_refl [], rfl⟩
  | cons c cs =>
      by_cases hminus : c = '-'
      · subst c
        exact ⟨true, cs, .cons rfl (.refl cs), List.suffix_cons _ _, rfl⟩
      · refine ⟨false, c :: cs, .refl _, List.suffix_refl _, ?_⟩
        simp [readNumeral?, hminus]

/-- A number is skimmed, and its digits before the point are a row of the text. -/
theorem readNumeral?_skims {n : Numeral} (h : readNumeral? cs = some (n, rest)) :
    Skims cs rest ∧ n.whole <:+: cs ∧ ∀ d ∈ n.whole, d.isDigit = true := by
  obtain ⟨negative, body, hsign, hsuffix, hbody⟩ := readNumeral?_body cs
  rw [hbody] at h
  have hwhole : (if body.head? = some '0' then ['0'] else body.takeWhile Char.isDigit) <+: body ∧
      ∀ d ∈ (if body.head? = some '0' then ['0'] else body.takeWhile Char.isDigit),
        d.isDigit = true := by
    split
    · rename_i hzero
      refine ⟨?_, List.forall_mem_singleton.mpr rfl⟩
      cases body with
      | nil => cases hzero
      | cons c body =>
          obtain rfl : c = '0' := Option.some.inj hzero
          exact ⟨body, rfl⟩
    · exact ⟨List.takeWhile_prefix _, fun d hd => List.mem_takeWhile_imp hd⟩
  simp only at h
  generalize (if body.head? = some '0' then ['0'] else body.takeWhile Char.isDigit) = whole
    at h hwhole
  obtain ⟨hfront, hdigits⟩ := hwhole
  split at h
  · cases h
  · simp only [Option.some.injEq, Prod.mk.injEq] at h
    obtain ⟨rfl, rfl⟩ := h
    have hbehind : Skims body (body.drop whole.length) := by
      obtain ⟨behind, rfl⟩ := hfront
      exact ⟨whole, by rw [List.drop_left], fun d hd => not_mark_of_isDigit (hdigits d hd)⟩
    refine ⟨?_, hfront.isInfix.trans hsuffix.isInfix, hdigits⟩
    exact ((hsign.trans hbehind).trans (skims_readFraction _)).trans (skims_readExponent _)

/-- Fewer digits than the limit make an integer within it. -/
theorem decimalValue_lt {ds : List Char} (hds : ∀ d ∈ ds, d.isDigit = true) :
    decimalValue ds < 10 ^ ds.length := by
  induction ds using List.reverseRecOn with
  | nil => decide
  | append_singleton ds d ih =>
      obtain ⟨hds, hd⟩ := List.forall_mem_append.mp hds
      have hdigit : d.toNat - 0x30 < 10 := by
        have hd := List.forall_mem_singleton.mp hd
        simp only [Char.isDigit, Bool.and_eq_true, decide_eq_true_eq] at hd
        have hhigh : d.toNat ≤ 57 := hd.2
        omega
      have hone : decimalValue [d] = d.toNat - 0x30 := by
        show 10 * 0 + (d.toNat - 0x30) = _
        omega
      have := ih hds
      rw [decimalValue_append, hone, List.length_append, List.length_singleton, Nat.pow_succ]
      omega

/-- What a number stands for is readable, unless its digits are too many. -/
theorem Numeral.value_answers {n : Numeral} (hdigits : ∀ d ∈ n.whole, d.isDigit = true)
    (room : Nat) :
    (∃ v, n.value = .ok v ∧ Readable room v) ∨
      (n.value = .error .integerTooLong ∧ Decimal.digitLimit < n.whole.length) := by
  unfold Numeral.value
  split
  · split
    · exact .inr ⟨rfl, ‹_›⟩
    · rename_i hlimit
      have hvalue : decimalValue n.whole < 10 ^ Decimal.digitLimit :=
        (decimalValue_lt hdigits).trans_le
          (Nat.pow_le_pow_right (by decide) (Nat.le_of_not_lt hlimit))
      refine .inl ⟨_, rfl, .int ?_⟩
      rw [tenPow_eq]
      split
      · rw [Int.natAbs_neg]
        exact hvalue
      · exact hvalue
  · exact .inl ⟨_, rfl, .float (Binary64.regular_ofDecimal ..)⟩

theorem readable_wordValues (room : Nat) {w : String} {v : Value}
    (h : (w, v) ∈ wordValues) :
    Readable room v ∧ ∀ c ∈ w.toList, isMark c = false := by
  simp only [wordValues, List.mem_cons, Prod.mk.injEq, List.not_mem_nil, or_false] at h
  rcases h with ⟨rfl, rfl⟩ | ⟨rfl, rfl⟩ | ⟨rfl, rfl⟩ | ⟨rfl, rfl⟩ | ⟨rfl, rfl⟩ | ⟨rfl, rfl⟩
  · exact ⟨.null, by simp [isMark]⟩
  · exact ⟨.bool true, by simp [isMark]⟩
  · exact ⟨.bool false, by simp [isMark]⟩
  · exact ⟨.float .notANumber, by simp [isMark]⟩
  · exact ⟨.float (Binary64.regular_infinity false), by simp [isMark]⟩
  · exact ⟨.float (Binary64.regular_infinity true), by simp [isMark]⟩

/-- **What is read as a word or a number.** -/
theorem answers_readScalar (room : Nat) (cs : List Char) :
    Answers 0 room (Readable room) cs (readScalar cs) := by
  unfold readScalar
  split
  · rename_i r hword
    obtain ⟨v, rest⟩ := r
    obtain ⟨⟨w, v'⟩, hmem, hafter⟩ := List.exists_of_findSome?_eq_some hword
    simp only [Option.map_eq_some_iff, Prod.mk.injEq] at hafter
    obtain ⟨rest', hafter, rfl, rfl⟩ := hafter
    obtain ⟨hreadable, hmarks⟩ := readable_wordValues room hmem
    refine ⟨hreadable, Skims.passes ?_⟩
    unfold afterWord? at hafter
    split at hafter
    · rename_i hfront
      obtain ⟨behind, rfl⟩ := List.isPrefixOf_iff_prefix.mp hfront
      cases hafter
      exact ⟨w.toList, by rw [← String.length_toList, List.drop_left], hmarks⟩
    · cases hafter
  · split
    · rename_i n rest hnumeral
      obtain ⟨hskims, hinfix, hdigits⟩ := readNumeral?_skims hnumeral
      rcases Numeral.value_answers hdigits room with ⟨v, hv, hreadable⟩ | ⟨herror, hlong⟩
      · rw [hv]
        exact ⟨hreadable, hskims.passes⟩
      · rw [herror]
        exact ⟨n.whole, hinfix, hdigits, hlong⟩
    · trivial

end Scalars

/-! ## Values -/

section Values

variable {fuel : Nat}

/-- What is asked of the reader of items and of that of fields. -/
structure ReadsParts (fuel : Nat) : Prop where
  items : ∀ room cs,
    Answers 1 room (fun vs => ∀ v ∈ vs, Readable room v) cs (readItems fuel room cs)
  fields : ∀ room before cs, (OrderedMap.names before).Nodup → (∀ f ∈ before, Readable room f.2) →
    Answers 1 room (fun fs => (OrderedMap.names fs).Nodup ∧ ∀ f ∈ fs, Readable room f.2) cs
      (readFields fuel room before cs)

/-- A value, if its parts are read one step of fuel later. -/
theorem answers_readValue (h : ReadsParts fuel) (room : Nat) (cs : List Char) :
    Answers 0 room (Readable room) cs (readValue (fuel + 1) room cs) := by
  unfold readValue
  split
  · split
    · rename_i hstring
      exact ⟨.text _, passes_string hstring⟩
    · trivial
  · exact nestsBeyond_zero (.inl rfl) _
  · exact nestsBeyond_zero (.inr rfl) _
  · rename_i rest room
    have hgaps := (skims_skipGaps rest).passes
    split
    · rename_i behind hclosed
      rw [hclosed] at hgaps
      exact ⟨.list (by simp), .opened (.inl rfl) (hgaps.trans (.closed (.inl rfl) behind))⟩
    · have hitems := (h.items room (skipGaps rest)).behind hgaps
      cases hread : readItems fuel room (skipGaps rest) with
      | error e =>
          rw [hread] at hitems
          exact Explains.opened (.inl rfl) hitems
      | ok r =>
          rw [hread] at hitems
          exact ⟨.list hitems.1, .opened (.inl rfl) hitems.2⟩
  · rename_i rest room
    have hgaps := (skims_skipGaps rest).passes
    split
    · rename_i behind hclosed
      rw [hclosed] at hgaps
      exact ⟨.object List.nodup_nil (by simp),
        .opened (.inr rfl) (hgaps.trans (.closed (.inr rfl) behind))⟩
    · have hfields := (h.fields room [] (skipGaps rest) List.nodup_nil (by simp)).behind hgaps
      cases hread : readFields fuel room [] (skipGaps rest) with
      | error e =>
          rw [hread] at hfields
          exact Explains.opened (.inr rfl) hfields
      | ok r =>
          rw [hread] at hfields
          exact ⟨.object hfields.1.1 hfields.1.2, .opened (.inr rfl) hfields.2⟩
  · exact answers_readScalar room _

/-- Text that is passed over as far as a comma, and the gaps behind that. -/
theorem Passes.comma {cs rest behind : List Char} (h : Passes 0 cs rest)
    (hgap : skipGaps rest = ',' :: behind) : Passes 0 cs (skipGaps behind) := by
  have hgaps : Skims rest (',' :: behind) := hgap ▸ skims_skipGaps rest
  exact h.trans ((hgaps.trans (.cons rfl (.refl behind))).trans (skims_skipGaps behind)).passes

/-- The items of a list, if values and further items are read. -/
theorem answers_readItems
    (hvalue : ∀ room cs, Answers 0 room (Readable room) cs (readValue fuel room cs))
    (hparts : ReadsParts fuel) (room : Nat) (cs : List Char) :
    Answers 1 room (fun vs => ∀ v ∈ vs, Readable room v) cs (readItems (fuel + 1) room cs) := by
  have hv := hvalue room cs
  rw [readItems]
  cases hread : readValue fuel room cs with
  | error e =>
      rw [hread] at hv
      exact hv
  | ok r =>
      obtain ⟨v, rest⟩ := r
      rw [hread] at hv
      obtain ⟨hreadable, hpasses⟩ := hv
      simp only [bind, Except.bind]
      split
      · rename_i behind hcomma
        have hpasses := hpasses.comma hcomma
        have hitems := (hparts.items room (skipGaps behind)).behind hpasses
        cases hnext : readItems fuel room (skipGaps behind) with
        | error e =>
            rw [hnext] at hitems
            exact hitems
        | ok r =>
            rw [hnext] at hitems
            exact ⟨List.forall_mem_cons.mpr ⟨hreadable, hitems.1⟩, hitems.2⟩
      · rename_i behind hclosed
        have hgaps : Skims rest (']' :: behind) := hclosed ▸ skims_skipGaps rest
        exact ⟨List.forall_mem_singleton.mpr hreadable,
          (hpasses.trans hgaps.passes).trans (.closed (.inl rfl) behind)⟩
      · trivial

/-- The fields of an object, if values and further fields are read. -/
theorem answers_readFields
    (hvalue : ∀ room cs, Answers 0 room (Readable room) cs (readValue fuel room cs))
    (hparts : ReadsParts fuel) (room : Nat) (before : OrderedMap String Value) (cs : List Char)
    (hnames : (OrderedMap.names before).Nodup) (hbefore : ∀ f ∈ before, Readable room f.2) :
    Answers 1 room (fun fs => (OrderedMap.names fs).Nodup ∧ ∀ f ∈ fs, Readable room f.2) cs
      (readFields (fuel + 1) room before cs) := by
  unfold readFields
  split
  · rename_i rest
    split
    · trivial
    · rename_i name rest' hstring
      split
      · rename_i behind hcolon
        have hgaps : Skims rest' (':' :: behind) := hcolon ▸ skims_skipGaps rest'
        have hname : Passes 0 ('"' :: rest) (skipGaps behind) := (passes_string hstring).trans
          ((hgaps.trans (.cons rfl (.refl behind))).trans (skims_skipGaps behind)).passes
        have hv := (hvalue room (skipGaps behind)).behind hname
        cases hread : readValue fuel room (skipGaps behind) with
        | error e =>
            rw [hread] at hv
            exact hv
        | ok r =>
            obtain ⟨v, after⟩ := r
            rw [hread] at hv
            obtain ⟨hreadable, hpasses⟩ := hv
            have hnames' := OrderedMap.nodup_put hnames (String.ofList name) v
            have hfields' := OrderedMap.forall_put hbefore (String.ofList name) hreadable
            simp only [bind, Except.bind]
            split
            · rename_i next hcomma
              exact (hparts.fields room _ (skipGaps next) hnames' hfields').behind
                (hpasses.comma hcomma)
            · rename_i next hclosed
              have hgaps : Skims after ('\x7d' :: next) := hclosed ▸ skims_skipGaps after
              exact ⟨⟨hnames', hfields'⟩,
                (hpasses.trans hgaps.passes).trans (.closed (.inr rfl) next)⟩
            · trivial
      · trivial
  · trivial

/-- **What the readers answer**, whatever the text and the fuel. -/
theorem reads (fuel : Nat) :
    (∀ room cs, Answers 0 room (Readable room) cs (readValue fuel room cs)) ∧ ReadsParts fuel := by
  induction fuel with
  | zero => exact ⟨fun _ _ => trivial, fun _ _ => trivial, fun _ _ _ _ _ => trivial⟩
  | succ fuel ih =>
      obtain ⟨hvalue, hparts⟩ := ih
      exact ⟨answers_readValue hparts, answers_readItems hvalue hparts,
        answers_readFields hvalue hparts⟩

end Values

/-! ## Whole texts -/

section Texts

variable {room : Nat} {text : String}

/-- What the reader answers about a text is what it answers behind its gaps. -/
theorem read_explains :
    (∀ v, read room text = .ok v → Readable room v) ∧
      ∀ e, read room text = .error e → Explains room text.toList e := by
  have hgaps := (skims_skipGaps text.toList).passes
  have hvalue := ((reads ((skipGaps text.toList).length + 1)).1 room
    (skipGaps text.toList)).behind hgaps
  unfold read
  simp only
  cases hread : readValue ((skipGaps text.toList).length + 1) room
    (skipGaps text.toList) with
  | error e =>
      rw [hread] at hvalue
      refine ⟨(fun v h => by cases h), ?_⟩
      intro e' h
      obtain rfl : e = e' := Except.error.inj h
      exact hvalue
  | ok r =>
      rw [hread] at hvalue
      simp only [bind, Except.bind]
      split
      · refine ⟨?_, fun e h => by cases h⟩
        intro v h
        obtain rfl : r.1 = v := Except.ok.inj h
        exact hvalue.1
      · refine ⟨(fun v h => by cases h), ?_⟩
        intro e h
        obtain rfl : ReadError.malformed = e := Except.error.inj h
        trivial

/-- **A value that is read is readable.** -/
theorem readable_of_read {v : Value} (h : read room text = .ok v) : Readable room v :=
  read_explains.1 v h

/-- **An integer that is too long** is a row of digits of the text. -/
theorem hasLongRow_of_read (h : read room text = .error .integerTooLong) : HasLongRow text.toList :=
  read_explains.2 _ h

/-- **What lies too deep** is open in the text. -/
theorem nestsBeyond_of_read (h : read room text = .error .tooDeep) :
    NestsBeyond room text.toList :=
  read_explains.2 _ h

end Texts

end QueryDesk.Json
