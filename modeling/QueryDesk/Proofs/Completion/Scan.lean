import QueryDesk.Proofs.Completion.Occurrence

/-!
# What the scan takes

The references of a text are those of the occurrences that a reader takes who
goes from left to right, takes the leftmost occurrence, and goes on behind its
table text, and behind a parenthesis that follows it at once.  `Taken` says this
without the scan: on positions of the whole text, where the next occurrence is
the first one of all that start no earlier.  An occurrence can only be passed
over if it starts within a table text that was taken, because neither a keyword
nor blanks nor a parenthesis leaves room for the start of another one.

## Main results

* `Taken.unique` — what is taken is determined by the text.
* `Taken.mem_or_inside` — what is passed over starts within a taken table text.
* `scan_taken` — the scan makes one reference of each occurrence that is taken
  and is not a call.
* `references_of_taken` — the references of every text.
-/

namespace QueryDesk.Completion

open Text

/-! ## Occurrences in a text -/

/-- The parts of a text around a keyword and a table text. -/
structure Occurrence where
  before : List Char
  keyword : List Char
  gap : List Char
  table : List Char
  rest : List Char
  deriving DecidableEq, Repr

namespace Occurrence

/-- Where the keyword starts. -/
def start (o : Occurrence) : Nat := o.before.length

/-- Where the table text starts. -/
def tableStart (o : Occurrence) : Nat := o.start + o.keyword.length + o.gap.length

/-- Where the table text ends. -/
def tableStop (o : Occurrence) : Nat := o.tableStart + o.table.length

/-- Whether the table text is the name of a function that is called. -/
def isCall (o : Occurrence) : Bool := o.rest.head? = some '('

/-- Where a reader goes on who has taken the occurrence. -/
def resume (o : Occurrence) : Nat := if o.isCall then o.tableStop + 1 else o.tableStop

/-- An occurrence in a text: its parts make up the text, and no word goes over
into the keyword. -/
structure In (o : Occurrence) (cs : List Char) : Prop where
  text : cs = o.before ++ (o.keyword ++ (o.gap ++ (o.table ++ o.rest)))
  boundary : ∀ c ∈ o.before.getLast?, isWord c = false
  leads : Leads o.keyword o.gap o.table o.rest

end Occurrence

/-- Whether a text ends with a word character. -/
def endsInWord (cs : List Char) : Bool := cs.getLast?.any isWord

theorem endsInWord_eq_false {cs : List Char} :
    endsInWord cs = false ↔ ∀ c ∈ cs.getLast?, isWord c = false := by
  unfold endsInWord
  cases cs.getLast? with
  | none => simp
  | some c => simp

@[simp] theorem endsInWord_concat (cs : List Char) (c : Char) :
    endsInWord (cs ++ [c]) = isWord c := by
  simp [endsInWord]

section Parts

variable {before suffix table rest : List Char} {o o' : Occurrence} {cs : List Char}

/-- What the reader finds behind a word boundary is an occurrence there. -/
theorem exists_in_of_occurrence? (hbefore : endsInWord before = false)
    (h : occurrence? suffix = some (table, rest)) :
    ∃ o : Occurrence, o.In (before ++ suffix) ∧ o.before = before ∧ o.table = table ∧
      o.rest = rest := by
  obtain ⟨keyword, gap, rfl, hleads⟩ := occurrence?_eq_some.mp h
  exact ⟨⟨before, keyword, gap, table, rest⟩, ⟨rfl, endsInWord_eq_false.mp hbefore, hleads⟩, rfl,
    rfl, rfl⟩

/-- The reader finds an occurrence where it starts. -/
theorem Occurrence.In.occurrence?_eq (h : o.In (before ++ suffix))
    (hstart : o.start = before.length) :
    o.before = before ∧ endsInWord before = false ∧
      occurrence? suffix = some (o.table, o.rest) := by
  obtain ⟨hbefore, hsuffix⟩ := List.append_inj h.text hstart.symm
  refine ⟨hbefore.symm, ?_, ?_⟩
  · rw [hbefore]
    exact endsInWord_eq_false.mpr h.boundary
  · exact occurrence?_eq_some.mpr ⟨o.keyword, o.gap, hsuffix, h.leads⟩

/-- **An occurrence is determined by where it starts.** -/
theorem Occurrence.In.unique (h : o.In cs) (h' : o'.In cs) (hstart : o.start = o'.start) :
    o = o' := by
  obtain ⟨before, keyword, gap, table, rest⟩ := o
  obtain ⟨before', keyword', gap', table', rest'⟩ := o'
  have htext : before ++ (keyword ++ (gap ++ (table ++ rest))) =
      before' ++ (keyword' ++ (gap' ++ (table' ++ rest'))) := h.text.symm.trans h'.text
  obtain ⟨rfl, hfront⟩ := List.append_inj htext hstart
  -- The reader finds both at the same place, so the table texts agree.
  have hread := occurrence?_eq_some.mpr ⟨keyword, gap, rfl, h.leads⟩
  have hread' := occurrence?_eq_some.mpr ⟨keyword', gap', hfront, h'.leads⟩
  obtain ⟨rfl, rfl⟩ := Prod.mk.inj (Option.some.inj (hread.symm.trans hread'))
  have hkeyword : keyword.length = keyword'.length :=
    h.leads.keyword.length_eq.trans h'.leads.keyword.length_eq.symm
  obtain ⟨rfl, hgap⟩ := List.append_inj hfront hkeyword
  rw [List.append_cancel_right hgap]

end Parts

/-! ## Where an occurrence can start -/

namespace Occurrence.In

variable {o o' : Occurrence} {cs : List Char}

/-- The characters of an occurrence, by their place behind its start. -/
theorem getElem?_add (h : o.In cs) (i : Nat) :
    cs[o.start + i]? = (o.keyword ++ (o.gap ++ (o.table ++ o.rest)))[i]? := by
  rw [h.text, Occurrence.start, List.getElem?_append_right (Nat.le_add_right _ _),
    Nat.add_sub_cancel_left]

/-- At the start stands a word character that is no blank. -/
theorem isWord_start (h : o.In cs) : ∃ c, cs[o.start]? = some c ∧ isWord c = true ∧ c ≠ '(' := by
  have hstart := h.getElem?_add 0
  obtain ⟨c, word, hword⟩ : ∃ c word, o.keyword = c :: word :=
    List.exists_cons_of_length_pos (by rw [h.leads.keyword.length_eq]; omega)
  have hc : isWord c = true := h.leads.keyword.isWord c (hword ▸ List.mem_cons_self)
  refine ⟨c, ?_, hc, ?_⟩
  · simpa [hword] using hstart
  · rintro rfl
    revert hc
    decide

/-- Before the start stands no word character. -/
theorem isWord_before (h : o.In cs) {i : Nat} (hi : o.start = i + 1) {c : Char}
    (hc : cs[i]? = some c) : isWord c = false := by
  refine h.boundary c ?_
  have hlength : o.before.length = i + 1 := hi
  rw [h.text, List.getElem?_append_left (by omega)] at hc
  rw [List.getLast?_eq_getElem?, hlength]
  exact hc

theorem length_le (h : o.In cs) : o.tableStop ≤ cs.length := by
  rw [h.text]
  simp only [Occurrence.tableStop, Occurrence.tableStart, Occurrence.start, List.length_append]
  omega

/-- **No occurrence starts within a keyword, blanks or a parenthesis** of
another one, so one that starts before the reader goes on starts within the
table text. -/
theorem inside_of_lt_resume (h : o.In cs) (h' : o'.In cs) (hlt : o.start < o'.start)
    (hresume : o'.start < o.resume) : o.tableStart ≤ o'.start ∧ o'.start < o.tableStop := by
  obtain ⟨c, hc, hword, hparen⟩ := h'.isWord_start
  obtain ⟨i, hi⟩ : ∃ i, o'.start = o.start + (i + 1) := ⟨o'.start - o.start - 1, by omega⟩
  have hbefore := h.getElem?_add i
  rw [hi, h.getElem?_add] at hc
  constructor
  · by_contra hearly
    rw [Nat.not_le, hi, Occurrence.tableStart] at hearly
    by_cases hkeyword : i + 1 ≤ o.keyword.length
    · -- The character before it would be a letter of the keyword.
      obtain ⟨letter, hletter⟩ : ∃ letter, o.keyword[i]? = some letter :=
        ⟨_, List.getElem?_eq_getElem (by omega)⟩
      rw [List.getElem?_append_left (by omega), hletter] at hbefore
      have hnot := h'.isWord_before (by omega) hbefore
      rw [h.leads.keyword.isWord letter (List.mem_of_getElem? hletter)] at hnot
      cases hnot
    · -- It would start with a blank.
      rw [List.getElem?_append_right (by omega), List.getElem?_append_left (by omega)] at hc
      have hblank := h.leads.gap.all c (List.mem_of_getElem? hc)
      rw [isBlank_eq_false_of_isWord hword] at hblank
      cases hblank
  · by_contra hlate
    rw [Nat.not_lt] at hlate
    unfold Occurrence.resume at hresume
    split at hresume
    · rename_i hcall
      -- It would start with the parenthesis.
      have hrest : o.rest.head? = some '(' := by simpa [Occurrence.isCall] using hcall
      have hplace : i + 1 = o.keyword.length + (o.gap.length + (o.table.length + 0)) := by
        simp only [Occurrence.tableStop, Occurrence.tableStart] at hlate hresume
        omega
      rw [hplace, List.getElem?_append_right (by omega), Nat.add_sub_cancel_left,
        List.getElem?_append_right (by omega), Nat.add_sub_cancel_left,
        List.getElem?_append_right (by omega), Nat.add_sub_cancel_left, ← List.head?_eq_getElem?,
        hrest] at hc
      exact hparen (Option.some.inj hc).symm
    · omega

end Occurrence.In

/-! ## The occurrences that are taken -/

/-- What a reader takes who goes from left to right from a position: the first
occurrence that starts there or behind, and then what is taken from where it
lets the reader go on. -/
inductive Taken (cs : List Char) : Nat → List Occurrence → Prop where
  | done {position : Nat} (none : ∀ o : Occurrence, o.In cs → o.start < position) :
      Taken cs position []
  | take {position : Nat} {o : Occurrence} {os : List Occurrence} (occurs : o.In cs)
      (le_start : position ≤ o.start)
      (leftmost : ∀ o' : Occurrence, o'.In cs → position ≤ o'.start → o.start ≤ o'.start)
      (others : Taken cs o.resume os) : Taken cs position (o :: os)

namespace Taken

variable {cs : List Char} {position : Nat} {os os' : List Occurrence}

/-- **What is taken is determined by the text.** -/
theorem unique (h : Taken cs position os) (h' : Taken cs position os') : os = os' := by
  induction h generalizing os' with
  | done hnone =>
      cases h' with
      | done _ => rfl
      | take hin hle _ _ => exact absurd (hnone _ hin) (Nat.not_lt.mpr hle)
  | take hin hle hleftmost _ ih =>
      cases h' with
      | done hnone => exact absurd (hnone _ hin) (Nat.not_lt.mpr hle)
      | take hin' hle' hleftmost' others' =>
          have hstart := Nat.le_antisymm (hleftmost _ hin' hle') (hleftmost' _ hin hle)
          obtain rfl := hin.unique hin' hstart
          rw [ih others']

/-- Where no occurrence starts, the reader may go on by one. -/
theorem skip (h : Taken cs (position + 1) os)
    (hnone : ∀ o : Occurrence, o.In cs → o.start ≠ position) : Taken cs position os := by
  have hstep : ∀ o : Occurrence, o.In cs → position ≤ o.start → position + 1 ≤ o.start :=
    fun o hin hle => Nat.lt_of_le_of_ne hle (hnone o hin).symm
  cases h with
  | done hdone =>
      refine .done fun o hin => ?_
      have := hdone o hin
      have := hnone o hin
      omega
  | take hin hle hleftmost others =>
      exact .take hin (by omega) (fun o' hin' hle' => hleftmost o' hin' (hstep o' hin' hle')) others

theorem in_of_mem (h : Taken cs position os) : ∀ o ∈ os, o.In cs := by
  induction h with
  | done _ => simp
  | take hin _ _ _ ih => exact List.forall_mem_cons.mpr ⟨hin, ih⟩

/-- **An occurrence is passed over only if it starts within the table text of
one that was taken.** -/
theorem mem_or_inside (h : Taken cs position os) {o : Occurrence} (hin : o.In cs)
    (hle : position ≤ o.start) :
    o ∈ os ∨ ∃ a ∈ os, a.tableStart ≤ o.start ∧ o.start < a.tableStop := by
  induction h with
  | done hnone => exact absurd (hnone o hin) (Nat.not_lt.mpr hle)
  | @take position a os ha hpos hleftmost _ ih =>
      have hstart : a.start ≤ o.start := hleftmost o hin hle
      by_cases heq : a.start = o.start
      · exact .inl (ha.unique hin heq ▸ List.mem_cons_self)
      · by_cases hresume : a.resume ≤ o.start
        · rcases ih hresume with hmem | ⟨b, hb, hinside⟩
          · exact .inl (List.mem_cons_of_mem _ hmem)
          · exact .inr ⟨b, List.mem_cons_of_mem _ hb, hinside⟩
        · exact .inr ⟨a, List.mem_cons_self, ha.inside_of_lt_resume hin (by omega) (by omega)⟩

end Taken

/-! ## The scan -/

theorem scan_of_none {inWord : Bool} {c : Char} {cs : List Char}
    (h : inWord = true ∨ occurrence? (c :: cs) = none) :
    scan inWord (c :: cs) = scan (isWord c) cs := by
  rw [scan]
  split
  · rfl
  · split
    · rfl
    · rename_i hfalse table rest hsome
      rcases h with hword | hnone
      · exact absurd hword hfalse
      · rw [hnone] at hsome
        cases hsome

theorem scan_of_some {cs table rest : List Char} (h : occurrence? cs = some (table, rest)) :
    scan false cs =
      if rest.head? = some '(' then scan false rest.tail
      else referenceTo table rest :: scan false rest := by
  cases cs with
  | nil =>
      have := occurrence?_length h
      simp at this
  | cons c cs =>
      rw [scan, if_neg Bool.false_ne_true]
      split
      · rename_i hnone
        rw [h] at hnone
        cases hnone
      · rename_i table' rest' hsome
        obtain ⟨rfl, rfl⟩ := Prod.mk.inj (Option.some.inj (h.symm.trans hsome))
        rfl

theorem isTableChar_of_isWord {c : Char} (h : isWord c = true) : isTableChar c = true := by
  have hblank := isBlank_eq_false_of_isWord h
  have hne : ∀ d ∈ ['.', '(', ')', ',', ';'], c ≠ d := by
    rintro d hd rfl
    have hnot : ['.', '(', ')', ',', ';'].all (fun d => !isWord d) = true := by decide
    have hword : (!isWord c) = true := List.all_eq_true.mp hnot c hd
    rw [h] at hword
    cases hword
  simp only [List.mem_cons, List.not_mem_nil, or_false, forall_eq_or_imp, forall_eq] at hne
  simp [isTableChar, hblank, hne]

/-- Behind a table text no occurrence starts at once. -/
theorem TableText.occurrence?_eq_none {table rest : List Char} (h : TableText table rest) :
    occurrence? rest = none := by
  rw [Option.eq_none_iff_forall_ne_some]
  rintro ⟨table', rest'⟩ hsome
  obtain ⟨keyword, gap, hrest, hleads⟩ := occurrence?_eq_some.mp hsome
  obtain ⟨c, word, hword⟩ : ∃ c word, keyword = c :: word :=
    List.exists_cons_of_length_pos (by rw [hleads.keyword.length_eq]; omega)
  have hc : isWord c = true := hleads.keyword.isWord c (hword ▸ List.mem_cons_self)
  have hstop := h.stop c (by rw [hrest, hword]; rfl)
  rw [isTableChar_of_isWord hc] at hstop
  cases hstop

theorem scan_congr {cs : List Char} (h : occurrence? cs = none) (b b' : Bool) :
    scan b cs = scan b' cs := by
  cases cs with
  | nil => rw [scan, scan]
  | cons c cs => rw [scan_of_none (.inr h), scan_of_none (.inr h)]

/-- The reference of an occurrence. -/
def Occurrence.reference (o : Occurrence) : Reference := referenceTo o.table o.rest

/-- The references of the occurrences that are no calls. -/
def referencesOf (os : List Occurrence) : List Reference :=
  (os.filter (!·.isCall)).map Occurrence.reference

theorem referencesOf_append (os os' : List Occurrence) :
    referencesOf (os ++ os') = referencesOf os ++ referencesOf os' := by
  simp [referencesOf]

/-! ### One occurrence -/

namespace Occurrence

/-- What a reader has behind who has taken the occurrence. -/
def consumed (o : Occurrence) : List Char :=
  o.before ++ o.keyword ++ o.gap ++ o.table ++ if o.isCall then ['('] else []

/-- What such a reader has ahead. -/
def remaining (o : Occurrence) : List Char := if o.isCall then o.rest.tail else o.rest

theorem length_consumed (o : Occurrence) : o.consumed.length = o.resume := by
  unfold consumed resume
  split
  · simp only [List.length_append, List.length_singleton, tableStop, tableStart, start]
  · simp only [List.length_append, List.length_nil, tableStop, tableStart, start, Nat.add_zero]

theorem exists_rest_of_isCall {o : Occurrence} (h : o.isCall = true) :
    o.rest = '(' :: o.rest.tail := by
  have hhead : o.rest.head? = some '(' := by simpa [isCall] using h
  obtain ⟨more, hmore⟩ := List.head?_eq_some_iff.mp hhead
  rw [hmore]
  rfl

theorem In.consumed_append {o : Occurrence} {cs : List Char} (h : o.In cs) :
    o.consumed ++ o.remaining = cs := by
  rw [h.text]
  unfold consumed remaining
  split
  · rename_i hcall
    conv_rhs => rw [exists_rest_of_isCall hcall]
    simp only [List.append_assoc, List.singleton_append]
  · simp only [List.append_assoc, List.append_nil]

theorem length_remaining_le (o : Occurrence) : o.remaining.length ≤ o.rest.length := by
  unfold remaining
  split
  · rw [List.length_tail]
    omega
  · exact Nat.le_refl _

/-- **The scan of an occurrence**: it gives its reference, unless it is a call,
and goes on with what remains. -/
theorem scan_eq {o : Occurrence} {cs suffix : List Char} (hin : o.In cs)
    (hsome : occurrence? suffix = some (o.table, o.rest)) :
    scan false suffix = referencesOf [o] ++ scan (endsInWord o.consumed) o.remaining := by
  rw [scan_of_some hsome]
  by_cases hcall : o.isCall = true
  · have hhead : o.rest.head? = some '(' := by simpa [isCall] using hcall
    have hword : endsInWord o.consumed = false := by
      rw [consumed, if_pos hcall, endsInWord_concat]
      decide
    rw [if_pos hhead, hword, remaining, if_pos hcall, referencesOf,
      List.filter_cons_of_neg (by simp [hcall])]
    rfl
  · have hhead : ¬ o.rest.head? = some '(' := by simpa [isCall] using hcall
    rw [if_neg hhead, remaining, if_neg hcall, referencesOf,
      List.filter_cons_of_pos (by simp [hcall]),
      scan_congr hin.leads.table.occurrence?_eq_none false (endsInWord o.consumed)]
    rfl

end Occurrence

/-! ### All occurrences -/

/-- **The scan makes one reference of each occurrence that is taken** and is not
a call.  Of the text before it only the last character counts. -/
theorem scan_taken (before suffix : List Char) :
    ∃ os, Taken (before ++ suffix) before.length os ∧
      scan (endsInWord before) suffix = referencesOf os := by
  induction hn : suffix.length using Nat.strong_induction_on generalizing before suffix with
  | _ n ih =>
    cases suffix with
    | nil =>
        refine ⟨[], .done fun o hin => ?_, by rw [scan]; rfl⟩
        have hstop := hin.length_le
        have hkeyword := hin.leads.keyword.length_eq
        simp only [Occurrence.tableStop, Occurrence.tableStart, List.append_nil] at hstop
        omega
    | cons c cs =>
        rw [List.length_cons] at hn
        by_cases hfound : endsInWord before = false ∧ ∃ found, occurrence? (c :: cs) = some found
        · obtain ⟨hword, ⟨table, rest⟩, hsome⟩ := hfound
          obtain ⟨o, hin, hbefore, rfl, rfl⟩ := exists_in_of_occurrence? hword hsome
          have hshort : o.remaining.length < n := by
            have hle := o.length_remaining_le
            have hlt := occurrence?_length hsome
            rw [List.length_cons] at hlt
            omega
          obtain ⟨os, htaken, hscan⟩ := ih _ hshort o.consumed o.remaining rfl
          rw [hin.consumed_append, o.length_consumed] at htaken
          have hstart : o.start = before.length := congrArg List.length hbefore
          refine ⟨o :: os, .take hin hstart.ge (fun o' _ hle => hstart.trans_le hle) htaken, ?_⟩
          rw [hword, o.scan_eq hin hsome, hscan, ← referencesOf_append, List.singleton_append]
        · -- No occurrence starts here: either a word goes on, or the reader finds none.
          obtain ⟨os, htaken, hscan⟩ := ih cs.length (by omega) (before ++ [c]) cs rfl
          rw [List.append_assoc, List.singleton_append, List.length_append,
            List.length_singleton] at htaken
          rw [endsInWord_concat] at hscan
          refine ⟨os, htaken.skip fun o hin hstart => ?_, ?_⟩
          · obtain ⟨-, hword, hsome⟩ := hin.occurrence?_eq hstart
            exact hfound ⟨hword, _, hsome⟩
          · rw [scan_of_none, hscan]
            cases hword : endsInWord before with
            | true => exact .inl rfl
            | false =>
                refine .inr (Option.eq_none_iff_forall_ne_some.mpr fun found hsome => ?_)
                exact hfound ⟨hword, found, hsome⟩

/-! ## References -/

/-- What a reference says of an occurrence: its table text, and the alias behind
it.  A word that cannot be an alias leaves the table with its own name. -/
structure Refers (o : Occurrence) (r : Reference) : Prop where
  table : r.table = String.ofList o.table
  name : (∃ word, AliasWord o.rest word ∧ lower (String.ofList word) ∉ aliasStopWords ∧
      r.name = String.ofList word) ∨
    (∀ word, AliasWord o.rest word → lower (String.ofList word) ∈ aliasStopWords) ∧
      r.name = r.table

theorem Refers.unique {o : Occurrence} {r r' : Reference} (h : Refers o r) (h' : Refers o r') :
    r = r' := by
  have htable : r.table = r'.table := h.table.trans h'.table.symm
  have hname : r.name = r'.name := by
    rcases h.name with ⟨word, hword, hnot, hname⟩ | ⟨hall, hname⟩
    · rcases h'.name with ⟨word', hword', -, hname'⟩ | ⟨hall', -⟩
      · rw [hname, hname', hword.unique hword']
      · exact absurd (hall' word hword) hnot
    · rcases h'.name with ⟨word', hword', hnot', -⟩ | ⟨-, hname'⟩
      · exact absurd (hall word' hword') hnot'
      · rw [hname, hname', htable]
  cases r
  cases r'
  exact congrArg₂ Reference.mk htable hname

theorem Occurrence.refers_reference (o : Occurrence) : Refers o o.reference := by
  unfold Occurrence.reference referenceTo
  cases halias : aliasWord? o.rest with
  | none =>
      refine ⟨rfl, .inr ⟨fun word hword => ?_, rfl⟩⟩
      rw [aliasWord?_eq_some.mpr hword] at halias
      cases halias
  | some word =>
      have hword : AliasWord o.rest word := aliasWord?_eq_some.mp halias
      simp only
      split
      · rename_i hstop
        exact ⟨rfl, .inr ⟨fun word' hword' => hword.unique hword' ▸ hstop, rfl⟩⟩
      · rename_i hnot
        exact ⟨rfl, .inl ⟨word, hword, hnot, rfl⟩⟩

/-- **An occurrence has one reference.** -/
theorem refers_iff {o : Occurrence} {r : Reference} : Refers o r ↔ o.reference = r :=
  ⟨fun h => o.refers_reference.unique h, fun h => h ▸ o.refers_reference⟩

/-- **The references of a text are those of the occurrences that are taken.**
For every text there is one list of occurrences that a reader takes from left to
right.  An occurrence that is not in it starts within the table text of one that
is.  And the references of the text are, in order, one for each of them whose
table text is not directly followed by a parenthesis, with its table text and
its alias. -/
theorem references_of_taken (sql : String) :
    ∃ os, Taken sql.toList 0 os ∧ (∀ os', Taken sql.toList 0 os' → os' = os) ∧
      (∀ o ∈ os, o.In sql.toList) ∧
      (∀ o : Occurrence, o.In sql.toList →
        o ∈ os ∨ ∃ a ∈ os, a.tableStart ≤ o.start ∧ o.start < a.tableStop) ∧
      ∀ refs, references sql = refs ↔ List.Forall₂ Refers (os.filter (!·.isCall)) refs := by
  obtain ⟨os, htaken, hscan⟩ := scan_taken [] sql.toList
  refine ⟨os, htaken, fun os' h => h.unique htaken, htaken.in_of_mem,
    fun o hin => htaken.mem_or_inside hin (Nat.zero_le _), fun refs => ?_⟩
  have hrefs : references sql = referencesOf os := hscan
  have hrefers : Refers = fun o r => o.reference = r := by
    funext o r
    exact propext refers_iff
  rw [hrefs, hrefers, ← List.forall₂_map_left_iff, List.forall₂_eq_eq_eq]
  rfl

-- The first table text is itself a keyword, and the second one is a call.
example : references "FROM join users JOIN g(1) JOIN a.b AS x WHERE" =
    [⟨"join", "users"⟩, ⟨"a.b", "x"⟩] := by decide +kernel

end QueryDesk.Completion
