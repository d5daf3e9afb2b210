import Mathlib.Data.List.Forall2
import Mathlib.Data.List.TakeWhile
import QueryDesk.Completion.Reference

/-!
# How a text names a table

What the scan for references looks for is said here as a grammar, by the parts
that a text is made of: a keyword in any case, blanks, a table text that is as
long as it can be, and behind it perhaps a word that could be the alias.  The
readers of the scan find these parts if they are there, and nothing else; each
theorem on a reader is an equivalence, so that the parts of a text are unique.

## Main results

* `occurrence?_eq_some` — the reader of an occurrence and its grammar.
* `aliasWord?_eq_some` — the reader of an alias and its grammar.
-/

namespace QueryDesk.Completion

open Text

/-! ## Runs of characters -/

/-- A longest run of characters at the front of a text, with what follows it. -/
structure Run (p : Char → Bool) (run rest : List Char) : Prop where
  ne_nil : run ≠ []
  all : ∀ c ∈ run, p c = true
  longest : ∀ c ∈ rest.head?, p c = false

section Runs

variable {p : Char → Bool} {run rest cs : List Char}

theorem takeWhile_eq_nil_iff : cs.takeWhile p = [] ↔ ∀ c ∈ cs.head?, p c = false := by
  cases cs with
  | nil => simp
  | cons c cs => cases hc : p c <;> simp [hc]

theorem head?_dropWhile (p : Char → Bool) (cs : List Char) :
    ∀ c ∈ (cs.dropWhile p).head?, p c = false := by
  intro c hc
  have hnot := List.head?_dropWhile_not p cs
  rw [hc] at hnot
  simpa using hnot

theorem takeWhile_append_of_stop (hall : ∀ c ∈ run, p c = true)
    (hstop : ∀ c ∈ rest.head?, p c = false) : (run ++ rest).takeWhile p = run := by
  rw [List.takeWhile_append_of_pos hall, takeWhile_eq_nil_iff.mpr hstop, List.append_nil]

theorem dropWhile_append_of_stop (hall : ∀ c ∈ run, p c = true)
    (hstop : ∀ c ∈ rest.head?, p c = false) : (run ++ rest).dropWhile p = rest := by
  have htake := takeWhile_append_of_stop hall hstop
  have hwhole := List.takeWhile_append_dropWhile (p := p) (l := run ++ rest)
  rw [htake] at hwhole
  exact List.append_cancel_left hwhole

/-- The first run of a text, unless it is empty. -/
theorem run_takeWhile (h : cs.takeWhile p ≠ []) : Run p (cs.takeWhile p) (cs.dropWhile p) where
  ne_nil := h
  all := fun _ hc => List.mem_takeWhile_imp hc
  longest := head?_dropWhile p cs

theorem Run.takeWhile (h : Run p run rest) : (run ++ rest).takeWhile p = run :=
  takeWhile_append_of_stop h.all h.longest

theorem Run.dropWhile (h : Run p run rest) : (run ++ rest).dropWhile p = rest :=
  dropWhile_append_of_stop h.all h.longest

/-- A text has one first run. -/
theorem run_iff : (cs = run ++ rest ∧ Run p run rest) ↔
    run ≠ [] ∧ cs.takeWhile p = run ∧ cs.dropWhile p = rest := by
  constructor
  · rintro ⟨rfl, h⟩
    exact ⟨h.ne_nil, h.takeWhile, h.dropWhile⟩
  · rintro ⟨hne, rfl, rfl⟩
    exact ⟨List.takeWhile_append_dropWhile.symm, run_takeWhile hne⟩

theorem Run.exists_head (h : Run p run rest) : ∃ c, (run ++ rest).head? = some c ∧ p c = true := by
  cases hrun : run with
  | nil => exact absurd hrun h.ne_nil
  | cons c cs => exact ⟨c, rfl, h.all c (hrun ▸ List.mem_cons_self)⟩

end Runs

/-- One or more blanks. -/
structure Blanks (gap : List Char) : Prop where
  ne_nil : gap ≠ []
  all : ∀ c ∈ gap, isBlank c = true

theorem afterBlanks?_eq_some {cs rest : List Char} :
    afterBlanks? cs = some rest ↔ ∃ gap, cs = gap ++ rest ∧ Run isBlank gap rest := by
  unfold afterBlanks?
  split
  · rename_i hnone
    rw [List.isEmpty_iff] at hnone
    constructor
    · intro h
      cases h
    · rintro ⟨gap, hgap⟩
      obtain ⟨hne, htake, -⟩ := run_iff.mp hgap
      exact absurd (htake.symm.trans hnone) hne
  · rename_i hsome
    rw [List.isEmpty_iff] at hsome
    rw [Option.some.injEq]
    constructor
    · rintro rfl
      exact ⟨cs.takeWhile isBlank, run_iff.mpr ⟨hsome, rfl, rfl⟩⟩
    · rintro ⟨gap, hgap⟩
      exact (run_iff.mp hgap).2.2

/-- Blanks before a text that does not begin with one are a run. -/
theorem Blanks.run {gap rest : List Char} (h : Blanks gap)
    (hstop : ∀ c ∈ rest.head?, isBlank c = false) : Run isBlank gap rest :=
  ⟨h.ne_nil, h.all, hstop⟩

theorem Run.blanks {gap rest : List Char} (h : Run isBlank gap rest) : Blanks gap :=
  ⟨h.ne_nil, h.all⟩

/-! ## Keywords -/

/-- A word that spells a keyword, given by its lower-case letters, in any case. -/
def Spells (letters word : List Char) : Prop :=
  List.Forall₂ (fun letter c => foldsTo c letter = true) letters word

theorem Spells.length_eq {letters word : List Char} (h : Spells letters word) :
    letters.length = word.length :=
  List.Forall₂.length_eq h

theorem afterKeyword?_eq_some {letters cs rest : List Char} :
    afterKeyword? letters cs = some rest ↔ ∃ word, cs = word ++ rest ∧ Spells letters word := by
  induction letters generalizing cs with
  | nil => simp [afterKeyword?, Spells]
  | cons letter letters ih =>
      cases cs with
      | nil =>
          constructor
          · intro h
            cases h
          · rintro ⟨word, hcs, hspells⟩
            obtain ⟨rfl, -⟩ := List.append_eq_nil_iff.mp hcs.symm
            cases hspells
      | cons c cs =>
          rw [afterKeyword?]
          split
          · rename_i hc
            rw [ih]
            constructor
            · rintro ⟨word, rfl, hspells⟩
              exact ⟨c :: word, rfl, .cons hc hspells⟩
            · rintro ⟨word, hcs, hspells⟩
              cases hspells with
              | cons hfirst hrest =>
                  obtain ⟨rfl, rfl⟩ := List.cons.inj hcs
                  exact ⟨_, rfl, hrest⟩
          · rename_i hc
            constructor
            · intro h
              cases h
            · rintro ⟨word, hcs, hspells⟩
              cases hspells with
              | cons hfirst hrest =>
                  obtain ⟨rfl, rfl⟩ := List.cons.inj hcs
                  exact absurd hfirst hc

/-- The letters of the keywords are spelled by word characters only. -/
theorem isWord_of_foldsTo {c letter : Char}
    (hletter : letter ∈ ['f', 'r', 'o', 'm', 'j', 'i', 'n', 'a', 's'])
    (h : foldsTo c letter = true) : isWord c = true := by
  have hlower : ['f', 'r', 'o', 'm', 'j', 'i', 'n', 'a', 's'].all isWord = true := by decide
  have hupper : ['f', 'r', 'o', 'm', 'j', 'i', 'n', 'a', 's'].all
      (fun letter => isWord letter.toUpper) = true := by decide
  simp only [foldsTo, Bool.or_eq_true, Bool.and_eq_true, decide_eq_true_eq] at h
  rcases h with (((rfl | rfl) | ⟨-, rfl | rfl⟩) | ⟨-, rfl⟩) | ⟨-, rfl⟩
  · exact List.all_eq_true.mp hlower _ hletter
  · exact List.all_eq_true.mp hupper _ hletter
  · decide
  · decide
  · decide
  · decide

theorem Spells.isWord {letters word : List Char} (h : Spells letters word)
    (hletters : letters ⊆ ['f', 'r', 'o', 'm', 'j', 'i', 'n', 'a', 's']) :
    ∀ c ∈ word, isWord c = true := by
  induction h with
  | nil => simp
  | cons hc _ ih =>
      obtain ⟨hletter, hrest⟩ := List.cons_subset.mp hletters
      intro c hmem
      rcases List.mem_cons.mp hmem with rfl | hmem
      · exact isWord_of_foldsTo hletter hc
      · exact ih hrest c hmem

/-- A word that spells `FROM` or `JOIN`. -/
def IsKeyword (word : List Char) : Prop :=
  Spells ['f', 'r', 'o', 'm'] word ∨ Spells ['j', 'o', 'i', 'n'] word

theorem IsKeyword.isWord {word : List Char} (h : IsKeyword word) : ∀ c ∈ word, isWord c = true := by
  rcases h with h | h
  · exact h.isWord (by decide)
  · exact h.isWord (by decide)

theorem IsKeyword.length_eq {word : List Char} (h : IsKeyword word) : word.length = 4 := by
  rcases h with h | h
  · exact h.length_eq.symm
  · exact h.length_eq.symm

/-- The two keywords differ in their first letter. -/
theorem not_join_of_from {word word' rest rest' : List Char}
    (hfrom : Spells ['f', 'r', 'o', 'm'] word) (hjoin : Spells ['j', 'o', 'i', 'n'] word') :
    word ++ rest ≠ word' ++ rest' := by
  cases hfrom with
  | cons hf _ =>
      cases hjoin with
      | cons hj _ =>
          intro h
          obtain ⟨rfl, -⟩ := List.cons.inj h
          simp only [foldsTo] at hf hj
          grind

/-! ## Table texts -/

/-- A table text with what follows it: a run, and a point with a second run
behind it if there is one. -/
inductive TableText : List Char → List Char → Prop where
  | simple {run rest : List Char} (first : Run isTableChar run rest)
      (undotted : ∀ more, rest = '.' :: more → ∀ c ∈ more.head?, isTableChar c = false) :
      TableText run rest
  | dotted {first second rest : List Char}
      (hfirst : Run isTableChar first ('.' :: (second ++ rest)))
      (hsecond : Run isTableChar second rest) : TableText (first ++ '.' :: second) rest

theorem TableText.exists_head {table rest : List Char} (h : TableText table rest) :
    ∃ c, table.head? = some c ∧ isTableChar c = true := by
  have hrun : ∀ {run rest : List Char}, Run isTableChar run rest →
      ∃ c cs, run = c :: cs ∧ isTableChar c = true := by
    intro run rest hrun
    obtain ⟨c, cs, hcs⟩ := List.exists_cons_of_ne_nil hrun.ne_nil
    exact ⟨c, cs, hcs, hrun.all c (hcs ▸ List.mem_cons_self)⟩
  cases h with
  | simple first _ =>
      obtain ⟨c, cs, rfl, hc⟩ := hrun first
      exact ⟨c, rfl, hc⟩
  | dotted hfirst _ =>
      obtain ⟨c, cs, rfl, hc⟩ := hrun hfirst
      exact ⟨c, rfl, hc⟩

/-- What follows a table text does not go on with it. -/
theorem TableText.stop {table rest : List Char} (h : TableText table rest) :
    ∀ c ∈ rest.head?, isTableChar c = false := by
  cases h with
  | simple first _ => exact first.longest
  | dotted _ hsecond => exact hsecond.longest

theorem tableText?_eq_some {cs table rest : List Char} :
    tableText? cs = some (table, rest) ↔ cs = table ++ rest ∧ TableText table rest := by
  constructor
  · intro h
    simp only [tableText?, List.isEmpty_iff] at h
    split at h
    · cases h
    · rename_i hne
      have hfirst : Run isTableChar (cs.takeWhile isTableChar) (cs.dropWhile isTableChar) :=
        run_takeWhile hne
      have hcs : cs = cs.takeWhile isTableChar ++ cs.dropWhile isTableChar :=
        List.takeWhile_append_dropWhile.symm
      split at h
      · rename_i more hmore
        rw [hmore] at hfirst hcs
        split at h
        · rename_i hnone
          obtain ⟨rfl, rfl⟩ := Prod.mk.inj (Option.some.inj h)
          refine ⟨hmore ▸ hcs, hmore ▸ .simple hfirst fun more' hmore' => ?_⟩
          obtain rfl : more = more' := (List.cons.inj hmore').2
          exact takeWhile_eq_nil_iff.mp hnone
        · rename_i hsome
          obtain ⟨rfl, rfl⟩ := Prod.mk.inj (Option.some.inj h)
          have hmore' := List.takeWhile_append_dropWhile (p := isTableChar) (l := more)
          refine ⟨?_, .dotted (hmore'.symm ▸ hfirst) (run_takeWhile hsome)⟩
          rw [List.append_assoc, List.cons_append, hmore']
          exact hcs
      · rename_i hundotted
        obtain ⟨rfl, rfl⟩ := Prod.mk.inj (Option.some.inj h)
        exact ⟨hcs, .simple hfirst fun more hmore => absurd hmore (hundotted more)⟩
  · rintro ⟨rfl, h⟩
    cases h with
    | simple first undotted =>
        simp only [tableText?, List.isEmpty_iff, first.takeWhile, first.dropWhile, first.ne_nil,
          if_false]
        split
        · rename_i more
          rw [if_pos (takeWhile_eq_nil_iff.mpr (undotted more rfl))]
        · rfl
    | @dotted first second rest hfirst hsecond =>
        rw [List.append_assoc, List.cons_append]
        simp only [tableText?, List.isEmpty_iff, hfirst.takeWhile, hfirst.dropWhile,
          hfirst.ne_nil, hsecond.takeWhile, hsecond.dropWhile, hsecond.ne_nil, if_false]

/-! ## Occurrences -/

/-- A keyword, blanks and a table text, with what follows them. -/
structure Leads (keyword gap table rest : List Char) : Prop where
  keyword : IsKeyword keyword
  gap : Blanks gap
  table : TableText table rest

theorem isBlank_eq_false_of_isTableChar {c : Char} (h : isTableChar c = true) :
    isBlank c = false := by
  simp only [isTableChar, Bool.and_eq_true, Bool.not_eq_true'] at h
  exact h.1.1.1.1.1

/-- The blanks before a table text are as many as there are. -/
theorem Leads.run {keyword gap table rest : List Char} (h : Leads keyword gap table rest) :
    Run isBlank gap (table ++ rest) := by
  obtain ⟨c, hhead, hc⟩ := h.table.exists_head
  refine h.gap.run fun c' hc' => ?_
  rw [List.head?_append, hhead, Option.some_or, Option.mem_some_iff] at hc'
  exact hc' ▸ isBlank_eq_false_of_isTableChar hc

theorem keyword?_eq_some {cs rest : List Char} :
    (afterKeyword? ['f', 'r', 'o', 'm'] cs <|> afterKeyword? ['j', 'o', 'i', 'n'] cs) = some rest ↔
      ∃ keyword, cs = keyword ++ rest ∧ IsKeyword keyword := by
  rw [Option.orElse_eq_orElse, Option.orElse_eq_or, Option.or_eq_some_iff]
  constructor
  · rintro (hfrom | ⟨-, hjoin⟩)
    · obtain ⟨word, hcs, hspells⟩ := afterKeyword?_eq_some.mp hfrom
      exact ⟨word, hcs, .inl hspells⟩
    · obtain ⟨word, hcs, hspells⟩ := afterKeyword?_eq_some.mp hjoin
      exact ⟨word, hcs, .inr hspells⟩
  · rintro ⟨keyword, hcs, hfrom | hjoin⟩
    · exact .inl (afterKeyword?_eq_some.mpr ⟨keyword, hcs, hfrom⟩)
    · refine .inr ⟨?_, afterKeyword?_eq_some.mpr ⟨keyword, hcs, hjoin⟩⟩
      rw [Option.eq_none_iff_forall_ne_some]
      intro rest' hrest'
      obtain ⟨word, hword, hfrom⟩ := afterKeyword?_eq_some.mp hrest'
      exact not_join_of_from hfrom hjoin (hword.symm.trans hcs)

/-- **The reader of an occurrence finds what the grammar says.** -/
theorem occurrence?_eq_some {cs table rest : List Char} :
    occurrence? cs = some (table, rest) ↔
      ∃ keyword gap, cs = keyword ++ (gap ++ (table ++ rest)) ∧ Leads keyword gap table rest := by
  have hread : occurrence? cs = some (table, rest) ↔ ∃ after,
      (afterKeyword? ['f', 'r', 'o', 'm'] cs <|> afterKeyword? ['j', 'o', 'i', 'n'] cs) = some after
        ∧ ∃ front, afterBlanks? after = some front ∧ tableText? front = some (table, rest) := by
    simp only [occurrence?, Option.bind_eq_bind, Option.bind_eq_some_iff]
  rw [hread]
  constructor
  · rintro ⟨after, hafter, front, hfront, htable⟩
    obtain ⟨keyword, rfl, hkeyword⟩ := keyword?_eq_some.mp hafter
    obtain ⟨gap, rfl, hgap⟩ := afterBlanks?_eq_some.mp hfront
    obtain ⟨rfl, htext⟩ := tableText?_eq_some.mp htable
    exact ⟨keyword, gap, rfl, hkeyword, hgap.blanks, htext⟩
  · rintro ⟨keyword, gap, rfl, h⟩
    exact ⟨_, keyword?_eq_some.mpr ⟨keyword, rfl, h.keyword⟩, _,
      afterBlanks?_eq_some.mpr ⟨gap, rfl, h.run⟩, tableText?_eq_some.mpr ⟨rfl, h.table⟩⟩

/-! ## The word behind a table text -/

/-- Blanks, `AS`, blanks and a word. -/
def ExplicitAlias (after word : List Char) : Prop :=
  ∃ gap as gap' rest, after = gap ++ (as ++ (gap' ++ (word ++ rest))) ∧ Blanks gap ∧
    Spells ['a', 's'] as ∧ Blanks gap' ∧ Run isWord word rest

/-- Blanks and a word. -/
def PlainAlias (after word : List Char) : Prop :=
  ∃ gap rest, after = gap ++ (word ++ rest) ∧ Blanks gap ∧ Run isWord word rest

/-- The word behind a table text.  An `AS` counts as a word itself only if no
word follows it. -/
def AliasWord (after word : List Char) : Prop :=
  ExplicitAlias after word ∨ (¬ ∃ word', ExplicitAlias after word') ∧ PlainAlias after word

/-- The word after an `AS`, if a text goes on so. -/
def explicitWord? (cs : List Char) : Option (List Char) := do
  let word := (← afterBlanks? (← afterKeyword? ['a', 's'] cs)).takeWhile isWord
  if word.isEmpty then none else some word

theorem aliasWord?_eq (cs : List Char) :
    aliasWord? cs = (afterBlanks? cs).bind fun rest =>
      let word := (explicitWord? rest).getD (rest.takeWhile isWord)
      if word.isEmpty then none else some word := rfl

/-- Word characters end the blanks before them. -/
theorem Run.isBlank_head? {word rest : List Char} (h : Run isWord word rest) :
    ∀ c ∈ (word ++ rest).head?, isBlank c = false := by
  obtain ⟨c, hhead, hc⟩ := h.exists_head
  intro c' hc'
  rw [hhead, Option.mem_some_iff] at hc'
  exact hc' ▸ isBlank_eq_false_of_isWord hc

theorem explicitWord?_eq_some {cs word : List Char} :
    explicitWord? cs = some word ↔ ∃ as gap rest, cs = as ++ (gap ++ (word ++ rest)) ∧
      Spells ['a', 's'] as ∧ Blanks gap ∧ Run isWord word rest := by
  have hread : explicitWord? cs = some word ↔ ∃ after, afterKeyword? ['a', 's'] cs = some after ∧
      ∃ front, afterBlanks? after = some front ∧ front.takeWhile isWord ≠ [] ∧
        front.takeWhile isWord = word := by
    simp [explicitWord?, Option.bind_eq_some_iff]
  rw [hread]
  constructor
  · rintro ⟨after, hafter, front, hfront, hne, rfl⟩
    obtain ⟨as, rfl, has⟩ := afterKeyword?_eq_some.mp hafter
    obtain ⟨gap, rfl, hgap⟩ := afterBlanks?_eq_some.mp hfront
    refine ⟨as, gap, front.dropWhile isWord, ?_, has, hgap.blanks, run_takeWhile hne⟩
    rw [List.takeWhile_append_dropWhile]
  · rintro ⟨as, gap, rest, rfl, has, hgap, hword⟩
    refine ⟨_, afterKeyword?_eq_some.mpr ⟨as, rfl, has⟩, _,
      afterBlanks?_eq_some.mpr ⟨gap, rfl, hgap.run hword.isBlank_head?⟩, ?_, hword.takeWhile⟩
    rw [hword.takeWhile]
    exact hword.ne_nil

theorem explicitAlias_iff {after word : List Char} : ExplicitAlias after word ↔
    ∃ front, afterBlanks? after = some front ∧ explicitWord? front = some word := by
  constructor
  · rintro ⟨gap, as, gap', rest, rfl, hgap, has, hgap', hword⟩
    refine ⟨_, afterBlanks?_eq_some.mpr ⟨gap, rfl, hgap.run ?_⟩,
      explicitWord?_eq_some.mpr ⟨as, gap', rest, rfl, has, hgap', hword⟩⟩
    cases has with
    | cons ha _ =>
        intro c hc
        obtain rfl := Option.some.inj hc
        exact isBlank_eq_false_of_isWord (isWord_of_foldsTo (by decide) ha)
  · rintro ⟨front, hblanks, hexplicit⟩
    obtain ⟨gap, rfl, hgap⟩ := afterBlanks?_eq_some.mp hblanks
    obtain ⟨as, gap', rest, rfl, has, hgap', hword⟩ := explicitWord?_eq_some.mp hexplicit
    exact ⟨gap, as, gap', rest, rfl, hgap.blanks, has, hgap', hword⟩

theorem plainAlias_iff {after word : List Char} : PlainAlias after word ↔
    ∃ front, afterBlanks? after = some front ∧ word ≠ [] ∧ front.takeWhile isWord = word := by
  constructor
  · rintro ⟨gap, rest, rfl, hgap, hword⟩
    exact ⟨_, afterBlanks?_eq_some.mpr ⟨gap, rfl, hgap.run hword.isBlank_head?⟩, hword.ne_nil,
      hword.takeWhile⟩
  · rintro ⟨front, hblanks, hne, rfl⟩
    obtain ⟨gap, rfl, hgap⟩ := afterBlanks?_eq_some.mp hblanks
    refine ⟨gap, front.dropWhile isWord, ?_, hgap.blanks, run_takeWhile hne⟩
    rw [List.takeWhile_append_dropWhile]

theorem explicitWord?_ne_nil {front word : List Char} (h : explicitWord? front = some word) :
    word ≠ [] := by
  obtain ⟨_, _, _, _, _, _, hword⟩ := explicitWord?_eq_some.mp h
  exact hword.ne_nil

/-- **The reader of an alias finds what the grammar says.** -/
theorem aliasWord?_eq_some {after word : List Char} :
    aliasWord? after = some word ↔ AliasWord after word := by
  rw [aliasWord?_eq]
  simp only [AliasWord, explicitAlias_iff, plainAlias_iff]
  cases afterBlanks? after with
  | none => simp
  | some front =>
      simp only [Option.bind_some, Option.some.injEq, exists_eq_left']
      cases hexplicit : explicitWord? front with
      | some word' =>
          have hne : word'.isEmpty = false := by
            rw [List.isEmpty_eq_false_iff]
            exact explicitWord?_ne_nil hexplicit
          simp [hne]
      | none =>
          simp only [Option.getD_none, reduceCtorEq, exists_false, not_false_eq_true, true_and,
            false_or]
          constructor
          · intro h
            split at h
            · cases h
            · rename_i hne
              obtain rfl := Option.some.inj h
              exact ⟨fun hnil => hne (by rw [hnil]; rfl), rfl⟩
          · rintro ⟨hne, rfl⟩
            rw [if_neg (by rwa [List.isEmpty_iff])]

theorem AliasWord.unique {after word word' : List Char} (h : AliasWord after word)
    (h' : AliasWord after word') : word = word' :=
  Option.some.inj ((aliasWord?_eq_some.mpr h).symm.trans (aliasWord?_eq_some.mpr h'))

end QueryDesk.Completion
