import QueryDesk.Completion.Assemble
import QueryDesk.Proofs.OrderedMap

/-!
# The static floor and what the schema adds

The candidates at a cursor are the static floor and, behind it, what the schema
adds.  Two rules of precedence meet here and go opposite ways: of several
references with one name the last one counts, but of several candidates with one
insert text the first.  `Called` says what the schema is asked for without the
map of names; `firstOfEach` says what is left of a list without the texts that
were seen.

## Main results

* `called_iff` — what the schema is asked for, by the context and the references.
* `distinct_append` — a list of candidates behind another one.
* `assemble_floor_first` — the candidates at every cursor.
-/

namespace QueryDesk.Completion

open Text

/-! ## First entries -/

/-- The suggestions without those whose insert text an earlier one has. -/
def firstOfEach (ss : List Suggestion) : List Suggestion :=
  ss.eraseDupsBy fun s t => s.insertText == t.insertText

/-- First entries keep their order. -/
theorem firstOfEach_sublist (ss : List Suggestion) : (firstOfEach ss).Sublist ss := by
  induction hn : ss.length using Nat.strongRecOn generalizing ss with
  | _ n ih =>
    cases ss with
    | nil => exact List.Sublist.refl _
    | cons s ss =>
        rw [firstOfEach, List.eraseDupsBy_cons]
        have hfilter := List.filter_sublist (l := ss)
          (p := fun t => decide ((t.insertText == s.insertText) = false))
        have hshort : (ss.filter fun t => decide ((t.insertText == s.insertText) = false)).length
            < n := by
          have := hfilter.length_le
          rw [List.length_cons] at hn
          omega
        exact ((ih _ hshort _ rfl).trans hfilter).cons_cons s

/-- The insert texts of some suggestions. -/
def insertTexts (ss : List Suggestion) : List String := ss.map (·.insertText)

theorem distinctBeyond_congr {seen seen' : List String} (h : ∀ t, t ∈ seen ↔ t ∈ seen')
    (cs : List Candidate) : distinctBeyond seen cs = distinctBeyond seen' cs := by
  induction cs generalizing seen seen' with
  | nil => rfl
  | cons c cs ih =>
      have hcons : ∀ t, t ∈ c.insertText :: seen ↔ t ∈ c.insertText :: seen' := by
        intro t
        rw [List.mem_cons, List.mem_cons, h t]
      simp only [distinctBeyond, h c.insertText, ih h, ih hcons]

/-- What stands behind some candidates is looked at as if they had been seen. -/
theorem distinctBeyond_append (seen : List String) (cs ds : List Candidate) :
    distinctBeyond seen (cs ++ ds) =
      distinctBeyond seen cs ++ distinctBeyond (cs.map (·.insertText) ++ seen) ds := by
  induction cs generalizing seen with
  | nil => rfl
  | cons c cs ih =>
      rw [List.cons_append, distinctBeyond, distinctBeyond]
      by_cases hc : c.insertText ∈ seen
      · rw [if_pos hc, if_pos hc, ih]
        congr 1
        refine distinctBeyond_congr (fun t => ?_) ds
        simp only [List.map_cons, List.mem_append, List.mem_cons]
        constructor
        · rintro (ht | ht)
          · exact .inl (.inr ht)
          · exact .inr ht
        · rintro ((rfl | ht) | ht)
          · exact .inr hc
          · exact .inl ht
          · exact .inr ht
      · rw [if_neg hc, if_neg hc, ih, List.cons_append]
        congr 2
        refine distinctBeyond_congr (fun t => ?_) ds
        simp only [List.map_cons, List.mem_append, List.mem_cons]
        tauto

/-- Candidates at one place are distinct as their suggestions are. -/
theorem distinctBeyond_at (seen : List String) (ss : List Suggestion) (range : Range) :
    distinctBeyond seen (ss.map (·.at range)) =
      (firstOfEach (ss.filter (·.insertText ∉ seen))).map (·.at range) := by
  induction ss generalizing seen with
  | nil => rfl
  | cons s ss ih =>
      rw [List.map_cons, distinctBeyond]
      have htext : (s.at range).insertText = s.insertText := rfl
      by_cases hs : s.insertText ∈ seen
      · rw [htext, if_pos hs, ih, List.filter_cons_of_neg (by simpa using hs)]
      · rw [htext, if_neg hs, ih, List.filter_cons_of_pos (by simpa using hs), firstOfEach,
          firstOfEach, List.eraseDupsBy_cons, List.filter_filter, List.map_cons]
        congr 3
        refine List.filter_congr fun t _ => ?_
        simp [not_or]

/-- **Behind the first entries of a list come those of the next one whose insert
text is new.** -/
theorem distinct_append (ss ts : List Suggestion) (range : Range) :
    distinct ((ss ++ ts).map (·.at range)) =
      (firstOfEach ss ++ firstOfEach (ts.filter (·.insertText ∉ insertTexts ss))).map
        (·.at range) := by
  have hall : ss.filter (·.insertText ∉ ([] : List String)) = ss := by simp
  have hseen : (ss.map (·.at range)).map (·.insertText) ++ [] = insertTexts ss := by
    rw [List.append_nil, List.map_map]
    rfl
  rw [distinct, List.map_append, distinctBeyond_append, distinctBeyond_at, distinctBeyond_at,
    hall, hseen, List.map_append]

/-! ## What the schema is asked for -/

/-- What the schema adds to a completion, before anything is left out. -/
inductive Called (context : Context) (refs : List Reference) :
    Option Schema.Index → List Suggestion → Prop where
  /-- A qualified word calls for the columns of the table that the last reference
  with just this name has. -/
  | columns {qualifier : String} {r : Reference} {before after : List Reference}
      {schema : Schema.Index} (qualified : context.qualifier = some qualifier)
      (split : refs = before ++ r :: after) (named : r.name = qualifier)
      (last : ∀ r' ∈ after, r'.name ≠ qualifier) :
      Called context refs (some schema)
        ((schema.columnsOf r.table).map fun c => .ofWord .column c r.table)
  /-- No reference has the name. -/
  | unnamed {qualifier : String} {schema : Option Schema.Index}
      (qualified : context.qualifier = some qualifier)
      (unnamed : ∀ r ∈ refs, r.name ≠ qualifier) : Called context refs schema []
  /-- An unqualified word behind a keyword for tables calls for all tables. -/
  | tables {keyword : String} {schema : Schema.Index} (unqualified : context.qualifier = none)
      (before : context.keywordBefore = some keyword)
      (isTable : lower keyword ∈ ["from", "join", "update", "into"]) :
      Called context refs (some schema) (schema.tableNames.map (.ofWord .table))
  /-- No such keyword is before the word. -/
  | elsewhere {schema : Option Schema.Index} (unqualified : context.qualifier = none)
      (notTable : ∀ keyword ∈ context.keywordBefore,
        lower keyword ∉ ["from", "join", "update", "into"]) : Called context refs schema []
  /-- There is no schema. -/
  | unknown : Called context refs none []

section Called

variable {context : Context} {refs : List Reference} {schema : Option Schema.Index}
  {part : List Suggestion}

theorem tablesByName_of_last {before after : List Reference} {r : Reference}
    (h : ∀ r' ∈ after, r'.name ≠ r.name) :
    (tablesByName (before ++ r :: after)).get? r.name = some r.table := by
  rw [tablesByName, List.map_append, List.map_cons]
  refine OrderedMap.get?_ofEntries_of_last fun e he => ?_
  obtain ⟨r', hr', rfl⟩ := List.mem_map.mp he
  exact h r' hr'

theorem tablesByName_eq_none {name : String} :
    (tablesByName refs).get? name = none ↔ ∀ r ∈ refs, r.name ≠ name := by
  rw [tablesByName, OrderedMap.get?_ofEntries_eq_none_iff]
  simp

/-- If some reference has a name, there is a last one. -/
theorem exists_last_named {name : String} (h : ∃ r ∈ refs, r.name = name) :
    ∃ before r after, refs = before ++ r :: after ∧ r.name = name ∧
      ∀ r' ∈ after, r'.name ≠ name := by
  induction refs with
  | nil => simp at h
  | cons r refs ih =>
      by_cases hlater : ∃ r' ∈ refs, r'.name = name
      · obtain ⟨before, r', after, rfl, hname, hlast⟩ := ih hlater
        exact ⟨r :: before, r', after, rfl, hname, hlast⟩
      · obtain ⟨r', hr', hname⟩ := h
        rcases List.mem_cons.mp hr' with rfl | hr'
        · exact ⟨[], r', refs, rfl, hname, fun r'' hr'' hname'' => hlater ⟨r'', hr'', hname''⟩⟩
        · exact absurd ⟨r', hr', hname⟩ hlater

theorem columnSuggestions_of_unqualified (h : context.qualifier = none)
    (tables : OrderedMap String String) (schema : Option Schema.Index) :
    columnSuggestions context tables schema = [] := by
  simp [columnSuggestions, qualifiedTable?, h]

theorem columnSuggestions_none (context : Context) (tables : OrderedMap String String) :
    columnSuggestions context tables none = [] := by
  unfold columnSuggestions
  split <;> simp_all

theorem tableSuggestions_none (context : Context) : tableSuggestions context none = [] := by
  unfold tableSuggestions
  split <;> simp_all

/-- What the schema is asked for is what the assembly puts behind the floor. -/
theorem Called.eq (h : Called context refs schema part) :
    part = columnSuggestions context (tablesByName refs) schema
      ++ tableSuggestions context schema := by
  cases h with
  | columns qualified split named last =>
      subst split named
      simp [columnSuggestions, qualifiedTable?, tableSuggestions, qualified,
        tablesByName_of_last last]
  | unnamed qualified unnamed =>
      simp [columnSuggestions, qualifiedTable?, tableSuggestions, qualified,
        tablesByName_eq_none.mpr unnamed]
  | tables unqualified before isTable =>
      rw [columnSuggestions_of_unqualified unqualified, List.nil_append]
      have hmem : lower _ ∈ tableKeywords := isTable
      simp only [tableSuggestions, unqualified, before, if_pos hmem]
  | elsewhere unqualified notTable =>
      rw [columnSuggestions_of_unqualified unqualified, List.nil_append]
      cases hkeyword : context.keywordBefore with
      | none => simp only [tableSuggestions, unqualified, hkeyword]
      | some keyword =>
          have hnot : ¬ lower keyword ∈ tableKeywords := notTable keyword hkeyword
          cases schema with
          | none => rw [tableSuggestions_none]
          | some schema => simp only [tableSuggestions, unqualified, hkeyword, if_neg hnot]
  | unknown => rw [columnSuggestions_none, tableSuggestions_none, List.append_nil]

theorem exists_called (context : Context) (refs : List Reference)
    (schema : Option Schema.Index) : ∃ part, Called context refs schema part := by
  cases schema with
  | none => exact ⟨[], .unknown⟩
  | some schema =>
      cases hqualifier : context.qualifier with
      | some qualifier =>
          by_cases hnamed : ∃ r ∈ refs, r.name = qualifier
          · obtain ⟨before, r, after, hsplit, hname, hlast⟩ := exists_last_named hnamed
            exact ⟨_, .columns hqualifier hsplit hname hlast⟩
          · exact ⟨[], .unnamed hqualifier fun r hr hname => hnamed ⟨r, hr, hname⟩⟩
      | none =>
          by_cases htable : ∃ keyword, context.keywordBefore = some keyword ∧
              lower keyword ∈ ["from", "join", "update", "into"]
          · obtain ⟨keyword, hbefore, hmem⟩ := htable
            exact ⟨_, .tables hqualifier hbefore hmem⟩
          · exact ⟨[], .elsewhere hqualifier fun keyword hbefore hmem =>
              htable ⟨keyword, hbefore, hmem⟩⟩

/-- **What the schema is asked for** is what the assembly puts behind the floor. -/
theorem called_iff : Called context refs schema part ↔
    part = columnSuggestions context (tablesByName refs) schema
      ++ tableSuggestions context schema := by
  constructor
  · exact Called.eq
  · rintro rfl
    obtain ⟨part, h⟩ := exists_called context refs schema
    exact h.eq ▸ h

/-- The schema is asked for columns or for tables, and not for both. -/
theorem Called.kind (h : Called context refs schema part) :
    (context.qualifier.isSome → ∀ s ∈ part, s.kind = .column) ∧
      (context.qualifier = none → ∀ s ∈ part, s.kind = .table) := by
  cases h with
  | columns qualified _ _ _ =>
      refine ⟨fun _ s hs => ?_, fun h => ?_⟩
      · obtain ⟨c, -, rfl⟩ := List.mem_map.mp hs
        rfl
      · rw [qualified] at h
        cases h
  | unnamed _ _ => simp
  | tables unqualified _ _ =>
      refine ⟨fun h => ?_, fun _ s hs => ?_⟩
      · rw [unqualified] at h
        cases h
      · obtain ⟨t, -, rfl⟩ := List.mem_map.mp hs
        rfl
  | elsewhere _ _ => simp
  | unknown => simp

end Called

/-! ## All candidates -/

theorem assemble_eq (sql : String) (cursor : Cursor) (schema : Option Schema.Index)
    (floor part : List Suggestion)
    (h : Called (contextAt sql cursor) (references sql) schema part) :
    assemble sql cursor schema floor =
      (firstOfEach floor ++ firstOfEach (part.filter (·.insertText ∉ insertTexts floor))).map
        (·.at (contextAt sql cursor).range) := by
  rw [← distinct_append, h.eq, ← List.append_assoc]
  rfl

/-- **Every candidate is for the word at the cursor.** -/
theorem range_of_mem_assemble {sql : String} {cursor : Cursor} {schema : Option Schema.Index}
    {floor : List Suggestion} {c : Candidate} (hc : c ∈ assemble sql cursor schema floor) :
    c.range = (contextAt sql cursor).range := by
  obtain ⟨part, hpart⟩ := exists_called (contextAt sql cursor) (references sql) schema
  rw [assemble_eq sql cursor schema floor part hpart] at hc
  obtain ⟨s, -, rfl⟩ := List.mem_map.mp hc
  rfl

theorem nodup_insertText_distinct (cs : List Candidate) :
    ((distinct cs).map (·.insertText)).Nodup :=
  (insertText_distinctBeyond [] cs).1

/-- **The floor comes first, and then what the schema adds.**  At every cursor of
every buffer the schema is asked for one list of suggestions: the columns of a
table, all tables, or nothing.  The candidates are the floor with only the first
entry of each insert text, and behind it the first entries of that list whose
insert text is not one of the floor.  No insert text comes twice, every candidate
is for the word at the cursor, and columns and tables of the schema never come
together. -/
theorem assemble_floor_first (sql : String) (cursor : Cursor) (schema : Option Schema.Index)
    (floor : List Suggestion) :
    let context := contextAt sql cursor
    let candidates := assemble sql cursor schema floor
    ∃ part added, Called context (references sql) schema part ∧
      (∀ part', Called context (references sql) schema part' → part' = part) ∧
      added = firstOfEach (part.filter (·.insertText ∉ insertTexts floor)) ∧
      candidates = (firstOfEach floor ++ added).map (·.at context.range) ∧
      (candidates.map (·.insertText)).Nodup ∧
      (∀ c ∈ candidates, c.range = context.range) ∧
      (∀ s ∈ added, s.insertText ∉ insertTexts floor) ∧
      ((∀ s ∈ added, s.kind = .column) ∨ ∀ s ∈ added, s.kind = .table) := by
  intro context candidates
  obtain ⟨part, hpart⟩ := exists_called context (references sql) schema
  have hmem : ∀ s ∈ firstOfEach (part.filter (·.insertText ∉ insertTexts floor)),
      s ∈ part ∧ s.insertText ∉ insertTexts floor := by
    intro s hs
    simpa using (firstOfEach_sublist _).subset hs
  refine ⟨part, _, hpart, fun part' h => h.eq.trans hpart.eq.symm, rfl,
    assemble_eq sql cursor schema floor part hpart, nodup_insertText_distinct _,
    fun c hc => range_of_mem_assemble hc, fun s hs => (hmem s hs).2, ?_⟩
  cases hqualifier : context.qualifier with
  | some q => exact .inl fun s hs => hpart.kind.1 (by rw [hqualifier]; rfl) s (hmem s hs).1
  | none => exact .inr fun s hs => hpart.kind.2 hqualifier s (hmem s hs).1

end QueryDesk.Completion
