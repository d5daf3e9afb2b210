import QueryDesk.Proofs.Sqlite.Transactions
import QueryDesk.Sqlite.Script

/-!
# The cap on rows

A statement that is taken for a query has one row more than the cap fetched, and the
last of them is left out again if it came.  Any other statement has all of its rows
fetched, whatever the cap is, and the answer says that nothing was left out.  What a
statement is taken for depends on its first word alone, and not on whether it has rows:
a word that is not set apart from what follows it is not recognized, and a statement
that writes may have rows as well.

## Main results

* `Yields.answer_eq` — the rows of an answer, for a query and for any other statement.
* `rows_capped_iff` — when an answer keeps to the cap.
* `values_uncapped` — a statement of rows alone that is answered with more.
-/

namespace QueryDesk.Sqlite.Backend

open Execution (Failure Result)

variable {δ : Type}

/-- A statement is executed, and the driver has these rows for it and fails at nothing.
It is described by the cursor, and a statement without columns has no rows. -/
structure Yields (driver : Driver δ) (h : Handle) (sql : String) (d d₁ : δ) (c : Cursor)
    (rows : List (List Value)) : Prop where
  execute : driver.execute h sql d = (.ok c, d₁)
  described : c.columns = [] → rows = []
  /-- Nothing is said of fetching no rows, which a driver may take for fetching all. -/
  fetchMany : ∀ n : Nat, 0 < n → (driver.fetchMany h n d₁).1 = .ok (rows.take n)
  fetchAll : (driver.fetchAll h d₁).1 = .ok rows
  commit : ∀ d₂ ∈ [d₁, (driver.fetchAll h d₁).2], (driver.commit h d₂).1 = .ok ()

/-- An answer has the first rows, as many as the cap allows, and says whether there
were more. -/
structure Capped (cap : Option Nat) (rows : List (List Value)) (r : Result) : Prop where
  rows_eq : r.rows = cap.elim rows rows.take
  truncated_iff : r.truncated = true ↔ ∃ m, cap = some m ∧ m < rows.length

/-- An answer has all rows and says so. -/
def Uncapped (rows : List (List Value)) (r : Result) : Prop :=
  r.rows = rows ∧ r.truncated = false

/-- An answer with all rows keeps to the cap only if there are no more than it allows. -/
theorem Uncapped.capped_iff {cap : Option Nat} {rows : List (List Value)} {r : Result}
    (h : Uncapped rows r) : Capped cap rows r ↔ ∀ m, cap = some m → rows.length ≤ m := by
  obtain ⟨hrows, htruncated⟩ := h
  refine ⟨?_, ?_⟩
  · intro hcapped m hm
    by_contra hlt
    have htrue := hcapped.truncated_iff.mpr ⟨m, hm, Nat.lt_of_not_le hlt⟩
    rw [htruncated] at htrue
    cases htrue
  · intro hle
    refine ⟨?_, ?_⟩
    · cases cap with
      | none => exact hrows
      | some m => rw [hrows, Option.elim_some, List.take_of_length_le (hle m rfl)]
    · rw [htruncated]
      refine ⟨nofun, ?_⟩
      rintro ⟨m, hm, hlt⟩
      exact absurd (hle m hm) (Nat.not_le_of_lt hlt)

/-! ## One row more than the cap -/

section Found

variable (m : Nat) (rows : List (List Value))

/-- The row behind the cap is fetched if there is one. -/
theorem lt_length_fetched : (m : Int) < (rows.take (m + 1)).length ↔ m < rows.length := by
  rw [Int.ofNat_lt, List.length_take]
  omega

/-- It is left out again. -/
theorem firstRows_fetched :
    (if (m : Int) < (rows.take (m + 1)).length then firstRows m (rows.take (m + 1))
      else rows.take (m + 1)) = rows.take m := by
  by_cases hlt : m < rows.length
  · rw [if_pos ((lt_length_fetched m rows).mpr hlt), firstRows, if_pos (Int.natCast_nonneg m),
      Int.toNat_natCast, List.take_take, Nat.min_eq_left (Nat.le_succ m)]
  · have hle : rows.length ≤ m := Nat.le_of_not_lt hlt
    rw [if_neg (mt (lt_length_fetched m rows).mp hlt), List.take_of_length_le hle,
      List.take_of_length_le (Nat.le_succ_of_le hle)]

theorem capped_found (c : Cursor) :
    Capped (some m) rows (found (some (Int.ofNat m)) c (rows.take (m + 1))) := by
  refine ⟨firstRows_fetched m rows, ?_⟩
  have htruncated : (found (some (Int.ofNat m)) c (rows.take (m + 1))).truncated = true ↔
      m < rows.length := by
    rw [found, decide_eq_true_eq]
    exact lt_length_fetched m rows
  rw [htruncated]
  simp

end Found

/-! ## The two ways of running a statement -/

section Run

variable {driver : Driver δ} {h : Handle} {sql : String} {d d₁ d' : δ} {c c' : Cursor}
  {rows : List (List Value)} {query : Bool} {cap : Option Nat} {answer : Except Failure Result}

theorem Yields.eq_of_execute (hyields : Yields driver h sql d d₁ c rows)
    (hexecute : driver.execute h sql d = (.ok c', d')) : c' = c ∧ d' = d₁ := by
  rw [hyields.execute] at hexecute
  cases hexecute
  exact ⟨rfl, rfl⟩

/-- What is fetched: no more than one row behind the cap. -/
theorem Yields.fetch_eq (hyields : Yields driver h sql d d₁ c rows) (query : Bool)
    (cap : Option Nat) :
    (fetch driver query (cap.map Int.ofNat) h d₁).1 =
      .ok (if query then cap.elim rows fun m => rows.take (m + 1) else rows) := by
  cases query with
  | false => exact hyields.fetchAll
  | true =>
      cases cap with
      | none => exact hyields.fetchAll
      | some m => exact hyields.fetchMany (m + 1) (Nat.succ_pos m)

/-- **The rows of an answer**: those under the cap for a query, and all of them for any
other statement. -/
theorem Yields.answer_eq (hyields : Yields driver h sql d d₁ c rows)
    (hcourse : Course driver query (cap.map Int.ofNat) h sql d answer d') :
    ∃ r, answer = .ok r ∧ r.columns = c.columns ∧ (query = true → Capped cap rows r) ∧
      (query = false → Uncapped rows r) := by
  cases hcourse with
  | failed hexecute =>
      rw [hyields.execute] at hexecute
      cases hexecute
  | unchanged hexecute hcolumns hcommit =>
      obtain ⟨rfl, rfl⟩ := hyields.eq_of_execute hexecute
      have hcommitted := hyields.commit _ (List.mem_cons_self ..)
      rw [hcommit] at hcommitted
      cases hcommitted
  | @changed c' d₁' d₂ hexecute hcolumns hcommit =>
      obtain ⟨rfl, rfl⟩ := hyields.eq_of_execute hexecute
      rw [hyields.described hcolumns]
      have huncapped : Uncapped [] (changed driver query h d c') := ⟨rfl, rfl⟩
      refine ⟨_, rfl, hcolumns.symm, fun _ => ?_, fun _ => huncapped⟩
      apply huncapped.capped_iff.mpr
      exact fun m _ => Nat.zero_le m
  | unfetched hexecute hcolumns hfetch =>
      obtain ⟨rfl, rfl⟩ := hyields.eq_of_execute hexecute
      have hfetched := hyields.fetch_eq query cap
      rw [hfetch] at hfetched
      cases hfetched
  | @found c' rows' d₁' d₂ hquery hexecute hcolumns hfetch =>
      obtain ⟨rfl, rfl⟩ := hyields.eq_of_execute hexecute
      subst hquery
      have hfetched := hyields.fetch_eq true cap
      rw [hfetch] at hfetched
      obtain rfl := Except.ok.inj hfetched
      refine ⟨_, rfl, by cases cap <;> rfl, fun _ => ?_, nofun⟩
      cases cap with
      | none =>
          have huncapped : Uncapped rows (found none c' rows) := ⟨rfl, rfl⟩
          apply huncapped.capped_iff.mpr
          intro m hm
          cases hm
      | some m => exact capped_found m rows c'
  | unwritten hquery hexecute hcolumns hfetch hcommit =>
      obtain ⟨rfl, rfl⟩ := hyields.eq_of_execute hexecute
      have hcommitted := hyields.commit _ (List.mem_cons_of_mem _ (List.mem_singleton_self _))
      rw [hfetch, hcommit] at hcommitted
      cases hcommitted
  | @written c' rows' d₁' d₂ d₃ hquery hexecute hcolumns hfetch hcommit =>
      obtain ⟨rfl, rfl⟩ := hyields.eq_of_execute hexecute
      have hfetched := hyields.fetchAll
      rw [hfetch] at hfetched
      obtain rfl := Except.ok.inj hfetched
      subst hquery
      exact ⟨_, rfl, rfl, nofun, fun _ => ⟨rfl, rfl⟩⟩

end Run

/-- **When an answer keeps to the cap.**  Take any statement that is run on a connection
and for which the driver has some rows without an error.

If the statement is not looked into, that is the answer.  Otherwise it is answered, with
the driver's columns.  A statement that is taken for a query is answered with the first
rows, as many as the cap allows, and the answer says whether there were more; without a
cap these are all rows.  Any other statement is answered with all rows, and the answer
says that there were no more: that is what the cap asks for only if there are no more
rows than it allows. -/
theorem rows_capped_iff (driver : Driver δ) (site : Site) (cap : Option Nat) (id sql : String)
    {b b₁ : Backend δ} {h : Handle} {d₁ : δ} {c : Cursor} {rows : List (List Value)}
    (hconnection : perform b (connection driver site id) = (.ok h, b₁))
    (hyields : Yields driver h sql b₁.driver d₁ c rows) :
    let answer := (perform b (execute driver site (cap.map Int.ofNat) id sql)).1
    (∀ e, site.returnsRows sql = .error e → answer = .error (excessFailure e)) ∧
      ∀ query, site.returnsRows sql = .ok query →
        ∃ r, answer = .ok r ∧ r.columns = c.columns ∧ (query = false → Uncapped rows r) ∧
          (Capped cap rows r ↔ query = true ∨ ∀ m, cap = some m → rows.length ≤ m) := by
  refine ⟨?_, ?_⟩
  · intro e hread
    rw [execute_of_unread hconnection hread]
  · intro query hread
    have hcourse := (course_run driver query (cap.map Int.ofNat) h sql b₁).1
    obtain ⟨r, hr, hcolumns, hcapped, huncapped⟩ := hyields.answer_eq hcourse
    refine ⟨r, ?_, hcolumns, huncapped, ?_⟩
    · rw [execute_of_read hconnection hread, hr]
      rfl
    · cases query with
      | true => exact iff_of_true (hcapped rfl) (.inl rfl)
      | false => simpa using (huncapped rfl).capped_iff

/-! ## Rows that are written out -/

/-- A statement that consists of two rows. -/
def twoValues : String := "VALUES(1),(2)"

section Reading

open Statement

theorem tokens_twoValues :
    tokens twoValues.toList =
      [⟨.keyword, "VALUES".toList⟩, ⟨.punctuation, ['(']⟩, ⟨.integer, ['1']⟩,
        ⟨.punctuation, [')']⟩, ⟨.punctuation, [',']⟩, ⟨.punctuation, ['(']⟩, ⟨.integer, ['2']⟩,
        ⟨.punctuation, [')']⟩] := by
  apply ReadAs.tokensAfter_eq
  simp only [ReadAs, front, placedWord?, phrase?, phrasesLength?_eq]
  decide +kernel

/-- The first word runs into the row behind it, and is not recognized. -/
theorem returnsRows_twoValues : returnsRows twoValues = .ok false := by
  unfold returnsRows
  rw [tokens_twoValues]
  decide +kernel

end Reading

/-- A script without failures yields the rows of its next item. -/
theorem yields_script {s : Script} {item : ScriptItem} {items : List ScriptItem} {h : Handle}
    {sql : String} (hitems : s.items = item :: items) (hmetadata : s.metadata? sql = none)
    (hfailure : item.failure = none) (hfetch : item.fetchFailure = none)
    (hcommit : item.commitFailure = none) (hdescribed : item.columns = [] → item.rows = []) :
    ∃ d₁ c, c.columns = item.columns ∧ Yields Script.driver h sql s d₁ c item.rows := by
  rcases hexecute : Script.driver.execute h sql s with ⟨answer, d₁⟩
  have hplayed := hexecute
  simp only [Script.driver, Script.execute, hmetadata, hitems, hfailure] at hplayed
  cases hplayed
  have hknown : ∀ c : ScriptConnection,
      Script.connection { s with items, connections := s.connections.put h c } h = c := by
    intro c
    rw [Script.connection, OrderedMap.get?_put_self, Option.getD_some]
  refine ⟨_, _, rfl, hexecute, hdescribed, ?_, ?_, ?_⟩
  · intro n _
    simp only [Script.driver, hknown, hfetch, Script.orFailure, Int.toNat_natCast]
  · simp only [Script.driver, hknown, hfetch, Script.orFailure]
  · simp [Script.driver, hknown, hcommit, Script.orFailure]

/-- What a driver has for the statement. -/
def twoRows : ScriptItem := { columns := ["column1"], rows := [[.int 1], [.int 2]] }

/-- A backend whose driver has that next. -/
def valuesStart : Backend Script := { driver := { items := [twoRows] } }

/-- A connection in memory is opened. -/
theorem perform_connection_valuesStart :
    perform valuesStart (connection Script.driver nowhere inMemory) =
      (.ok 0, { driver := { valuesStart.driver with connections := [(0, {})], opened := 1 }
                connections := [(inMemory, 0)], calls := [.connect inMemory (some 0)] }) := rfl

/-- More rows than the cap allows come back if a statement is not taken for a query. -/
theorem rows_capped_iff_values :
    ∃ r, (perform valuesStart
        (execute Script.driver nowhere ((some 1).map Int.ofNat) inMemory twoValues)).1 = .ok r ∧
      Uncapped twoRows.rows r ∧ ¬ Capped (some 1) twoRows.rows r := by
  have hdescribed : twoRows.columns = [] → twoRows.rows = [] := by
    intro hnone
    cases hnone
  let b₁ := (perform valuesStart (connection Script.driver nowhere inMemory)).2
  obtain ⟨d₁, c, -, hyields⟩ : ∃ d₁ c, c.columns = twoRows.columns ∧
      Yields Script.driver 0 twoValues b₁.driver d₁ c twoRows.rows :=
    yields_script rfl rfl rfl rfl rfl hdescribed
  obtain ⟨r, hr, -, huncapped, hcapped⟩ := (rows_capped_iff Script.driver nowhere (some 1)
    inMemory twoValues perform_connection_valuesStart hyields).2 false returnsRows_twoValues
  refine ⟨r, hr, huncapped rfl, ?_⟩
  rw [hcapped]
  decide

/-- **Rows that are written out are not capped**: with a cap of one, both are answered, and
the answer says that there were no more. -/
theorem values_uncapped :
    let r : Result := { columns := ["column1"], rows := twoRows.rows, rowsAffected := some 2 }
    (perform valuesStart (execute Script.driver nowhere (some 1) inMemory twoValues)).1 = .ok r ∧
      ¬ Capped (some 1) twoRows.rows r := by
  refine ⟨?_, ?_⟩
  · rw [execute_of_read perform_connection_valuesStart returnsRows_twoValues]
    rfl
  · intro hcapped
    have htruncated := hcapped.truncated_iff.mpr ⟨1, rfl, by decide⟩
    cases htruncated

end QueryDesk.Sqlite.Backend
