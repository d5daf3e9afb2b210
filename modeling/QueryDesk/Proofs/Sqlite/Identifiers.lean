import QueryDesk.Proofs.Sqlite.Requests
import QueryDesk.Sqlite.Script

/-!
# Names in statements

The names of tables come from the database and may hold any characters, quotes and
brackets among them.  A statement on a table names it between double quotes, and a
database reads such a name by one rule: a quote opens it, two quotes in a row stand for
one, and the first quote that no other follows closes it.  The rule is stated here as a
relation, which the reader of quoted texts is shown to decide.

What follows is that quoting is the inverse of reading for every name, whatever stands
behind it, and that a request for the columns of all tables sends statements that refer to
the tables that were listed, each to its own, and no others.

## Main results

* `readRest?_eq_some_iff`, `read?_eq_some_iff` — the reader goes by the rule.
* `named_quoteIdentifier_iff` — a quoted name is read as that name and nothing else.
* `refersTo_columnsStatement_iff` — the one table that a statement refers to.
* `asks_describing` — the statements on the tables that were listed.
* `statements_refer_to_tables` — the whole for a name and for a request.
-/

namespace QueryDesk.Text.Quoted

/-- What stands behind an opening quote: a text in which a quote is written twice, the
quote that closes it, and the rest. -/
inductive Closes : List Char → List Char → List Char → Prop where
  /-- The first quote that no other follows closes the text. -/
  | close {rest : List Char} (hrest : rest.head? ≠ some '"') : Closes ('"' :: rest) [] rest
  | twice {cs text rest : List Char} (hcloses : Closes cs text rest) :
      Closes ('"' :: '"' :: cs) ('"' :: text) rest
  | other {c : Char} {cs text rest : List Char} (hc : c ≠ '"') (hcloses : Closes cs text rest) :
      Closes (c :: cs) (c :: text) rest

/-- A quoted text at the front, and the rest behind it. -/
def Stands (cs text rest : List Char) : Prop :=
  ∃ inside, cs = '"' :: inside ∧ Closes inside text rest

variable {cs text rest : List Char}

/-- **The reader goes by the rule.** -/
theorem readRest?_eq_some_iff : readRest? cs = some (text, rest) ↔ Closes cs text rest := by
  constructor
  · intro hread
    fun_induction readRest? cs generalizing text rest with
    | case1 => cases hread
    | case2 cs ih =>
        obtain ⟨⟨text', rest'⟩, hrest, heq⟩ := Option.map_eq_some_iff.mp hread
        cases heq
        exact .twice (ih hrest)
    | case3 cs hlone =>
        cases hread
        apply Closes.close
        intro hhead
        obtain ⟨after, rfl⟩ := List.head?_eq_some_iff.mp hhead
        exact hlone after rfl
    | case4 c cs htwice hc ih =>
        obtain ⟨⟨text', rest'⟩, hrest, heq⟩ := Option.map_eq_some_iff.mp hread
        cases heq
        exact .other hc (ih hrest)
  · intro hcloses
    induction hcloses with
    | @close rest hrest => exact readRest?_doubled [] rest hrest
    | twice hcloses ih => simp [readRest?, ih]
    | other hc hcloses ih => simp [readRest?, hc, ih]

theorem read?_eq_some_iff : read? cs = some (text, rest) ↔ Stands cs text rest := by
  unfold Stands
  constructor
  · intro hread
    unfold read? at hread
    split at hread
    · exact ⟨_, rfl, readRest?_eq_some_iff.mp hread⟩
    · cases hread
  · rintro ⟨inside, rfl, hcloses⟩
    exact readRest?_eq_some_iff.mpr hcloses

end QueryDesk.Text.Quoted

namespace QueryDesk.Sqlite

open Execution (Failure)
open Text.Quoted (Stands)

/-! ## Names -/

/-- A quoted name stands at the front of a text. -/
def Named (text name rest : String) : Prop := Stands text.toList name.toList rest.toList

section Names

variable {name other following rest : String}

theorem readIdentifier?_eq_some_iff {text : String} :
    readIdentifier? text = some (name, rest) ↔ Named text name rest := by
  unfold readIdentifier? Named
  rw [← Text.Quoted.read?_eq_some_iff, Option.map_eq_some_iff]
  constructor
  · rintro ⟨⟨cs, ds⟩, hread, heq⟩
    cases heq
    rw [hread, String.toList_ofList, String.toList_ofList]
  · intro hread
    exact ⟨_, hread, by simp⟩

/-- What was quoted is read back, and the text behind it is left alone. -/
theorem readIdentifier?_quoteIdentifier (hfollowing : following.toList.head? ≠ some '"') :
    readIdentifier? (quoteIdentifier name ++ following) = some (name, following) := by
  unfold readIdentifier? quoteIdentifier
  rw [String.toList_append, String.toList_ofList, Text.Quoted.read?_quote _ _ hfollowing]
  simp

/-- **A quoted name is read as that name and nothing else**: no name ends early, and none
takes in what stands behind it. -/
theorem named_quoteIdentifier_iff (hfollowing : following.toList.head? ≠ some '"') :
    Named (quoteIdentifier name ++ following) other rest ↔ other = name ∧ rest = following := by
  rw [← readIdentifier?_eq_some_iff, readIdentifier?_quoteIdentifier hfollowing]
  simp only [Option.some.injEq, Prod.mk.injEq, eq_comm]

theorem quoteIdentifier_injective : Function.Injective quoteIdentifier := by
  intro name other hsame
  have hread : readIdentifier? (quoteIdentifier name ++ "") = some (name, "") :=
    readIdentifier?_quoteIdentifier (by simp)
  rw [hsame, readIdentifier?_quoteIdentifier (by simp)] at hread
  cases hread
  rfl

/-- A statement asks for the columns of a table: behind its first words stand the name of
the table and a closing bracket. -/
def RefersTo (statement table : String) : Prop :=
  ∃ text, statement = "PRAGMA table_info(" ++ text ∧ Named text table ")"

/-- **A statement on a table refers to that one table.** -/
theorem refersTo_columnsStatement_iff : RefersTo (columnsStatement name) other ↔ other = name := by
  have hclosing : ")".toList.head? ≠ some '"' := by simp
  have hnamed : Named (quoteIdentifier name ++ ")") other ")" ↔ other = name ∧ ")" = ")" :=
    named_quoteIdentifier_iff hclosing
  have hstatement : columnsStatement name = "PRAGMA table_info(" ++ (quoteIdentifier name ++ ")") :=
    String.append_assoc
  rw [RefersTo, hstatement]
  constructor
  · rintro ⟨text, hsame, htext⟩
    rw [← (String.append_right_inj _).mp hsame] at htext
    exact (hnamed.mp htext).1
  · intro hother
    exact ⟨_, rfl, hnamed.mpr ⟨hother, rfl⟩⟩

end Names

/-! ## Statements that are sent -/

/-- The statement of a call. -/
def Call.statement? : Call → Option String
  | .execute _ sql => some sql
  | _ => none

/-- The statements that were sent. -/
def sent (calls : List Call) : List String := calls.filterMap Call.statement?

namespace Backend

variable {δ : Type} {driver : Driver δ} {h : Handle} {site : Site} {id : String}
  {b b₁ : Backend δ}

/-- Reading the cells of rows calls nothing. -/
theorem perform_mapM_cellAt (b : Backend δ) (rows : List (List Value)) (i : Nat) :
    (perform b (rows.mapM (cellAt · i))).2 = b := by
  induction rows with
  | nil =>
      rw [List.mapM_nil]
      rfl
  | cons row rows ih =>
      have hcell : (perform b (cellAt row i : Action δ Value)).2 = b := by
        unfold cellAt
        split <;> rfl
      rw [List.mapM_cons, perform_bind]
      rcases hanswer : perform b (cellAt row i) with ⟨f | cell, b'⟩
      · rw [hanswer] at hcell
        exact hcell
      obtain rfl : b' = b := by
        rw [hanswer] at hcell
        exact hcell
      simp only [perform_bind, perform_pure]
      rcases hrest : perform b' (rows.mapM (cellAt · i)) with ⟨f | cells, b''⟩
      · rw [hrest] at ih
        exact ih
      · rw [hrest] at ih
        exact ih

/-- Listing the tables changes nothing that is kept. -/
theorem connections_listing (driver : Driver δ) (h : Handle) (b : Backend δ) :
    (perform b (listing driver h)).2.connections = b.connections := by
  unfold listing
  simp only [perform_bind, perform_calling]
  rcases driver.execute h tablesStatement b.driver with ⟨f | c, d₁⟩
  · rfl
  simp only
  rcases driver.fetchAll h d₁ with ⟨f | rows, d₂⟩
  · rfl
  simp only [perform_mapM_cellAt]

/-- Asking for the columns of a table sends one statement, wherever it breaks off. -/
theorem sent_columnsOf (driver : Driver δ) (h : Handle) (b : Backend δ) (name : String) :
    sent (perform b (columnsOf driver h (.text name))).2.calls =
      sent b.calls ++ [columnsStatement name] := by
  unfold columnsOf
  simp only [perform_bind, perform_calling]
  rcases driver.execute h (columnsStatement name) b.driver with ⟨f | c, d₁⟩
  · simp [sent, Call.statement?]
  simp only
  rcases driver.fetchAll h d₁ with ⟨f | rows, d₂⟩
  · simp [sent, Call.statement?]
  · simp [sent, Call.statement?, perform_mapM_cellAt]

/-- A table whose name is no text is not asked for. -/
theorem columnsOf_of_no_text (driver : Driver δ) (h : Handle) (b : Backend δ) {table : Value}
    (hno : ∀ name, table ≠ .text name) :
    ∃ f, perform b (columnsOf driver h table) = (.error f, b) := by
  cases table with
  | text name => exact absurd rfl (hno name)
  | _ => exact ⟨_, rfl⟩

/-- Every table with its columns. -/
def describing (driver : Driver δ) (h : Handle) (tables : List Value) :
    Action δ (List (Value × List Value)) :=
  tables.mapM fun table => do pure (table, ← columnsOf driver h table)

/-- The statements that were sent on tables: they go through the tables in order, each
refers to its own, and with an answer there is one for every table. -/
structure Asks (tables : List Value) (answer : Except Failure (List (Value × List Value)))
    (names statements : List String) : Prop where
  inOrder : names.map Value.text <+: tables
  refers : List.Forall₂ (fun statement name => ∀ table, RefersTo statement table ↔ table = name)
    statements names
  answered : ∀ infos, answer = .ok infos →
    tables = names.map Value.text ∧ infos.map (·.1) = tables

/-- **The statements on the tables that were listed** refer to these tables. -/
theorem asks_describing (b : Backend δ) (tables : List Value) :
    ∃ names statements,
      sent (perform b (describing driver h tables)).2.calls = sent b.calls ++ statements ∧
        Asks tables (perform b (describing driver h tables)).1 names statements := by
  unfold describing
  induction tables generalizing b with
  | nil =>
      refine ⟨[], [], (List.append_nil _).symm, List.prefix_rfl, .nil, fun infos hinfos => ?_⟩
      cases hinfos
      exact ⟨rfl, rfl⟩
  | cons table tables ih =>
      rw [List.mapM_cons]
      simp only [perform_bind]
      by_cases htext : ∃ name, table = .text name
      · obtain ⟨name, rfl⟩ := htext
        have hsent := sent_columnsOf driver h b name
        have hrefers : ∀ table, RefersTo (columnsStatement name) table ↔ table = name :=
          fun table => refersTo_columnsStatement_iff
        rcases hanswer : perform b (columnsOf driver h (.text name)) with ⟨f | columns, b'⟩
        · rw [hanswer] at hsent
          exact ⟨[name], [columnsStatement name], hsent, by simp, .cons hrefers .nil, nofun⟩
        · rw [hanswer] at hsent
          obtain ⟨names, statements, hrest, hasks⟩ := ih b'
          simp only [perform_pure]
          rcases hlater : perform b' (tables.mapM fun table => do
            pure (table, ← columnsOf driver h table)) with ⟨f | infos, b''⟩
          all_goals
            rw [hlater] at hrest hasks
            have hall : sent b''.calls = sent b.calls ++ columnsStatement name :: statements := by
              rw [hrest, hsent, List.append_assoc, List.singleton_append]
            have hprefix : (name :: names).map Value.text <+: .text name :: tables :=
              List.cons_prefix_cons.mpr ⟨rfl, hasks.inOrder⟩
          · exact ⟨name :: names, _, hall, hprefix, .cons hrefers hasks.refers, nofun⟩
          · refine ⟨name :: names, _, hall, hprefix, .cons hrefers hasks.refers, ?_⟩
            intro infos' hinfos
            cases hinfos
            obtain ⟨htables, hfirsts⟩ := hasks.answered infos rfl
            exact ⟨by rw [htables]; rfl, by rw [← hfirsts]; rfl⟩
      · obtain ⟨f, hfailed⟩ := columnsOf_of_no_text driver h b
          fun name hname => htext ⟨name, hname⟩
        rw [hfailed]
        exact ⟨[], [], (List.append_nil _).symm, by simp, .nil, nofun⟩

/-- Without the tables nothing is asked about them. -/
theorem perform_describe_of_error {f : Failure}
    (hlisted : perform b (listTables driver site id) = (.error f, b₁)) :
    perform b (describe driver site id) = (.error f, b₁) := by
  unfold describe
  rw [perform_bind, hlisted]

theorem perform_describe_of_listed {tables : List Value}
    (hlisted : perform b (listTables driver site id) = (.ok tables, b₁)) :
    ∃ h, perform b (describe driver site id) = perform b₁ (describing driver h tables) := by
  have hlist : listTables driver site id = connection driver site id >>= listing driver := rfl
  unfold describe
  rw [perform_bind, hlisted]
  rw [hlist, perform_bind] at hlisted
  rcases hconnection : perform b (connection driver site id) with ⟨f | h, b₀⟩
  · rw [hconnection] at hlisted
    cases hlisted
  · rw [hconnection] at hlisted
    change perform b₀ (listing driver h) = (.ok tables, b₁) at hlisted
    have hkept := connections_listing driver h b₀
    rw [hlisted] at hkept
    have hget : b₁.connections.get? id = some h := by
      rw [hkept]
      exact get?_of_connection hconnection
    simp only [perform_bind, perform_connection_of_get? hget]
    exact ⟨h, rfl⟩

/-- **A statement on a table refers to that table.**  A quoted name, with a closing bracket
and any text behind it, is read as that name, and no more and no less is taken for it;
different names are quoted differently; and the statement on the columns of a table refers
to it and to no other.

So a request for the columns of all tables, once these are listed, sends statements that
refer to the tables in turn, each to its own, until it breaks off; and if it gives an
answer, it has sent one for each. -/
theorem statements_refer_to_tables (driver : Driver δ) (site : Site) (id : String)
    (b : Backend δ) :
    (∀ name following other rest,
      Named (quoteIdentifier name ++ ")" ++ following) other rest ↔
        other = name ∧ rest = ")" ++ following) ∧
      Function.Injective quoteIdentifier ∧
      (∀ name table, RefersTo (columnsStatement name) table ↔ table = name) ∧
      let described := perform b (describe driver site id)
      (∀ f b₁, perform b (listTables driver site id) = (.error f, b₁) →
        described = (.error f, b₁)) ∧
      ∀ tables b₁, perform b (listTables driver site id) = (.ok tables, b₁) →
        ∃ names statements, sent described.2.calls = sent b₁.calls ++ statements ∧
          Asks tables described.1 names statements := by
  refine ⟨?_, quoteIdentifier_injective, fun _ _ => refersTo_columnsStatement_iff, ?_, ?_⟩
  · intro name following other rest
    rw [String.append_assoc]
    exact named_quoteIdentifier_iff (by simp)
  · exact fun f b₁ => perform_describe_of_error
  · intro tables b₁ hlisted
    obtain ⟨h, hdescribed⟩ := perform_describe_of_listed hlisted
    rw [hdescribed]
    exact asks_describing b₁ tables

/-- A name that would close the bracket and go on with another statement, if its quote were
not written twice. -/
def hostileName : String := "a\"); DROP TABLE b; --"

/-- A database with a table of that name. -/
def hostileTables : Script := { items := [], tables := some [⟨hostileName, ["c"]⟩] }

set_option maxRecDepth 20000 in
/-- The statement on that table refers to it, and is answered with its columns. -/
theorem statements_refer_to_tables_hostile :
    let start : Backend Script := { driver := hostileTables }
    let listed := perform start (listTables Script.driver nowhere inMemory)
    let described := perform start (describe Script.driver nowhere inMemory)
    listed.1 = .ok [.text hostileName] ∧
      described.1 = .ok [(.text hostileName, [.text "c"])] ∧
      ∃ names statements, sent described.2.calls = sent listed.2.calls ++ statements ∧
        Asks [.text hostileName] described.1 names statements := by
  intro start listed described
  have hlisted : listed.1 = .ok [.text hostileName] := by rfl
  refine ⟨hlisted, by rfl, ?_⟩
  exact (statements_refer_to_tables Script.driver nowhere inMemory start).2.2.2.2 _ _
    (Prod.ext hlisted rfl)

end Backend

end QueryDesk.Sqlite
