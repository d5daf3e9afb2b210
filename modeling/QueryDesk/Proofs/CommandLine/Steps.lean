import QueryDesk.CommandLine.Program
import QueryDesk.Proofs.Text.Utf8

/-!
# What steps do at a terminal

A step at a terminal may fail on the way, and what it did until then stays done.
`perform` says what a step answers and how it leaves the terminal; the equations here
take it apart.  The log is the one thing that is written at many places and changes
nothing but itself: records may be added before or after everything else.

The first thing that a command which runs a statement does is to find the statement.
Its arguments ask for one, or they ask for none and a message tells why, or the name or
the bytes of a file are no text and the step fails; there is no fourth case.

## Main results

* `perform_bind` — what comes next is done if nothing failed before it.
* `logged_with` — the log does not look at what else changes.
* `asks_or_undecodable`, `perform_statement` — how the statement to run is found.
-/

namespace QueryDesk.CommandLine

open Execution (Failure)
open Storage

namespace Terminal

variable {δ α β : Type}

/-- What a step answers, and the terminal after it. -/
def perform (t : Terminal δ) (a : Step δ α) : Except Failure α × Terminal δ := ExceptT.run a t

/-! ## Putting steps together -/

@[simp] theorem perform_pure (t : Terminal δ) (x : α) :
    t.perform (pure x : Step δ α) = (.ok x, t) := rfl

@[simp] theorem perform_throw (t : Terminal δ) (f : Failure) :
    t.perform (throw f : Step δ α) = (.error f, t) := rfl

@[simp] theorem perform_get (t : Terminal δ) :
    t.perform (get : Step δ (Terminal δ)) = (.ok t, t) := rfl

@[simp] theorem perform_modify (t : Terminal δ) (f : Terminal δ → Terminal δ) :
    t.perform (modify f : Step δ PUnit) = (.ok ⟨⟩, f t) := rfl

/-- What comes next is done if nothing failed before it. -/
@[simp] theorem perform_bind (t : Terminal δ) (a : Step δ α) (f : α → Step δ β) :
    t.perform (a >>= f) =
      match t.perform a with
      | (.ok x, t') => t'.perform (f x)
      | (.error e, t') => (.error e, t') := by
  unfold perform ExceptT.run
  simp only [bind, ExceptT.bind, ExceptT.mk, StateT.bind, ExceptT.bindCont]
  rcases a t with ⟨x | e, t'⟩ <;> rfl

@[simp] theorem perform_map (t : Terminal δ) (f : α → β) (a : Step δ α) :
    t.perform (f <$> a) = ((t.perform a).1.map f, (t.perform a).2) := by
  rw [← bind_pure_comp, perform_bind]
  rcases t.perform a with ⟨e | x, t'⟩ <;> rfl

@[simp] theorem perform_write (t : Terminal δ) (text : String) :
    t.perform (Step.write text) = (.ok ⟨⟩, { t with out := t.out ++ text }) := rfl

@[simp] theorem perform_complain (t : Terminal δ) (text : String) :
    t.perform (Step.complain text) = (.ok ⟨⟩, { t with err := t.err ++ text }) := rfl

@[simp] theorem perform_unlessError {ε : Type} (t : Terminal δ) (failure : ε → Failure)
    (answer : Except ε α) :
    t.perform (Step.unlessError failure answer) = (answer.mapError failure, t) := by
  cases answer <;> rfl

/-! ## The log -/

/-- The terminal with more records in its log. -/
def logged (t : Terminal δ) (records : List Log.Record) : Terminal δ := records.foldl record t

@[simp] theorem perform_log (t : Terminal δ) (records : List Log.Record) :
    t.perform (Step.log records) = (.ok ⟨⟩, t.logged records) := rfl

/-- What a record is written to, and no more. -/
theorem record_eq (t : Terminal δ) (r : Log.Record) :
    ∃ logs err, t.record r = { t with logs, err } := by
  unfold record
  split
  · exact ⟨t.logs, t.err, rfl⟩
  · simp only
    split
    · exact ⟨_, _, rfl⟩
    · exact ⟨_, t.err, rfl⟩

theorem logged_eq (t : Terminal δ) (records : List Log.Record) :
    ∃ logs err, t.logged records = { t with logs, err } := by
  induction records generalizing t with
  | nil => exact ⟨t.logs, t.err, rfl⟩
  | cons r records ih =>
      obtain ⟨logs, err, hrecord⟩ := t.record_eq r
      obtain ⟨logs', err', hlogged⟩ := ih (t.record r)
      refine ⟨logs', err', ?_⟩
      rw [logged, List.foldl_cons, ← logged, hlogged, hrecord]

theorem record_with (t : Terminal δ) (r : Log.Record) (files : FileSystem) (driver : δ)
    (calls : List Sqlite.Call) (out : String) :
    ({ t with files, driver, calls, out } : Terminal δ).record r
      = { t.record r with files, driver, calls, out } := by
  unfold record
  simp only
  split
  · rfl
  · split <;> rfl

/-- **The log does not look at what else changes.** -/
theorem logged_with (t : Terminal δ) (records : List Log.Record) (files : FileSystem) (driver : δ)
    (calls : List Sqlite.Call) (out : String) :
    ({ t with files, driver, calls, out } : Terminal δ).logged records
      = { t.logged records with files, driver, calls, out } := by
  induction records generalizing t with
  | nil => rfl
  | cons r records ih =>
      show ((({ t with files, driver, calls, out } : Terminal δ).record r).logged records) = _
      rw [record_with, ih]
      rfl

theorem logged_append (t : Terminal δ) (records more : List Log.Record) :
    t.logged (records ++ more) = (t.logged records).logged more :=
  List.foldl_append

section Fields

variable (t : Terminal δ) (records : List Log.Record)

@[simp] theorem files_logged : (t.logged records).files = t.files := by
  obtain ⟨logs, err, h⟩ := t.logged_eq records
  rw [h]

@[simp] theorem surroundings_logged : (t.logged records).surroundings = t.surroundings := by
  obtain ⟨logs, err, h⟩ := t.logged_eq records
  rw [h]

@[simp] theorem site_logged : (t.logged records).site = t.site := by
  obtain ⟨logs, err, h⟩ := t.logged_eq records
  rw [h]
  rfl

@[simp] theorem driver_logged : (t.logged records).driver = t.driver := by
  obtain ⟨logs, err, h⟩ := t.logged_eq records
  rw [h]

@[simp] theorem calls_logged : (t.logged records).calls = t.calls := by
  obtain ⟨logs, err, h⟩ := t.logged_eq records
  rw [h]

@[simp] theorem out_logged : (t.logged records).out = t.out := by
  obtain ⟨logs, err, h⟩ := t.logged_eq records
  rw [h]

@[simp] theorem opened_logged : (t.logged records).opened = t.opened := by
  obtain ⟨logs, err, h⟩ := t.logged_eq records
  rw [h]

end Fields

/-! ## The statement to run -/

/-- What the arguments of a command ask for: a statement, or a message because there is
none. -/
inductive Asks (t : Terminal δ) : Option String → Option String → Except String String → Prop
  /-- The statement itself is given, and a file does not count. -/
  | given {sql : String} {file : Option String} (hsql : sql ≠ "") : Asks t (some sql) file (.ok sql)
  /-- A file is given, with the statement as text. -/
  | read {sql : Option String} {name : String} {cs : List Char} (hsql : sql.getD "" = "")
      (hname : name ≠ "") (hnul : (Path.ofString name).hasNul = false)
      (hread : t.files.read t.surroundings.work (Path.ofString name)
        = .ok (Text.Utf8.encode cs)) :
      Asks t sql (some name) (.ok (String.ofList (Text.Utf8.lineFeedsOnly cs)))
  | absent {sql : Option String} {name : String} (hsql : sql.getD "" = "") (hname : name ≠ "")
      (hnul : (Path.ofString name).hasNul = false)
      (hread : t.files.read t.surroundings.work (Path.ofString name) = .error .notFound) :
      Asks t sql (some name) (.error ("Error: File '" ++ name ++ "' not found.\n"))
  /-- The system refuses to read the file. -/
  | unreadable {sql : Option String} {name : String} {e : SystemError} (hsql : sql.getD "" = "")
      (hname : name ≠ "") (hnul : (Path.ofString name).hasNul = false)
      (hread : t.files.read t.surroundings.work (Path.ofString name) = .error e)
      (he : e ≠ .notFound) :
      Asks t sql (some name)
        (.error ("Error reading file: " ++ e.message (Path.ofString name) ++ "\n"))
  | nothing {sql file : Option String} (hsql : sql.getD "" = "") (hfile : file.getD "" = "") :
      Asks t sql file (.error "Error: Either --query or --file must be provided.\n")

/-- The arguments of a command name a file whose name or whose bytes are no text. -/
inductive Undecodable (t : Terminal δ) (sql : Option String) : Option String → Prop
  | name {name : String} (hsql : sql.getD "" = "") (hname : name ≠ "")
      (hnul : (Path.ofString name).hasNul = true) : Undecodable t sql (some name)
  | bytes {name : String} {bytes : List UInt8} (hsql : sql.getD "" = "")
      (hname : name ≠ "") (hnul : (Path.ofString name).hasNul = false)
      (hread : t.files.read t.surroundings.work (Path.ofString name) = .ok bytes)
      (hbytes : ∀ cs, bytes ≠ Text.Utf8.encode cs) : Undecodable t sql (some name)

/-- Arguments always ask for a statement or for a message, unless a file is no text. -/
theorem asks_or_undecodable (t : Terminal δ) (sql file : Option String) :
    (∃ asked, t.Asks sql file asked) ∨ t.Undecodable sql file := by
  by_cases hsql : sql.getD "" = ""
  · by_cases hfile : file.getD "" = ""
    · exact .inl ⟨_, .nothing hsql hfile⟩
    · cases file with
      | none => exact absurd rfl hfile
      | some name =>
          cases hnul : (Path.ofString name).hasNul with
          | true => exact .inr (.name hsql hfile hnul)
          | false =>
              cases hread : t.files.read t.surroundings.work (Path.ofString name) with
              | error e =>
                  by_cases he : e = .notFound
                  · exact .inl ⟨_, .absent hsql hfile hnul (he ▸ hread)⟩
                  · exact .inl ⟨_, .unreadable hsql hfile hnul hread he⟩
              | ok bytes =>
                  by_cases hbytes : ∃ cs, bytes = Text.Utf8.encode cs
                  · obtain ⟨cs, rfl⟩ := hbytes
                    exact .inl ⟨_, .read hsql hfile hnul hread⟩
                  · exact .inr (.bytes hsql hfile hnul hread fun cs h => hbytes ⟨cs, h⟩)
  · cases sql with
    | none => exact absurd rfl hsql
    | some sql => exact .inl ⟨_, .given hsql⟩

/-- A message that takes the place of a statement says that it is an error. -/
theorem Asks.error_prefix {t : Terminal δ} {sql file : Option String} {message : String}
    (h : t.Asks sql file (.error message)) : "Error".toList <+: message.toList := by
  cases h with
  | absent | unreadable =>
      rw [String.append_assoc, String.toList_append]
      exact List.prefix_append_of_prefix (by decide)
  | nothing => decide

theorem perform_statement_file {sql : Option String} {name : String} (t : Terminal δ)
    (hsql : sql.getD "" = "") (hname : name ≠ "") :
    t.perform (Step.statement sql (some name)) = t.perform (Step.fileText name) := by
  simp [Step.statement, hsql, hname]

/-- **How the statement to run is found.** -/
theorem perform_statement {t : Terminal δ} {sql file : Option String}
    {asked : Except String String} (h : t.Asks sql file asked) :
    t.perform (Step.statement sql file) =
      match asked with
      | .ok statement => (.ok (some statement), t)
      | .error message => (.ok none, { t with out := t.out ++ message }) := by
  cases h with
  | given hsql => simp [Step.statement, hsql]
  | @read sql name cs hsql hname hnul hread =>
      have hdecode : Text.Utf8.decode? (Text.Utf8.encode cs) = some cs :=
        Text.Utf8.decode?_eq_some_iff.mpr rfl
      rw [perform_statement_file t hsql hname]
      simp [Step.fileText, hnul, hread, hdecode]
  | absent hsql hname hnul hread =>
      rw [perform_statement_file t hsql hname]
      simp [Step.fileText, hnul, hread, Except.map]
  | @unreadable sql name e hsql hname hnul hread he =>
      rw [perform_statement_file t hsql hname]
      simp only [Step.fileText, hnul, perform_bind, perform_get, hread]
      cases e with
      | notFound => exact absurd rfl he
      | _ => rfl
  | nothing hsql hfile => simp [Step.statement, hsql, hfile, Except.map]

theorem perform_statement_undecodable {t : Terminal δ} {sql file : Option String}
    (h : t.Undecodable sql file) :
    ∃ f, t.perform (Step.statement sql file) = (.error f, t) := by
  cases h with
  | name hsql hname hnul =>
      rw [perform_statement_file t hsql hname]
      exact ⟨Sqlite.pathFailure .nulCharacter, by simp [Step.fileText, hnul]⟩
  | @bytes name bytes hsql hname hnul hread hbytes =>
      have hdecode : Text.Utf8.decode? bytes = none :=
        Option.eq_none_iff_forall_ne_some.mpr fun cs h =>
          hbytes cs (Text.Utf8.decode?_eq_some_iff.mp h)
      rw [perform_statement_file t hsql hname]
      exact ⟨⟨.encoding, "not a text", true⟩, by simp [Step.fileText, hnul, hread, hdecode]⟩

end Terminal

end QueryDesk.CommandLine
