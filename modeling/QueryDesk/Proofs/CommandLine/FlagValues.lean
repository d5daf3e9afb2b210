import QueryDesk.Proofs.CommandLine.Assignments
import QueryDesk.Proofs.CommandLine.Operands
import QueryDesk.Proofs.CommandLine.Querying
import QueryDesk.Proofs.Storage.Loading

/-!
# The values of flags

A command line is looked at twice.  The database is taken out by the names of the flags that
take a value; what is left is read by a grammar, which also knows a flag by a part of its
name that no other flag begins with.  For a flag that is written in full, both take the next
argument for its value.  For one that is cut short, only the grammar does: taking out the
database passes over the flag alone, and if no word came before, its value is the first one.

## Main results

* `awaitsValue_iff` — the spellings of the flags that the next argument belongs to.
* `takeDatabase_of_mistaken`, `keeps_takeDatabase` — when the value of such a flag is taken
  out, and that it stays otherwise.
* `splitDatabase_values` — the two together, and what it means for opening the editor.
* `short_flag_loses_value` — the settings are opened as a database.
-/

namespace QueryDesk.CommandLine

/-! ## Flags that wait for a value -/

/-- Whether the program reads an argument as a flag whose value is the next argument. -/
def awaitsValue (arg : String) : Bool :=
  match programGrammar.shape arg with
  | .ok (.flag use) => use.flag.parameter.isSome && use.joined.isNone
  | _ => false

theorem awaitsValue_of_mem {flag : String} (h : flag ∈ valueFlags) : awaitsValue flag = true := by
  simp only [valueFlags, List.mem_cons, List.not_mem_nil, or_false] at h
  rcases h with rfl | rfl <;> decide

theorem isFlag_of_shape {g : Grammar} {arg : String} {use : FlagUse}
    (h : g.shape arg = .ok (.flag use)) : isFlag arg = true := by
  by_cases hdash : arg.toList.head? = some '-'
  · simp [isFlag, hdash]
  · simp [Grammar.shape, hdash] at h

theorem isFlag_of_awaitsValue {arg : String} (h : awaitsValue arg = true) : isFlag arg = true := by
  unfold awaitsValue at h
  split at h
  · rename_i use hshape
    exact isFlag_of_shape hshape
  · cases h

/-- A flag that is cut short is found as long as a letter of its name is left. -/
theorem awaitsValue_take : ∀ name ∈ valueFlags, ∀ n < name.toList.length - 2,
    awaitsValue (String.ofList (name.toList.take (n + 3))) = true := by
  decide

/-- The dashes alone stand for no flag. -/
theorem not_awaitsValue_take : ∀ name ∈ valueFlags, ∀ n < 3,
    awaitsValue (String.ofList (name.toList.take n)) = false := by
  decide

/-- The flags of the program that have a parameter are those that a value belongs to. -/
theorem mem_valueFlags_of_parameter {name : String} {f : Flag}
    (h : (name, f) ∈ programGrammar.flagNames) (hparameter : f.parameter.isSome = true) :
    name ∈ valueFlags := by
  have hall : ∀ e ∈ programGrammar.flagNames, e.2.parameter.isSome = true → e.1 ∈ valueFlags := by
    decide
  exact hall _ h hparameter

/-- What an argument without an equals sign is looked up by is the argument itself. -/
theorem splitEquals_eq_of_none {cs : List Char} (h : (splitEquals cs).2 = none) :
    (splitEquals cs).1 = cs := by
  unfold splitEquals at h ⊢
  split at h
  · cases h
  · rfl

/-- How an argument can have the shape of a flag. -/
theorem Grammar.shape_eq_flag {g : Grammar} {arg : String} {use : FlagUse}
    (h : g.shape arg = .ok (.flag use)) :
    (use = ⟨use.flag, arg, none⟩ ∧ (arg, use.flag) ∈ g.flagNames) ∨ use.joined.isSome = true ∨
      g.candidates arg.toList = [use] := by
  unfold Grammar.shape at h
  simp only at h
  split at h
  · cases h
  split at h
  · rename_i f hflag
    obtain rfl := Shape.flag.inj (Except.ok.inj h)
    have hlookup : g.flagNames.lookup arg = some f := by
      simpa [Grammar.flag?] using hflag
    obtain ⟨l, l', hnames, -⟩ := List.lookup_eq_some_iff.mp hlookup
    exact .inl ⟨rfl, by simp [hnames]⟩
  split at h
  · cases h
  split at h
  · obtain rfl := Shape.flag.inj (Except.ok.inj h)
    exact .inr (.inl rfl)
  split at h
  · rename_i use' hcandidates
    obtain rfl := Shape.flag.inj (Except.ok.inj h)
    exact .inr (.inr hcandidates)
  · have hshape := Except.ok.inj h
    split at hshape <;> cases hshape
  · cases h

/-- A flag that an argument is cut short of, with the value in the next argument. -/
theorem candidate_awaiting {cs : List Char} {use : FlagUse}
    (h : use ∈ programGrammar.candidates cs) (hjoined : use.joined = none)
    (hparameter : use.flag.parameter.isSome = true) :
    ∃ name ∈ valueFlags, cs <+: name.toList := by
  obtain ⟨⟨name, f⟩, hmem, hsome⟩ := List.mem_filterMap.mp h
  simp only at hsome
  split at hsome
  · split at hsome
    · rename_i hprefix
      obtain rfl := Option.some.inj hsome
      rw [splitEquals_eq_of_none hjoined] at hprefix
      exact ⟨name, mem_valueFlags_of_parameter hmem hparameter,
        List.isPrefixOf_iff_prefix.mp hprefix⟩
    · cases hsome
  · split at hsome
    · obtain rfl := Option.some.inj hsome
      cases hjoined
    · split at hsome
      · rename_i hprefix
        obtain rfl := Option.some.inj hsome
        exact ⟨name, mem_valueFlags_of_parameter hmem hparameter,
          List.isPrefixOf_iff_prefix.mp hprefix⟩
      · cases hsome

/-- **A flag is known by its name, and by every part of its name that begins it and has more
than the two dashes.** -/
theorem awaitsValue_iff {arg : String} :
    awaitsValue arg = true ↔
      ∃ name ∈ valueFlags, arg.toList <+: name.toList ∧ 2 < arg.toList.length := by
  constructor
  · intro h
    have hawaits := h
    unfold awaitsValue at h
    split at h
    · rename_i use hshape
      obtain ⟨hparameter, hnone⟩ := Bool.and_eq_true_iff.mp h
      rcases Grammar.shape_eq_flag hshape with ⟨-, hmem⟩ | hsome | hcandidates
      · have hname := mem_valueFlags_of_parameter hmem hparameter
        refine ⟨arg, hname, List.prefix_refl _, ?_⟩
        have hall : ∀ name ∈ valueFlags, 2 < name.toList.length := by decide
        exact hall arg hname
      · simp [Option.isNone_iff_eq_none.mp hnone] at hsome
      · have huse : use ∈ programGrammar.candidates arg.toList := by simp [hcandidates]
        obtain ⟨name, hname, hprefix⟩ :=
          candidate_awaiting huse (Option.isNone_iff_eq_none.mp hnone) hparameter
        refine ⟨name, hname, hprefix, Nat.lt_of_not_le fun hshort => ?_⟩
        have hcut := not_awaitsValue_take name hname arg.toList.length (Nat.lt_succ_of_le hshort)
        rw [← List.prefix_iff_eq_take.mp hprefix, String.ofList_toList, hawaits] at hcut
        cases hcut
    · cases h
  · rintro ⟨name, hname, hprefix, hlength⟩
    have hle := hprefix.length_le
    obtain ⟨n, hn⟩ : ∃ n, arg.toList.length = n + 3 := ⟨arg.toList.length - 3, by omega⟩
    have harg : arg = String.ofList (name.toList.take (n + 3)) := by
      rw [← hn, ← List.prefix_iff_eq_take.mp hprefix, String.ofList_toList]
    rw [harg]
    exact awaitsValue_take name hname n (by omega)

/-! ## What a value is kept by -/

/-- What may stand on a command line before a flag that waits for its value: flags, each with
its value if it waits for one, and words that are no commands. -/
inductive Ahead : List String → Prop where
  | nil : Ahead []
  | flag {arg : String} {rest : List String} (hflag : isFlag arg = true)
      (halone : awaitsValue arg = false) (h : Ahead rest) : Ahead (arg :: rest)
  | value {flag value : String} {rest : List String} (hflag : awaitsValue flag = true)
      (hvalue : programGrammar.shape value = .ok .word) (h : Ahead rest) :
      Ahead (flag :: value :: rest)
  | word {arg : String} {rest : List String} (harg : isFlag arg = false)
      (hnot : arg ∉ commandNames) (h : Ahead rest) : Ahead (arg :: rest)

/-- What is written before a flag is passed over, or a word in it ends the walk. -/
theorem Ahead.passedOver_or {before : List String} (h : Ahead before) :
    PassedOver before ∨ ∃ front arg rest, before = front ++ arg :: rest ∧ PassedOver front ∧
      isFlag arg = false := by
  induction h with
  | nil => exact .inl .nil
  | @flag arg rest hflag halone _ ih =>
      have hnot : arg ∉ valueFlags := fun hmem => by
        rw [awaitsValue_of_mem hmem] at halone
        cases halone
      rcases ih with hrest | ⟨front, word, rest', rfl, hfront, hword⟩
      · exact .inl (.flag hflag hnot hrest)
      · exact .inr ⟨arg :: front, word, rest', rfl, .flag hflag hnot hfront, hword⟩
  | @value flag value rest hflag hvalue _ ih =>
      by_cases hmem : flag ∈ valueFlags
      · rcases ih with hrest | ⟨front, word, rest', rfl, hfront, hword⟩
        · exact .inl (.pair hmem hrest)
        · exact .inr ⟨flag :: value :: front, word, rest', rfl, .pair hmem hfront, hword⟩
      · have hpassed : PassedOver [flag] := .flag (isFlag_of_awaitsValue hflag) hmem .nil
        cases hword : isFlag value with
        | false => exact .inr ⟨[flag], value, rest, rfl, hpassed, hword⟩
        | true =>
            have hnot : value ∉ valueFlags := fun hmem => by
              have hawaits := awaitsValue_of_mem hmem
              simp [awaitsValue, hvalue] at hawaits
            rcases ih with hrest | ⟨front, word, rest', rfl, hfront, hword'⟩
            · exact .inl (hpassed.append (.flag hword hnot hrest))
            · exact .inr ⟨flag :: value :: front, word, rest', rfl,
                hpassed.append (.flag hword hnot hfront), hword'⟩
  | @word arg rest harg hnot _ _ => exact .inr ⟨[], arg, rest, rfl, .nil, harg⟩

/-- The database is taken out before some arguments, or behind them, or not at all; they stay
in their place. -/
inductive Keeps (before kept after : List String) : Option String × List String → Prop where
  | whole : Keeps before kept after (none, before ++ (kept ++ after))
  | before {front rest : List String} {db : String} (h : before = front ++ db :: rest) :
      Keeps before kept after (some db, front ++ rest ++ (kept ++ after))
  | after {front rest : List String} {db : String} (h : after = front ++ db :: rest) :
      Keeps before kept after (some db, before ++ (kept ++ (front ++ rest)))

/-- The value of a flag is taken for the database: the flag is cut short, its value is written
like a word, and no other word was found before. -/
structure Mistaken (before : List String) (flag value : String) : Prop where
  passed : PassedOver before
  short : flag ∉ valueFlags
  unflagged : isFlag value = false
  unnamed : value ∉ commandNames

section Values

variable {before after : List String} {flag value : String}

theorem takeDatabase_of_mistaken (h : Mistaken before flag value)
    (hflag : awaitsValue flag = true) :
    takeDatabase none (before ++ flag :: value :: after) =
      (some value, before ++ flag :: after) := by
  rw [takeDatabase_passedOver h.passed,
    takeDatabase_flag (isFlag_of_awaitsValue hflag) h.short,
    takeDatabase_operand h.unflagged h.unnamed]

/-- Behind what is kept, a walk takes out at most what stands there. -/
theorem Walk.keeps {answer : Option String × List String} (h : Walk after answer)
    (before kept : List String) :
    Keeps before kept after (answer.1, before ++ (kept ++ answer.2)) := by
  cases h with
  | flags | short | command => exact .whole
  | operand => exact .after rfl

/-- A walk that begins with a flag leaves it at the front. -/
theorem Walk.keeps_flag {answer : Option String × List String} (h : Walk (value :: after) answer)
    (hvalue : isFlag value = true) (before : List String) (flag : String) :
    Keeps before [flag, value] after (answer.1, before ++ flag :: answer.2) := by
  generalize hargs : value :: after = args at h
  cases h with
  | flags | short | command =>
      rw [← hargs]
      exact .whole
  | @operand front arg h harg hnot rest =>
      cases front with
      | nil =>
          obtain ⟨rfl, -⟩ := List.cons.inj hargs
          rw [hvalue] at harg
          cases harg
      | cons first front =>
          obtain ⟨rfl, rfl⟩ := List.cons.inj hargs
          exact .after rfl

/-- **Whether the value of a flag stays with it.**  It does unless it is mistaken. -/
theorem keeps_takeDatabase (hbefore : Ahead before) (hflag : awaitsValue flag = true)
    (h : ¬ Mistaken before flag value) :
    Keeps before [flag, value] after (takeDatabase none (before ++ flag :: value :: after)) := by
  rcases hbefore.passedOver_or with hpassed | ⟨front, word, rest, rfl, hfront, hword⟩
  · rw [takeDatabase_passedOver hpassed]
    by_cases hmem : flag ∈ valueFlags
    · rw [takeDatabase_pair hmem]
      exact (walk_takeDatabase after).keeps before [flag, value]
    · rw [takeDatabase_flag (isFlag_of_awaitsValue hflag) hmem]
      cases hvalue : isFlag value with
      | true => exact (walk_takeDatabase _).keeps_flag hvalue before flag
      | false =>
          -- A word that is not mistaken can only be a command.
          by_cases hname : value ∈ commandNames
          · rw [takeDatabase_command hvalue hname]
            exact .whole
          · exact absurd ⟨hpassed, hmem, hvalue, hname⟩ h
  · rw [List.append_assoc, takeDatabase_passedOver hfront, List.cons_append]
    by_cases hname : word ∈ commandNames
    · rw [takeDatabase_command hword hname]
      have hwhole : Keeps (front ++ word :: rest) [flag, value] after
          (none, front ++ word :: rest ++ ([flag, value] ++ after)) := .whole
      simpa using hwhole
    · rw [takeDatabase_operand hword hname]
      have hword : Keeps (front ++ word :: rest) [flag, value] after
          (some word, front ++ rest ++ ([flag, value] ++ after)) := .before rfl
      simpa using hword

theorem Keeps.cons {kept : List String} {answer : Option String × List String}
    (h : Keeps before kept after answer) (program : String) :
    Keeps (program :: before) kept after (answer.1, program :: answer.2) := by
  cases h with
  | whole => exact .whole
  | @before front rest db h =>
      have hfront : program :: before = (program :: front) ++ db :: rest := congrArg _ h
      exact .before hfront
  | after h => exact .after h

end Values

/-! ## Whole command lines -/

/-- A flag whose value is the next argument is not cut short. -/
def Assignment.InFull (s : Assignment) : Prop :=
  ∀ arg value, s.args = [arg, value] → arg ∈ valueFlags

/-- Assignments in full are passed over. -/
theorem Assignment.Reads.passedOver {s : Assignment} (h : s.Reads programGrammar)
    (hfull : s.InFull) : PassedOver s.args := by
  cases h with
  | @apart arg name value =>
      exact .pair (hfull arg value rfl) .nil
  | @joined arg name text f p a harg hflag =>
      refine .flag (isFlag_of_shape hflag) (fun hmem => ?_) .nil
      have hawaits := awaitsValue_of_mem hmem
      simp [awaitsValue, hflag] at hawaits

theorem passedOver_line {ss : List Assignment} (h : ∀ s ∈ ss, s.Reads programGrammar)
    (hfull : ∀ s ∈ ss, s.InFull) : PassedOver (Assignment.line ss) := by
  induction ss with
  | nil => exact .nil
  | cons s ss ih =>
      obtain ⟨hs, hss⟩ := List.forall_mem_cons.mp h
      obtain ⟨hsfull, hssfull⟩ := List.forall_mem_cons.mp hfull
      exact (hs.passedOver hsfull).append (ih hss hssfull)

/-- **What a command line of assignments asks for**, with a database between them. -/
theorem read_line {ps qs : List Assignment} {db : String} (program : String)
    (hreads : ∀ s ∈ ps ++ qs, s.Reads programGrammar) (hfull : ∀ s ∈ ps, s.InFull)
    (hplain : isFlag db = false) (hnot : db ∉ commandNames) :
    Invocation.read (program :: (Assignment.line ps ++ db :: Assignment.line qs)) =
      .ok ⟨Assignment.last (ps ++ qs) "--settings", Assignment.last (ps ++ qs) "--log-level",
        .edit (some db)⟩ := by
  have hpassed : PassedOver (Assignment.line ps) :=
    passedOver_line (fun s hs => hreads s (List.mem_append_left _ hs)) hfull
  have hsplit : splitDatabase (program :: (Assignment.line ps ++ db :: Assignment.line qs)) =
      (some db, program :: Assignment.line (ps ++ qs)) := by
    rw [splitDatabase, takeDatabase_passedOver hpassed, takeDatabase_operand hplain hnot]
    simp [Assignment.line]
  exact read_of_split hreads hsplit

/-! ## Opening the editor -/

namespace Terminal

variable {δ : Type}

/-- The settings that stand at one path, and the place that another one leads to. -/
structure Finds (t : Terminal δ) (settingsPath database : String) (settings : Settings)
    (connection : String) : Prop where
  /-- The paths can be opened. -/
  settingsNamed : settingsPath ≠ "" ∧ '\x00' ∉ settingsPath.toList
  databaseNamed : database ≠ ""
  reads : ∃ path logs, Settings.path t.surroundings (some settingsPath) = .ok path ∧
    Settings.load ⟨path⟩ t.files t.surroundings = .ok (settings, logs)
  leads : Sqlite.databasePath t.files t.surroundings database = .ok connection

/-- The editor opens with the database and the settings that an invocation names. -/
theorem Finds.perform_invoke {t : Terminal δ} {settingsPath database connection : String}
    {settings : Settings} (h : t.Finds settingsPath database settings connection)
    (driver : Sqlite.Driver δ) (level : Option String) :
    ∃ after, t.perform (Step.invoke driver ⟨some settingsPath, level, .edit (some database)⟩) =
        (.ok 0, after) ∧ after.opened = t.opened ++ [⟨some connection, settings⟩] := by
  obtain ⟨path, logs, hpath, hload⟩ := h.reads
  have hoverride : t.perform (Step.overrideSettings (some settingsPath)) =
      (.ok ⟨⟩, { t with settingsPath := some settingsPath }) := by
    simp [Step.overrideSettings, h.settingsNamed]
  have hedit (t' : Terminal δ) (hfiles : t'.files = t.files)
      (hsurroundings : t'.surroundings = t.surroundings) :
      t'.perform (Step.edit settings (some database)) =
        (.ok 0, { t' with opened := t'.opened ++ [⟨some connection, settings⟩] }) := by
    simp [Step.edit, h.databaseNamed, perform_database, hfiles, hsurroundings, h.leads,
      Except.mapError, Except.map]
  let given : Terminal δ := { t with settingsPath := some settingsPath }
  have hsettings : given.perform Step.settings = (.ok settings, given.logged logs) :=
    perform_settings hpath hload
  let ready : Terminal δ :=
    { given.logged logs with
      logging := some ⟨(Log.thresholds.lookup (level.getD settings.logLevel)).getD none, .file⟩ }
  have hready : t.perform (Step.invoke driver ⟨some settingsPath, level, .edit (some database)⟩) =
      ready.perform (Step.edit settings (some database)) := by
    simp only [Step.invoke, perform_bind, hoverride]
    rw [hsettings]
    rfl
  refine ⟨{ ready with opened := ready.opened ++ [⟨some connection, settings⟩] }, ?_, ?_⟩
  · rw [hready, hedit ready (files_logged given logs) (surroundings_logged given logs)]
  · show (given.logged logs).opened ++ _ = _
    rw [opened_logged]

end Terminal

/-! ## Settings beside a database -/

/-- The flag for the settings. -/
def settingsFlag : Flag :=
  { names := ["--settings"], parameter := some (.text "PATH"), help := "Path to settings JSON file" }

/-- The settings that are given in the argument behind a flag. -/
def settingsFrom (name path : String) : Assignment := ⟨[name, path], settingsFlag, .text path⟩

theorem reads_settingsFrom {name path : String} (hname : name = "--settings" ∨ name = "--set")
    (hpath : programGrammar.shape path = .ok .word) (hmark : path ≠ mark) :
    (settingsFrom name path).Reads programGrammar := by
  have hflag : name ≠ mark ∧
      programGrammar.shape name = .ok (.flag ⟨settingsFlag, "--settings", none⟩) := by
    rcases hname with rfl | rfl <;> decide
  have hread : settingsFlag.read (.text "PATH") path = .ok (.text path) := by
    rw [Flag.read, if_neg hmark]
    rfl
  exact .apart hflag.1 hflag.2 hmark hpath rfl hread

theorem inFull_settingsFrom {name path : String} (h : name ∈ valueFlags) :
    (settingsFrom name path).InFull := fun arg value hargs => by
  obtain ⟨rfl, -⟩ := List.cons.inj hargs
  exact h

/-- A terminal at the root, where the settings are an empty object. -/
def besideSettings : Terminal Sqlite.Script :=
  { files := [(["s.json"], .file (Text.Utf8.encode "\x7b\x7d".toList) 0o600)]
    surroundings := { work := [], home := [], config := [] }
    driver := { items := [] }
    returnsRows := Statement.returnsRows
    layout := fun _ => "" }

theorem finds_besideSettings : besideSettings.Finds "s.json" "shop.db" {} "/shop.db" where
  settingsNamed := by decide
  databaseNamed := by decide
  reads := ⟨Storage.Path.ofString "s.json", [], rfl, by
    have hlines : "\x7b\x7d" = String.ofList (Text.Utf8.lineFeedsOnly "\x7b\x7d".toList) := by rfl
    have hobject : Storage.Document.HoldsObject ⟨Storage.Path.ofString "s.json"⟩
        besideSettings.files besideSettings.surroundings [] :=
      ⟨"\x7b\x7d", ⟨"\x7b\x7d".toList, rfl, hlines⟩, by rfl⟩
    rw [Settings.load, Storage.Document.load_of_holdsObject (by decide) hobject]
    rfl⟩
  leads := rfl

/-! ## The two readings together -/

/-- **The value of a flag stays with its flag, unless the flag is cut short.**  Of a flag that
waits for its value, both are left in place, and the database is found elsewhere or nowhere;
but if the flag is cut short, and its value would be the first word, that is taken out as the
database.  So where the flags before the database are written in full, the editor opens with
the database and the settings that the command line names. -/
theorem splitDatabase_values (program : String) :
    (∀ before flag value after, Ahead before → awaitsValue flag = true →
      (Mistaken before flag value →
        splitDatabase (program :: (before ++ flag :: value :: after)) =
          (some value, program :: (before ++ flag :: after))) ∧
      (¬ Mistaken before flag value →
        Keeps (program :: before) [flag, value] after
          (splitDatabase (program :: (before ++ flag :: value :: after))))) ∧
    ∀ (ps qs : List Assignment) (db : String), (∀ s ∈ ps ++ qs, s.Reads programGrammar) →
      (∀ s ∈ ps, s.InFull) → isFlag db = false → db ∉ commandNames →
      let argv := program :: (Assignment.line ps ++ db :: Assignment.line qs)
      Invocation.read argv =
        .ok ⟨Assignment.last (ps ++ qs) "--settings", Assignment.last (ps ++ qs) "--log-level",
          .edit (some db)⟩ ∧
      ∀ {δ : Type} (t : Terminal δ) (driver : Sqlite.Driver δ) (settingsPath connection : String)
        (settings : Settings), Assignment.last (ps ++ qs) "--settings" = some settingsPath →
        t.Finds settingsPath db settings connection →
        ∃ after, t.run driver argv = (.ok 0, after) ∧
          after.opened = t.opened ++ [⟨some connection, settings⟩] := by
  refine ⟨fun before flag value after hbefore hflag => ⟨fun h => ?_, fun h => ?_⟩, ?_⟩
  · rw [splitDatabase, takeDatabase_of_mistaken h hflag]
  · exact (keeps_takeDatabase hbefore hflag h).cons program
  · intro ps qs db hreads hfull hplain hnot argv
    have hread := read_line program hreads hfull hplain hnot
    refine ⟨hread, fun t driver settingsPath connection settings hlast hfinds => ?_⟩
    have hrun : t.run driver argv = t.perform (Step.run driver argv) := rfl
    rw [hrun, Step.run, hread, hlast]
    exact hfinds.perform_invoke driver _

/-- A flag in full keeps its value, one that is cut short loses it. -/
theorem splitDatabase_values_both :
    splitDatabase ["querypad", "--set", "s.json", "shop.db"] =
        (some "s.json", ["querypad", "--set", "shop.db"]) ∧
      Keeps ["querypad"] ["--settings", "s.json"] ["shop.db"]
        (splitDatabase ["querypad", "--settings", "s.json", "shop.db"]) ∧
      ∃ after, besideSettings.run Sqlite.Script.driver
          ["querypad", "--settings", "s.json", "shop.db"] = (.ok 0, after) ∧
        after.opened = [⟨some "/shop.db", {}⟩] := by
  obtain ⟨hvalues, hlines⟩ := splitDatabase_values "querypad"
  have hmistaken : Mistaken [] "--set" "s.json" := ⟨.nil, by decide, rfl, by decide⟩
  have hkept : ¬ Mistaken [] "--settings" "s.json" := fun h => h.short (by decide)
  have hreads : ∀ s ∈ [settingsFrom "--settings" "s.json"] ++ [], s.Reads programGrammar := by
    simpa using reads_settingsFrom (.inl rfl) (by decide) (by decide)
  have hfull : ∀ s ∈ [settingsFrom "--settings" "s.json"], s.InFull := by
    simpa using inFull_settingsFrom (by decide)
  exact ⟨(hvalues [] "--set" "s.json" ["shop.db"] .nil (by decide)).1 hmistaken,
    (hvalues [] "--settings" "s.json" ["shop.db"] .nil (by decide)).2 hkept,
    (hlines [settingsFrom "--settings" "s.json"] [] "shop.db" hreads hfull rfl (by decide)).2
      besideSettings Sqlite.Script.driver "s.json" "/shop.db" {} rfl finds_besideSettings⟩

/-- **A flag that is cut short loses its value**: the settings are opened as the database, and
the database is read as the settings. -/
theorem short_flag_loses_value :
    let argv := ["querypad", "--set", "s.json", "shop.db"]
    Ahead [] ∧ awaitsValue "--set" = true ∧
      splitDatabase argv = (some "s.json", ["querypad", "--set", "shop.db"]) ∧
      Invocation.read argv = .ok ⟨some "shop.db", none, .edit (some "s.json")⟩ := by
  intro argv
  have hsplit : splitDatabase argv = (some "s.json", ["querypad", "--set", "shop.db"]) := rfl
  have hreads : ∀ s ∈ [settingsFrom "--set" "shop.db"], s.Reads programGrammar := by
    simpa using reads_settingsFrom (.inr rfl) (by decide) (by decide)
  exact ⟨.nil, by decide, hsplit, read_of_split hreads hsplit⟩

end QueryDesk.CommandLine
