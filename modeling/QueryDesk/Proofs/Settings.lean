import QueryDesk.Proofs.OrderedMap
import QueryDesk.Proofs.Text.Blank
import QueryDesk.Settings

/-!
# Settings from a document

A document may hold any value under any name.  Each of the seven fields is looked at on its
own: a proper value decides what the setting is, and the setting is its default where the
value is not proper or not there.  What is proper differs from field to field.  A list of
keywords counts only as a whole, while a list of snippets loses the items that describe
none; a number has to be a positive integer, and a truth value is none.

## Main results

* `stands_entry` — what a field is: the value under its name, or the default.
* `Stands.proper` — a setting is always in its domain.
* `ofFields_entries` — the settings of a document, whatever it holds.
-/

namespace QueryDesk.Settings

open Completion

/-! ## Fields and entries -/

/-- The fields of a document that are settings. -/
inductive Field where
  | keywords
  | snippets
  | olderKey
  | newerKey
  | maxHistory
  | maxRows
  | logLevel
  deriving DecidableEq, Repr

namespace Field

/-- The fields in order. -/
def all : List Field :=
  [keywords, snippets, olderKey, newerKey, maxHistory, maxRows, logLevel]

/-- The name of a field in a document. -/
def name : Field → String
  | keywords => "keywords"
  | snippets => "snippets"
  | olderKey => "history_older_key"
  | newerKey => "history_newer_key"
  | maxHistory => "max_history"
  | maxRows => "max_rows"
  | logLevel => "log_level"

end Field

theorem fieldNames_eq : fieldNames = Field.all.map Field.name := rfl

/-- What one of the settings is. -/
inductive Entry where
  | words (ws : List String)
  | snippets (ss : List Suggestion)
  | key (name : String)
  | count (n : Nat)
  | level (name : String)
  deriving DecidableEq

/-- The setting that a field is about. -/
def entry (s : Settings) : Field → Entry
  | .keywords => .words s.keywords
  | .snippets => .snippets s.snippets
  | .olderKey => .key s.keys.older
  | .newerKey => .key s.keys.newer
  | .maxHistory => .count s.maxHistory
  | .maxRows => .count s.maxRows
  | .logLevel => .level s.logLevel

/-- A setting is in its domain. -/
def Entry.Proper : Entry → Prop
  | .words ws => ∀ w ∈ ws, Text.isBlankText w = false
  | .snippets ss => ∀ s ∈ ss, s.label ≠ "" ∧ s.kind = .snippet
  | .key name => Text.isBlankText name = false ∧ Text.strip name = name
  | .count n => 0 < n
  | .level name => name ∈ Log.thresholds.map (·.1) ∧ Text.upper name = name

/-! ## Proper values -/

/-- The detail of a snippet, for what a document says of it. -/
def detailOf : Option Value → String
  | some (.text d) => d
  | _ => ""

/-- An item describes a snippet: it has a label, and the text to insert is the label where
there is no other. -/
inductive Describes : Value → Suggestion → Prop where
  | labelled {fields : OrderedMap String Value} {label insertText : String}
      (hlabel : fields.get? "label" = some (.text label)) (hfilled : label ≠ "")
      (hinsert : fields.get? "insert_text" = some (.text insertText) ∨
        fields.get? "insert_text" = none ∧ insertText = label) :
      Describes (.object fields)
        ⟨label, .snippet, insertText, detailOf (fields.get? "detail")⟩

/-- The snippets that some items describe, in their order. -/
inductive Described : List Value → List Suggestion → Prop where
  | nil : Described [] []
  | take {item : Value} {s : Suggestion} {items : List Value} {ss : List Suggestion}
      (hitem : Describes item s) (h : Described items ss) : Described (item :: items) (s :: ss)
  | skip {item : Value} {items : List Value} {ss : List Suggestion}
      (hitem : ∀ s, ¬ Describes item s) (h : Described items ss) : Described (item :: items) ss

/-- A value is proper for a field, and this is the setting that it stands for. -/
inductive Accepts : Field → Value → Entry → Prop where
  /-- A list of nothing but texts; the blank ones are left out. -/
  | keywords (texts : List String) :
      Accepts .keywords (.list (texts.map .text)) (.words (texts.filter (!Text.isBlankText ·)))
  | snippets {items : List Value} {ss : List Suggestion} (h : Described items ss) :
      Accepts .snippets (.list items) (.snippets ss)
  | key {f : Field} {text : String} (hf : f = .olderKey ∨ f = .newerKey)
      (hfilled : Text.isBlankText text = false) : Accepts f (.text text) (.key (Text.strip text))
  | count {f : Field} {n : Nat} (hf : f = .maxHistory ∨ f = .maxRows) (hpos : 0 < n) :
      Accepts f (.int n) (.count n)
  | level {text : String} (h : Text.upper text ∈ Log.thresholds.map (·.1)) :
      Accepts .logLevel (.text text) (.level (Text.upper text))

/-- What the setting of a field is in a document. -/
inductive Stands (data : OrderedMap String Value) (f : Field) : Entry → Prop where
  | accepted {value : Value} {e : Entry} (hvalue : data.get? f.name = some value)
      (h : Accepts f value e) : Stands data f e
  | default (h : ∀ value e, data.get? f.name = some value → ¬ Accepts f value e) :
      Stands data f (({} : Settings).entry f)

/-! ## What is read is what is proper -/

theorem describes_iff {item : Value} {s : Suggestion} :
    Describes item s ↔ snippet? item = some s := by
  constructor
  · rintro ⟨hlabel, hfilled, hinsert⟩
    rcases hinsert with hinsert | ⟨hinsert, rfl⟩
    · simp only [snippet?, hlabel, hinsert, Option.getD_some, if_neg hfilled]
      rfl
    · simp only [snippet?, hlabel, hinsert, Option.getD_none, if_neg hfilled]
      rfl
  · intro h
    unfold snippet? at h
    split at h
    · rename_i fields
      split at h
      · rename_i label hlabel
        split at h
        · rename_i insertText hinsert
          split at h
          · cases h
          · rename_i hfilled
            obtain rfl := Option.some.inj h
            refine .labelled hlabel hfilled ?_
            cases htext : OrderedMap.get? fields "insert_text" with
            | none =>
                rw [htext, Option.getD_none] at hinsert
                exact .inr ⟨rfl, (Value.text.inj hinsert).symm⟩
            | some value =>
                rw [htext, Option.getD_some] at hinsert
                exact .inl (congrArg some hinsert)
        · cases h
      · cases h
    · cases h

theorem described_filterMap (items : List Value) : Described items (items.filterMap snippet?) := by
  induction items with
  | nil => exact .nil
  | cons item items ih =>
      cases h : snippet? item with
      | none =>
          rw [List.filterMap_cons_none h]
          exact .skip (fun s hs => by rw [describes_iff, h] at hs; cases hs) ih
      | some s =>
          rw [List.filterMap_cons_some h]
          exact .take (describes_iff.mpr h) ih

theorem Described.eq_filterMap {items : List Value} {ss : List Suggestion}
    (h : Described items ss) : ss = items.filterMap snippet? := by
  induction h with
  | nil => rfl
  | take hitem _ ih => rw [List.filterMap_cons_some (describes_iff.mp hitem), ih]
  | @skip item items ss hitem _ ih =>
      have hnone : snippet? item = none :=
        Option.eq_none_iff_forall_ne_some.mpr fun s hs => hitem s (describes_iff.mpr hs)
      rw [List.filterMap_cons_none hnone, ih]

/-- A list is read as texts if it is a list of nothing but texts. -/
theorem mapM_text {read : Value → Option String} (hread : ∀ v s, read v = some s ↔ v = .text s)
    {items : List Value} {texts : List String} :
    items.mapM read = some texts ↔ items = texts.map .text := by
  induction items generalizing texts with
  | nil => simp [eq_comm]
  | cons item items ih =>
      cases texts with
      | nil => simp [Option.bind_eq_some_iff]
      | cons text texts =>
          simp only [List.mapM_cons, List.map_cons, List.cons.injEq, ← hread, ← ih]
          cases read item <;> cases items.mapM read <;> simp

theorem texts?_eq_some_iff {v : Value} {ws : List String} :
    texts? v = some ws ↔
      ∃ texts : List String, v = .list (texts.map .text) ∧
        texts.filter (!Text.isBlankText ·) = ws := by
  cases v with
  | list items =>
      simp only [texts?, Option.bind_eq_bind, Option.bind_eq_some_iff, Option.pure_def,
        Option.some.injEq, Value.list.injEq]
      refine exists_congr fun texts => and_congr_left fun _ => mapM_text fun v s => ?_
      cases v <;> simp
  | _ => simp [texts?]

theorem keyName?_eq_some_iff {v : Value} {name : String} :
    keyName? v = some name ↔
      ∃ text, v = .text text ∧ Text.isBlankText text = false ∧ Text.strip text = name := by
  cases v with
  | text s => cases hblank : Text.isBlankText s <;> simp [keyName?, hblank]
  | _ => simp [keyName?]

theorem positive?_eq_some_iff {v : Value} {n : Nat} :
    positive? v = some n ↔ v = .int n ∧ 0 < n := by
  cases v with
  | int m =>
      simp only [positive?, Value.int.injEq]
      split <;> simp <;> omega
  | _ => simp [positive?]

theorem logLevel?_eq_some_iff {v : Value} {name : String} :
    logLevel? v = some name ↔
      ∃ text, v = .text text ∧ Text.upper text ∈ Log.thresholds.map (·.1) ∧
        Text.upper text = name := by
  cases v with
  | text s =>
      have hlookup : (Log.thresholds.lookup (Text.upper s)).isSome = true ↔
          Text.upper s ∈ Log.thresholds.map (·.1) := by
        rw [List.lookup_isSome_iff, List.mem_map]
        simp only [beq_iff_eq, @eq_comm _ (Text.upper s)]
      simp [logLevel?, hlookup]
  | _ => simp [logLevel?]

/-! ## Each field on its own -/

/-- Reads a value for a field. -/
def Field.read : Field → Value → Option Entry
  | .keywords, v => (texts? v).map .words
  | .snippets, v => (snippets? v).map .snippets
  | .olderKey, v | .newerKey, v => (keyName? v).map .key
  | .maxHistory, v | .maxRows, v => (positive? v).map .count
  | .logLevel, v => (logLevel? v).map .level

/-- **What is read is what is proper.** -/
theorem Field.read_eq_some_iff {f : Field} {v : Value} {e : Entry} :
    f.read v = some e ↔ Accepts f v e := by
  constructor
  · intro h
    have hkey (hf : f = .olderKey ∨ f = .newerKey) (h : (keyName? v).map .key = some e) :
        Accepts f v e := by
      obtain ⟨name, hread, rfl⟩ := Option.map_eq_some_iff.mp h
      obtain ⟨text, rfl, hfilled, rfl⟩ := keyName?_eq_some_iff.mp hread
      exact .key hf hfilled
    have hcount (hf : f = .maxHistory ∨ f = .maxRows) (h : (positive? v).map .count = some e) :
        Accepts f v e := by
      obtain ⟨n, hread, rfl⟩ := Option.map_eq_some_iff.mp h
      obtain ⟨rfl, hpos⟩ := positive?_eq_some_iff.mp hread
      exact .count hf hpos
    cases f with
    | keywords =>
        obtain ⟨ws, hread, rfl⟩ := Option.map_eq_some_iff.mp h
        obtain ⟨texts, rfl, rfl⟩ := texts?_eq_some_iff.mp hread
        exact .keywords texts
    | snippets =>
        obtain ⟨ss, hread, rfl⟩ := Option.map_eq_some_iff.mp h
        cases v with
        | list items =>
            obtain rfl := Option.some.inj hread
            exact .snippets (described_filterMap items)
        | _ => cases hread
    | olderKey => exact hkey (.inl rfl) h
    | newerKey => exact hkey (.inr rfl) h
    | maxHistory => exact hcount (.inl rfl) h
    | maxRows => exact hcount (.inr rfl) h
    | logLevel =>
        obtain ⟨name, hread, rfl⟩ := Option.map_eq_some_iff.mp h
        obtain ⟨text, rfl, hname, rfl⟩ := logLevel?_eq_some_iff.mp hread
        exact .level hname
  · intro h
    cases h with
    | keywords texts =>
        rw [Field.read, texts?_eq_some_iff.mpr ⟨texts, rfl, rfl⟩]
        rfl
    | snippets h =>
        rw [h.eq_filterMap]
        rfl
    | key hf hfilled =>
        have hread := keyName?_eq_some_iff.mpr ⟨_, rfl, hfilled, rfl⟩
        rcases hf with rfl | rfl <;> rw [Field.read, hread] <;> rfl
    | count hf hpos =>
        have hread := positive?_eq_some_iff.mpr ⟨rfl, hpos⟩
        rcases hf with rfl | rfl <;> rw [Field.read, hread] <;> rfl
    | level h =>
        rw [Field.read, logLevel?_eq_some_iff.mpr ⟨_, rfl, h, rfl⟩]
        rfl

/-- A setting is read from the value under its name alone. -/
theorem entry_ofFields (data : OrderedMap String Value) (f : Field) :
    (ofFields data).entry f = ((data.get? f.name).bind f.read).getD (({} : Settings).entry f) := by
  have hwrap {α : Type} (wrap : α → Entry) (read : Value → Option α) (default : α)
      (value : Option Value) : wrap ((value.bind read).getD default) =
        (value.bind fun v => (read v).map wrap).getD (wrap default) := by
    cases value with
    | none => rfl
    | some v => cases h : read v <;> simp [h]
  cases f <;> exact hwrap _ _ _ _

/-- **What a field is**: the value under its name, or the default. -/
theorem stands_entry (data : OrderedMap String Value) (f : Field) :
    Stands data f ((ofFields data).entry f) := by
  rw [entry_ofFields]
  cases hread : (data.get? f.name).bind f.read with
  | none =>
      refine .default fun value e hvalue h => ?_
      rw [hvalue, Option.bind_some, Field.read_eq_some_iff.mpr h] at hread
      cases hread
  | some e =>
      obtain ⟨value, hvalue, h⟩ := Option.bind_eq_some_iff.mp hread
      exact .accepted hvalue (Field.read_eq_some_iff.mp h)

/-! ## Domains -/

theorem upper_threshold : ∀ name ∈ Log.thresholds.map (·.1), Text.upper name = name := by
  decide +kernel

theorem Described.proper {items : List Value} {ss : List Suggestion} (h : Described items ss) :
    (Entry.snippets ss).Proper := by
  induction h with
  | nil => exact fun s hs => absurd hs List.not_mem_nil
  | take hitem _ ih =>
      obtain ⟨-, hfilled, -⟩ := hitem
      exact List.forall_mem_cons.mpr ⟨⟨hfilled, rfl⟩, ih⟩
  | skip _ _ ih => exact ih

theorem Accepts.proper {f : Field} {v : Value} {e : Entry} (h : Accepts f v e) : e.Proper := by
  cases h with
  | keywords texts => exact fun w hw => by simpa using (List.mem_filter.mp hw).2
  | snippets h => exact h.proper
  | key hf hfilled => exact ⟨by rw [Text.isBlankText_strip, hfilled], Text.strip_strip _⟩
  | count hf hpos => exact hpos
  | level h => exact ⟨h, upper_threshold _ h⟩

/-- The defaults are in their domains. -/
theorem proper_default (f : Field) : (({} : Settings).entry f).Proper := by
  cases f <;> simp only [entry, Entry.Proper] <;> decide +kernel

/-- **A setting is always in its domain.** -/
theorem Stands.proper {data : OrderedMap String Value} {f : Field} {e : Entry}
    (h : Stands data f e) : e.Proper := by
  cases h with
  | accepted _ h => exact h.proper
  | default => exact proper_default f

/-! ## The rest of a document -/

theorem foldl_remove (names : List String) (data : OrderedMap String Value) :
    names.foldl OrderedMap.remove data = data.filter fun e => e.1 ∉ names := by
  induction names generalizing data with
  | nil => simp
  | cons name names ih =>
      rw [List.foldl_cons, ih, OrderedMap.remove_eq_filter, List.filter_filter]
      simp [not_or, Bool.and_comm]

/-- **The settings of a document, whatever it holds.**  Each of the seven is what the value
under its name stands for, if that is proper, and else its default; so it is always in its
domain, and no other part of the document has a say in it.  What is left of the document when
the seven names are taken out is kept, and the static floor is the snippets, then one
suggestion for each keyword. -/
theorem ofFields_entries (data : OrderedMap String Value) :
    (∀ f : Field, Stands data f ((ofFields data).entry f) ∧ ((ofFields data).entry f).Proper ∧
      ∀ data' : OrderedMap String Value, data'.get? f.name = data.get? f.name →
        (ofFields data').entry f = (ofFields data).entry f) ∧
    (ofFields data).extra = (Field.all.map Field.name).foldl OrderedMap.remove data ∧
    (ofFields data).floor = (ofFields data).snippets ++
      (ofFields data).keywords.map fun k => ⟨k, .keyword, k, ""⟩ := by
  refine ⟨fun f => ?_, ?_, rfl⟩
  · have hstands := stands_entry data f
    refine ⟨hstands, hstands.proper, fun data' hsame => ?_⟩
    rw [entry_ofFields, entry_ofFields, hsame]
  · rw [foldl_remove, ← fieldNames_eq]
    rfl

/-- A truth value is no number of rows, whatever else two documents hold. -/
theorem ofFields_entries_truth_value :
    let data : OrderedMap String Value :=
      [("max_rows", .bool true), ("keywords", .text "SELECT"), ("theme", .text "dark")]
    let data' : OrderedMap String Value := [("log_level", .text "LOUD"), ("max_rows", .bool true)]
    data'.get? "max_rows" = data.get? "max_rows" ∧
      (ofFields data').entry .maxRows = (ofFields data).entry .maxRows ∧
      (ofFields data).entry .maxRows = .count 10000 := by
  intro data data'
  have hsame : data'.get? "max_rows" = data.get? "max_rows" := rfl
  exact ⟨hsame, ((ofFields_entries data).1 .maxRows).2.2 data' hsame, rfl⟩

end QueryDesk.Settings
