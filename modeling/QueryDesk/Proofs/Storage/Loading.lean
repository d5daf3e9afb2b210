import QueryDesk.Proofs.Json.Reading
import QueryDesk.Proofs.Text.Utf8
import QueryDesk.Storage.Document

/-!
# Documents loaded

What loading answers depends on the file alone, in two stages.  The file is absent,
or its bytes are those of a text, or it cannot be read as one.  A text holds an
object, or something else, or it is one on which the reader gives up.  The file is
described here without the functions that look at it: by the characters whose bytes
it has and by what the reader makes of these.

Loading is meant to answer whatever is in the file.  It does, but for two kinds of
text: those with an integer of too many digits and those whose lists and objects lie
too deep in each other.  How deep that is depends on the place from which it is loaded.

## Main results

* `load_of_holdsText` — loading is reading a text, where the file holds one.
* `readable_of_load` — a document that is loaded is readable.
* `load_answers` — what loading answers about every file.
* `load_long_integer` — a file on which it gives up.
-/

namespace QueryDesk.Storage.Document

/-! ## What a file holds -/

/-- The file of a document holds a text: its bytes are those of some characters,
and the text is these with a line feed at the end of every line. -/
def HoldsText (d : Document) (fs : FileSystem) (s : Surroundings) (text : String) : Prop :=
  ∃ cs, fs.read s.work d.path = .ok (Text.Utf8.encode cs) ∧
    text = String.ofList (Text.Utf8.lineFeedsOnly cs)

/-- The text in the file of a document is that of an object. -/
def HoldsObject (d : Document) (fs : FileSystem) (s : Surroundings) (fields : Fields) : Prop :=
  ∃ text, d.HoldsText fs s text ∧ Json.read s.room.read text = .ok (.object fields)

/-- A text that is not read to its end, with the reason. `room` is how many lists and
objects may lie in each other there. -/
inductive GivesUp (room : Nat) (text : String) : LoadError → Prop where
  | integerTooLong (hread : Json.read room text = .error .integerTooLong)
      (hrow : Json.HasLongRow text.toList) : GivesUp room text .integerTooLong
  | tooDeep (hread : Json.read room text = .error .tooDeep)
      (hdeep : Json.NestsBeyond room text.toList) : GivesUp room text .tooDeep

section

variable {d : Document} {fs : FileSystem} {s : Surroundings} {room : Nat} {text : String}
  {e : LoadError}

/-! ## Reading the text -/

/-- **The texts on which loading gives up** are those on which the reader does. -/
theorem parse_eq_error_iff : d.parse room text = .error e ↔ GivesUp room text e := by
  constructor
  · intro h
    unfold parse at h
    split at h
    · rename_i hread
      obtain rfl := Except.error.inj h
      exact .integerTooLong hread (Json.hasLongRow_of_read hread)
    · rename_i hread
      obtain rfl := Except.error.inj h
      exact .tooDeep hread (Json.nestsBeyond_of_read hread)
    all_goals cases h
  · intro h
    cases h with
    | integerTooLong hread _ => simp only [parse, hread]
    | tooDeep hread _ => simp only [parse, hread]

/-- A text that holds no object makes a warning, unless the reader gives up on it. -/
theorem parse_of_no_object (hobject : ∀ fields, Json.read room text ≠ .ok (.object fields))
    (hgives : ∀ e, ¬ GivesUp room text e) :
    ∃ r : Log.Record, r.level = .warning ∧ d.parse room text = .ok ([], [r]) := by
  have hanswers : ∀ e, d.parse room text ≠ .error e := fun e h => hgives e (parse_eq_error_iff.mp h)
  unfold parse at hanswers ⊢
  split
  · rename_i hread
    exact absurd (by rw [hread]) (hanswers .integerTooLong)
  · rename_i hread
    exact absurd (by rw [hread]) (hanswers .tooDeep)
  · exact ⟨_, rfl, rfl⟩
  · rename_i hread
    exact absurd hread (hobject _)
  · exact ⟨_, rfl, rfl⟩

/-! ## Reading the file -/

/-- Loading is reading a text, where the file holds one. -/
theorem load_of_holdsText (hpath : d.path.hasNul = false) (h : d.HoldsText fs s text) :
    d.load fs s = d.parse s.room.read text := by
  obtain ⟨cs, hread, rfl⟩ := h
  simp only [load, hpath, Bool.false_eq_true, if_false, hread,
    Text.Utf8.decode?_eq_some_iff.mpr rfl]

theorem load_of_absent (hpath : d.path.hasNul = false)
    (h : fs.read s.work d.path = .error .notFound) : d.load fs s = .ok ([], []) := by
  simp only [load, hpath, Bool.false_eq_true, if_false, h]

/-- A file that is there and holds no text makes a warning. -/
theorem load_of_no_text (hpath : d.path.hasNul = false)
    (hthere : fs.read s.work d.path ≠ .error .notFound) (h : ∀ text, ¬ d.HoldsText fs s text) :
    ∃ r : Log.Record, r.level = .warning ∧ d.load fs s = .ok ([], [r]) := by
  simp only [load, hpath, Bool.false_eq_true, if_false]
  split
  · rename_i hread
    exact absurd hread hthere
  · exact ⟨_, rfl, rfl⟩
  · rename_i bytes hread
    split
    · exact ⟨_, rfl, rfl⟩
    · rename_i cs hdecode
      obtain rfl := Text.Utf8.decode?_eq_some_iff.mp hdecode
      exact absurd ⟨cs, hread, rfl⟩ (h _)

/-! ## The two together -/

/-- **When loading gives up.** -/
theorem load_eq_error_iff (hpath : d.path.hasNul = false) :
    d.load fs s = .error e ↔ ∃ text, d.HoldsText fs s text ∧ GivesUp s.room.read text e := by
  constructor
  · intro h
    by_cases htext : ∃ text, d.HoldsText fs s text
    · obtain ⟨text, htext⟩ := htext
      rw [load_of_holdsText hpath htext] at h
      exact ⟨text, htext, parse_eq_error_iff.mp h⟩
    · by_cases habsent : fs.read s.work d.path = .error .notFound
      · rw [load_of_absent hpath habsent] at h
        cases h
      · obtain ⟨r, -, hload⟩ := load_of_no_text hpath habsent fun text h => htext ⟨text, h⟩
        rw [hload] at h
        cases h
  · rintro ⟨text, htext, hgives⟩
    rw [load_of_holdsText hpath htext]
    exact parse_eq_error_iff.mpr hgives

/-- A file that holds an object is loaded as that object. -/
theorem load_of_holdsObject (hpath : d.path.hasNul = false) {fields : Fields}
    (h : d.HoldsObject fs s fields) : d.load fs s = .ok (fields, []) := by
  obtain ⟨text, htext, hread⟩ := h
  rw [load_of_holdsText hpath htext]
  simp only [parse, hread]

/-- Every other file makes a warning. -/
theorem load_of_no_object (hpath : d.path.hasNul = false)
    (hthere : fs.read s.work d.path ≠ .error .notFound)
    (hobject : ∀ fields, ¬ d.HoldsObject fs s fields)
    (hgives : ∀ text e, d.HoldsText fs s text → ¬ GivesUp s.room.read text e) :
    ∃ r : Log.Record, r.level = .warning ∧ d.load fs s = .ok ([], [r]) := by
  by_cases htext : ∃ text, d.HoldsText fs s text
  · obtain ⟨text, htext⟩ := htext
    rw [load_of_holdsText hpath htext]
    exact parse_of_no_object (fun fields hread => hobject fields ⟨text, htext, hread⟩)
      fun e => hgives text e htext
  · exact load_of_no_text hpath hthere fun text h => htext ⟨text, h⟩

/-! ## What is loaded -/

/-- **A document that is loaded is readable**, whatever the file. -/
theorem readable_of_load {fields : Fields} {logs : List Log.Record}
    (h : d.load fs s = .ok (fields, logs)) : Json.Readable s.room.read (.object fields) := by
  have hempty : Json.Readable s.room.read (.object []) := by
    have hone : Json.Readable 1 (.object []) := .object List.nodup_nil fun f hf => by cases hf
    exact hone.mono (Nat.le_of_succ_le s.room.ample)
  have hparse : ∀ text, d.parse s.room.read text = .ok (fields, logs) →
      Json.Readable s.room.read (.object fields) := by
    intro text hparse
    unfold parse at hparse
    split at hparse
    · cases hparse
    · cases hparse
    · cases hparse
      exact hempty
    · rename_i hread
      cases hparse
      exact Json.readable_of_read hread
    · cases hparse
      exact hempty
  unfold load at h
  split at h
  · cases h
  · split at h
    · cases h
      exact hempty
    · cases h
      exact hempty
    · split at h
      · cases h
        exact hempty
      · exact hparse _ h

end

/-! ## Every file -/

/-- **What loading answers about every file.**  It gives up if and only if the file
holds a text on which the reader gives up: that text has a row of more digits than an
integer may have, or more lists and objects are open in it than are followed.
Otherwise it answers.  A file that is absent is the empty object, and one that holds
an object is that object, without a record in the log; every other file, be it a
directory, unreadable, not a text, no document or a document that is no object, is
the empty object with one record, a warning. -/
theorem load_answers (d : Document) (fs : FileSystem) (s : Surroundings)
    (hpath : d.path.hasNul = false) :
    (∀ e, d.load fs s = .error e ↔ ∃ text, d.HoldsText fs s text ∧ GivesUp s.room.read text e) ∧
      (fs.read s.work d.path = .error .notFound → d.load fs s = .ok ([], [])) ∧
      (∀ fields, d.HoldsObject fs s fields → d.load fs s = .ok (fields, [])) ∧
      (fs.read s.work d.path ≠ .error .notFound → (∀ fields, ¬ d.HoldsObject fs s fields) →
        (∀ text e, d.HoldsText fs s text → ¬ GivesUp s.room.read text e) →
        ∃ r : Log.Record, r.level = .warning ∧ d.load fs s = .ok ([], [r])) :=
  ⟨fun _ => load_eq_error_iff hpath, load_of_absent hpath,
    fun _ => load_of_holdsObject hpath, load_of_no_object hpath⟩

/-- An object, no file and a directory in the place of a file. -/
theorem load_answers_three :
    let d : Document := ⟨⟨"/", ["prefs.json"]⟩⟩
    let s : Surroundings := { work := [], home := [], config := [] }
    let text : String := "\x7b\x7d"
    let object : FileSystem := [(["prefs.json"], .file (Text.Utf8.encode text.toList) 0o600)]
    let blocked : FileSystem := [(["prefs.json"], .directory 0o755)]
    d.path.hasNul = false ∧
      (d.HoldsObject object s [] ∧ d.load object s = .ok ([], [])) ∧
      (FileSystem.read [] s.work d.path = .error .notFound ∧ d.load [] s = .ok ([], [])) ∧
      (blocked.read s.work d.path = .error .isADirectory ∧
        ∃ r : Log.Record, r.level = .warning ∧ d.load blocked s = .ok ([], [r])) := by
  intro d s text object blocked
  have hpath : d.path.hasNul = false := by decide
  have hread : Json.read s.room.read "\x7b\x7d" = .ok (.object []) := by rfl
  have hlines : "\x7b\x7d" = String.ofList (Text.Utf8.lineFeedsOnly "\x7b\x7d".toList) := by rfl
  have hobject : d.HoldsObject object s [] := ⟨text, ⟨text.toList, rfl, hlines⟩, hread⟩
  have habsent : FileSystem.read [] s.work d.path = .error .notFound := rfl
  have hblocked : blocked.read s.work d.path = .error .isADirectory := rfl
  have hnone : ∀ t, ¬ d.HoldsText blocked s t := by
    rintro t ⟨cs, hread, -⟩
    rw [hblocked] at hread
    cases hread
  refine ⟨hpath, ⟨hobject, (load_answers d object s hpath).2.2.1 [] hobject⟩,
    ⟨habsent, (load_answers d [] s hpath).2.1 habsent⟩, hblocked, ?_⟩
  refine (load_answers d blocked s hpath).2.2.2 ?_ ?_ fun t e h => absurd h (hnone t)
  · rw [hblocked]
    intro h
    cases h
  · rintro fields ⟨t, h, -⟩
    exact hnone t h

/-- A text that is a row of ones. -/
def ones (k : Nat) : String := String.ofList (List.replicate k '1')

/-- The reader gives up on a row of more ones than an integer may have digits. -/
theorem read_ones (room : Nat) {k : Nat} (hk : Decimal.digitLimit < k) :
    Json.read room (ones k) = .error .integerTooLong := by
  have hones : ∀ d ∈ List.replicate k '1', d = '1' := fun d hd => List.eq_of_mem_replicate hd
  have hproper : Json.Numeral.Proper ⟨false, List.replicate k '1', none, none⟩ := by
    refine ⟨⟨?_, ?_⟩, ?_, ?_, ?_⟩
    · intro hnil
      have hzero : k = 0 := by simpa using hnil
      omega
    · intro d hd
      rw [hones d hd]
      rfl
    · intro hhead
      exact absurd (hones '0' (List.mem_of_head? hhead)) (by decide)
    · intro ds hds
      cases hds
    · intro x hx
      cases hx
  have hread := Json.read_numeral room hproper
  have htext : Json.Numeral.text ⟨false, List.replicate k '1', none, none⟩ =
      List.replicate k '1' := by
    simp [Json.Numeral.text, Json.fractionText, Json.exponentText]
  rw [htext] at hread
  rw [ones, hread]
  simp only [Json.Numeral.value, List.length_replicate, if_pos hk]

/-- **A file on which loading gives up**: its text is an integer of 4301 digits. -/
theorem load_long_integer :
    let d : Document := ⟨⟨"/", ["prefs.json"]⟩⟩
    let s : Surroundings := { work := [], home := [], config := [] }
    let fs : FileSystem :=
      [(["prefs.json"], .file (Text.Utf8.encode (List.replicate 4301 '1')) 0o600)]
    d.load fs s = .error .integerTooLong := by
  intro d s fs
  have hpath : d.path.hasNul = false := by decide
  have htext : d.HoldsText fs s (ones 4301) := by
    refine ⟨List.replicate 4301 '1', rfl, ?_⟩
    have hreturn : '\r' ∉ List.replicate 4301 '1' := by
      intro h
      exact absurd (List.eq_of_mem_replicate h) (by decide)
    rw [Text.Utf8.lineFeedsOnly_eq_self hreturn]
    rfl
  rw [load_of_holdsText hpath htext, parse, read_ones s.room.read (by decide)]

end QueryDesk.Storage.Document
