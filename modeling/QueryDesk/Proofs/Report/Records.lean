import QueryDesk.Proofs.Report.Rendering

/-!
# Reading records back

What a text with commas says is settled by a grammar that knows nothing of the
writer: a field is written as it is or between quotes, the fields of a record
stand between commas, a record ends with a carriage return and a line feed, and an
empty line is a record without fields.  A reader that takes one character at a time
reads exactly the texts of the grammar, so each text has one reading.  The writer
writes a text of the grammar, and thus what it wrote is read back, whatever the
cells contain.

The writer has a single exception to cover: a record of one empty field, which
would be an empty line without its quotes.

## Main results

* `read?_eq_some_iff` — the reader reads the texts of the grammar and no others.
* `records_flatMap_record` — what the writer writes is a text of the grammar.
* `csv_reads_back` — the records that a printed result is read back as.
-/

namespace QueryDesk.Report.Csv

open Text.Quoted (quote doubled)

/-! ## The grammar -/

/-- How a field is written: as it is, when nothing in it has a meaning of its own,
or between quotes. -/
inductive Written : List Char → List Char → Prop
  | plain {f : List Char} (h : ∀ c ∈ f, isSpecial c = false) : Written f f
  | quoted (f : List Char) : Written (quote f) f

/-- Fields with commas between them. -/
inductive Line : List Char → List (List Char) → Prop
  | one {w f : List Char} (h : Written w f) : Line w [f]
  | cons {w f ws : List Char} {fs : List (List Char)} (h : Written w f) (hs : Line ws fs) :
      Line (w ++ ',' :: ws) (f :: fs)

/-- A record with its end. -/
inductive Recorded : List Char → List (List Char) → Prop
  | empty : Recorded ['\r', '\n'] []
  | line {w : List Char} {fs : List (List Char)} (h : Line w fs) (hw : w ≠ []) :
      Recorded (w ++ ['\r', '\n']) fs

/-- Records one after another. -/
inductive Records : List Char → List (List (List Char)) → Prop
  | nil : Records [] []
  | cons {w ws : List Char} {r : List (List Char)} {rs : List (List (List Char))}
      (h : Recorded w r) (hs : Records ws rs) : Records (w ++ ws) (r :: rs)

theorem Records.concat {cs w : List Char} {rs : List (List (List Char))} {r : List (List Char)}
    (h : Records cs rs) (hw : Recorded w r) : Records (cs ++ w) (rs ++ [r]) := by
  induction h with
  | nil => simpa using Records.cons hw .nil
  | cons hr _ ih => simpa using Records.cons hr ih

/-! ## The reader -/

/-- Where a reader is: at the start of a field, inside one, inside quotes, after a
quote that may have ended them, or before the second half of the end of a record. -/
inductive Place where
  | fresh
  | plain
  | quoted
  | closed
  | ending
  deriving DecidableEq, Repr

/-- What was read: the field that is being read, the fields of its record, and the
records before that. -/
structure Reading where
  place : Place := .fresh
  field : List Char := []
  fields : List (List Char) := []
  records : List (List (List Char)) := []
  deriving DecidableEq, Repr

namespace Reading

/-- The field ends, and a comma or the end of the record comes next. -/
def endField (s : Reading) (place : Place) : Reading :=
  { s with place, field := [], fields := s.fields ++ [s.field] }

/-- A character after a field. -/
def separate (s : Reading) (c : Char) : Option Reading :=
  if c = ',' then some (s.endField .fresh)
  else if c = '\r' then some (s.endField .ending)
  else none

/-- A character of a field without quotes, or after one. -/
def proceed (s : Reading) (c : Char) : Option Reading :=
  if isSpecial c then s.separate c else some { s with place := .plain, field := s.field ++ [c] }

/-- One more character. -/
def step (s : Reading) (c : Char) : Option Reading :=
  match s.place with
  | .fresh =>
    if c = '"' then some { s with place := .quoted }
    else if c = '\r' ∧ s.fields = [] then some { s with place := .ending }
    else s.proceed c
  | .plain => s.proceed c
  | .quoted =>
    if c = '"' then some { s with place := .closed } else some { s with field := s.field ++ [c] }
  | .closed =>
    if c = '"' then some { s with place := .quoted, field := s.field ++ [c] } else s.separate c
  | .ending =>
    if c = '\n' then some { records := s.records ++ [s.fields] } else none

/-- Characters one after another. -/
def run (s : Reading) (cs : List Char) : Option Reading := cs.foldlM step s

theorem run_append (s : Reading) (cs ds : List Char) :
    s.run (cs ++ ds) = (s.run cs).bind (·.run ds) :=
  List.foldlM_append ..

theorem run_cons (s : Reading) (c : Char) (cs : List Char) :
    s.run (c :: cs) = (s.step c).bind (·.run cs) :=
  List.foldlM_cons ..

end Reading

/-- The records of a text. -/
def read? (cs : List Char) : Option (List (List (List Char))) :=
  match Reading.run {} cs with
  | some { place := .fresh, fields := [], records, .. } => some records
  | _ => none

/-! ## What the grammar writes is read -/

/-- The places where a field may end. -/
def Place.mayEnd : Place → Bool
  | .fresh | .plain | .closed => true
  | .quoted | .ending => false

namespace Reading

variable {f w cs : List Char} {fields fs r : List (List Char)}
  {records rs : List (List (List Char))}

theorem step_comma {place : Place} (h : place.mayEnd) :
    step ⟨place, f, fields, records⟩ ',' = some ⟨.fresh, [], fields ++ [f], records⟩ := by
  cases place with
  | fresh | plain | closed => rfl
  | quoted | ending => cases h

/-- At the end of a line the field ends too, unless the line is empty. -/
theorem step_return {place : Place} (h : place.mayEnd) (hs : place = .fresh → fields ≠ []) :
    step ⟨place, f, fields, records⟩ '\r' = some ⟨.ending, [], fields ++ [f], records⟩ := by
  cases place with
  | fresh => simp [step, hs rfl, proceed, isSpecial, separate, endField]
  | plain | closed => rfl
  | quoted | ending => cases h

/-- Characters without a meaning of their own, in a field that has begun. -/
theorem run_plain (h : ∀ c ∈ cs, isSpecial c = false) :
    run ⟨.plain, f, fields, records⟩ cs = some ⟨.plain, f ++ cs, fields, records⟩ := by
  induction cs generalizing f with
  | nil => simp [run]
  | cons c cs ih =>
      have hc : step ⟨.plain, f, fields, records⟩ c = some ⟨.plain, f ++ [c], fields, records⟩ := by
        simp [step, proceed, h c (List.mem_cons_self ..)]
      rw [run_cons, hc, Option.bind_some, ih fun d hd => h d (List.mem_cons_of_mem c hd)]
      simp

theorem run_doubled (f w : List Char) :
    run ⟨.quoted, f, fields, records⟩ (doubled w) = some ⟨.quoted, f ++ w, fields, records⟩ := by
  induction w generalizing f with
  | nil => simp [run, doubled]
  | cons c w ih =>
      by_cases hc : c = '"'
      · simp [doubled, hc, run_cons, step, ih]
      · simp [doubled, hc, run_cons, step, ih]

/-- A field is read up to a place where it may end. -/
theorem run_written (fields : List (List Char)) (records : List (List (List Char)))
    (h : Written w f) :
    ∃ place, run ⟨.fresh, [], fields, records⟩ w = some ⟨place, f, fields, records⟩ ∧
      place.mayEnd ∧ (place = .fresh → w = []) := by
  cases h with
  | plain h =>
      cases f with
      | nil => exact ⟨.fresh, rfl, rfl, fun _ => rfl⟩
      | cons c f =>
          have hc : isSpecial c = false := h c (List.mem_cons_self ..)
          have hstep : step ⟨.fresh, [], fields, records⟩ c
              = some ⟨.plain, [c], fields, records⟩ := by
            have hquote : c ≠ '"' := fun e => by simp [e, isSpecial] at hc
            have hreturn : c ≠ '\r' := fun e => by simp [e, isSpecial] at hc
            simp [step, proceed, hc, hquote, hreturn]
          refine ⟨.plain, ?_, rfl, nofun⟩
          rw [run_cons, hstep, Option.bind_some,
            run_plain fun d hd => h d (List.mem_cons_of_mem c hd)]
          rfl
  | quoted =>
      refine ⟨.closed, ?_, rfl, nofun⟩
      have hopen : step ⟨.fresh, [], fields, records⟩ '"'
          = some ⟨.quoted, [], fields, records⟩ := rfl
      rw [quote, List.cons_append, run_cons, hopen, Option.bind_some, run_append, run_doubled]
      rfl

/-- The fields of a line are read up to its end. Where nothing was read before, the
line must not be empty. -/
theorem run_line (h : Line w fs) (hw : fields ≠ [] ∨ w ≠ []) :
    run ⟨.fresh, [], fields, records⟩ (w ++ ['\r'])
      = some ⟨.ending, [], fields ++ fs, records⟩ := by
  induction h generalizing fields with
  | @one w f h =>
      obtain ⟨place, hrun, hend, hfresh⟩ := run_written fields records h
      have hfields : place = .fresh → fields ≠ [] := fun hplace =>
        hw.resolve_right fun hne => hne (hfresh hplace)
      rw [run_append, hrun, Option.bind_some, run_cons, step_return hend hfields]
      rfl
  | @cons w f ws fs h hs ih =>
      obtain ⟨place, hrun, hend, -⟩ := run_written fields records h
      rw [List.append_assoc, List.cons_append, run_append, hrun, Option.bind_some, run_cons,
        step_comma hend, Option.bind_some]
      have hbefore : fields ++ [f] ≠ [] ∨ ws ≠ [] := .inl (by simp)
      simpa using ih hbefore

theorem run_recorded (h : Recorded w r) :
    run { records } w = some { records := records ++ [r] } := by
  cases h with
  | empty => rfl
  | @line w _ h hw =>
      have hline : run { records } (w ++ ['\r']) = some ⟨.ending, [], r, records⟩ :=
        run_line h (.inr hw)
      rw [show w ++ ['\r', '\n'] = (w ++ ['\r']) ++ ['\n'] by simp, run_append, hline]
      rfl

theorem run_records (h : Records cs rs) :
    run { records } cs = some { records := records ++ rs } := by
  induction h generalizing records with
  | nil => simp [run]
  | cons h _ ih => rw [run_append, run_recorded h, Option.bind_some, ih]; simp

end Reading

/-! ## What is read was written by the grammar -/

/-- A line before the field that is being read: nothing, or fields up to a comma. -/
inductive Opening : List Char → List (List Char) → Prop
  | nil : Opening [] []
  | comma {v : List Char} {fs : List (List Char)} (h : Line v fs) : Opening (v ++ [',']) fs

/-- A field that has been read up to a place in it. -/
inductive Partly : Place → List Char → List Char → Prop
  | fresh : Partly .fresh [] []
  | plain {f : List Char} (h : ∀ c ∈ f, isSpecial c = false) (hf : f ≠ []) : Partly .plain f f
  | quoted (f : List Char) : Partly .quoted ('"' :: doubled f) f
  | closed (f : List Char) : Partly .closed (quote f) f

/-- The text that was read up to a state of the reader. -/
inductive Stands : List Char → Reading → Prop
  | inside {cs v w f : List Char} {place : Place} {fields : List (List Char)}
      {records : List (List (List Char))} (hcs : Records cs records) (hv : Opening v fields)
      (hw : Partly place w f) : Stands (cs ++ (v ++ w)) ⟨place, f, fields, records⟩
  | ending {cs w : List Char} {fields : List (List Char)} {records : List (List (List Char))}
      (hcs : Records cs records) (hw : Recorded (w ++ ['\r', '\n']) fields) :
      Stands (cs ++ (w ++ ['\r'])) ⟨.ending, [], fields, records⟩

theorem Line.concat {v w f : List Char} {fs : List (List Char)} (h : Line v fs)
    (hw : Written w f) : Line (v ++ ',' :: w) (fs ++ [f]) := by
  induction h with
  | one h => exact .cons h (.one hw)
  | cons h _ ih => simpa using Line.cons h ih

theorem Opening.line {v w f : List Char} {fields : List (List Char)} (h : Opening v fields)
    (hw : Written w f) : Line (v ++ w) (fields ++ [f]) := by
  cases h with
  | nil => exact .one hw
  | comma h => simpa using h.concat hw

theorem Partly.written {place : Place} {w f : List Char} (h : Partly place w f)
    (hend : place.mayEnd) : Written w f := by
  cases h with
  | fresh => exact .plain nofun
  | plain h _ => exact .plain h
  | quoted => cases hend
  | closed f => exact .quoted f

section Soundness

variable {cs v w f : List Char} {c : Char} {place : Place} {fields : List (List Char)}
  {records : List (List (List Char))} {s t : Reading}

/-- A field ends. -/
theorem Stands.separate (hcs : Records cs records) (hv : Opening v fields) (hw : Written w f)
    (hne : c = '\r' → v ++ w ≠ []) (h : Reading.separate ⟨place, f, fields, records⟩ c = some t) :
    Stands (cs ++ (v ++ w) ++ [c]) t := by
  have hline : Line (v ++ w) (fields ++ [f]) := hv.line hw
  simp only [Reading.separate, Reading.endField] at h
  split at h
  next hc =>
      cases h
      subst hc
      simpa using Stands.inside hcs (.comma hline) .fresh
  next =>
      split at h
      next hc =>
          cases h
          rw [List.append_assoc, hc]
          exact .ending hcs (.line hline (hne hc))
      next => cases h

theorem Stands.proceed (hcs : Records cs records) (hv : Opening v fields)
    (hw : Partly place w f) (hplace : place = .fresh ∨ place = .plain)
    (hne : c = '\r' → v ++ w ≠ []) (h : Reading.proceed ⟨place, f, fields, records⟩ c = some t) :
    Stands (cs ++ (v ++ w) ++ [c]) t := by
  have hend : place.mayEnd := by rcases hplace with rfl | rfl <;> rfl
  simp only [Reading.proceed] at h
  split at h
  next => exact .separate hcs hv (hw.written hend) hne h
  next hc =>
      cases h
      -- Outside quotes the text of a field is the field itself.
      obtain ⟨rfl, hplain⟩ : w = f ∧ ∀ d ∈ f, isSpecial d = false := by
        cases hw with
        | fresh => exact ⟨rfl, nofun⟩
        | plain h _ => exact ⟨rfl, h⟩
        | quoted => cases hend
        | closed => rcases hplace with hp | hp <;> cases hp
      have hmore : ∀ d ∈ w ++ [c], isSpecial d = false := by
        intro d hd
        rcases List.mem_append.mp hd with hold | hnew
        · exact hplain d hold
        · exact List.mem_singleton.mp hnew ▸ Bool.eq_false_iff.mpr hc
      simpa using Stands.inside hcs hv (.plain hmore (by simp))

/-- What one more character leaves. -/
theorem Stands.step (h : Stands cs s) (ht : s.step c = some t) : Stands (cs ++ [c]) t := by
  cases h with
  | @inside cs v w f place fields records hcs hv hw =>
      cases hw with
      | fresh =>
          simp only [Reading.step] at ht
          split at ht
          next hc =>
              cases ht
              subst hc
              simpa [doubled] using Stands.inside hcs hv (.quoted [])
          next =>
              split at ht
              next hc =>
                  cases ht
                  obtain ⟨rfl, rfl⟩ := hc
                  cases hv with
                  | nil => simpa using Stands.ending (w := []) hcs .empty
                  | comma h => cases h
              next hc =>
                  refine .proceed hcs hv .fresh (.inl rfl) ?_ ht
                  rintro rfl
                  cases hv with
                  | nil => exact absurd ⟨rfl, rfl⟩ hc
                  | comma => simp
      | plain h hf => exact .proceed hcs hv (.plain h hf) (.inr rfl) (by simp [hf]) ht
      | quoted =>
          simp only [Reading.step] at ht
          split at ht
          next hc =>
              cases ht
              subst hc
              simpa [quote] using Stands.inside hcs hv (.closed f)
          next hc =>
              cases ht
              simpa [Text.Quoted.doubled_append, doubled, hc]
                using Stands.inside hcs hv (.quoted (f ++ [c]))
      | closed =>
          simp only [Reading.step] at ht
          split at ht
          next hc =>
              cases ht
              subst hc
              simpa [quote, Text.Quoted.doubled_append, doubled]
                using Stands.inside hcs hv (.quoted (f ++ ['"']))
          next => exact .separate hcs hv (.quoted f) (by simp [quote]) ht
  | ending hcs hw =>
      simp only [Reading.step] at ht
      split at ht
      next hc =>
          cases ht
          subst hc
          simpa using Stands.inside (hcs.concat hw) .nil .fresh
      next => cases ht

theorem Stands.run {ds : List Char} (h : Stands cs s) (ht : s.run ds = some t) :
    Stands (cs ++ ds) t := by
  induction ds generalizing cs s with
  | nil =>
      cases ht
      simpa using h
  | cons d ds ih =>
      rw [Reading.run_cons, Option.bind_eq_some_iff] at ht
      obtain ⟨u, hu, ht⟩ := ht
      simpa using ih (h.step hu) ht

end Soundness

/-- **The reader reads the grammar**: a text is read as the records that it is
written for, and a text that is none is not read. So no text has two readings. -/
theorem read?_eq_some_iff {cs : List Char} {rs : List (List (List Char))} :
    read? cs = some rs ↔ Records cs rs := by
  constructor
  · intro h
    have hstart : Stands [] {} := .inside (v := []) .nil .nil .fresh
    unfold read? at h
    split at h
    next f records hrun =>
        cases h
        cases hstart.run hrun with
        | inside hcs hv hw =>
            cases hw
            cases hv with
            | nil => simpa using hcs
            | comma h => cases h
    next => cases h
  · intro h
    simp [read?, Reading.run_records h]

/-! ## The writer -/

theorem written_field (f : List Char) : Written (field f) f := by
  unfold field
  split
  next => exact .quoted f
  next h => exact .plain (by simpa using h)

/-- A field is written as nothing only if it is empty. -/
theorem field_ne_nil {f : List Char} (hf : f ≠ []) : field f ≠ [] := by
  unfold field
  split
  next => simp [quote]
  next => exact hf

theorem line_intercalate {fs : List (List Char)} (hfs : fs ≠ []) :
    Line ([','].intercalate (fs.map field)) fs := by
  induction fs with
  | nil => exact absurd rfl hfs
  | cons f fs ih =>
      cases fs with
      | nil => simpa [List.intercalate] using Line.one (written_field f)
      | cons g gs => simpa [List.intercalate] using Line.cons (written_field f) (ih (by simp))

/-- **A record is written by the grammar**, the record of one empty field too. -/
theorem recorded_record (fs : List (List Char)) : Recorded (record fs) fs := by
  unfold record body
  split
  next => exact .line (.one (.quoted [])) (by simp)
  next hsingle =>
      by_cases hfs : fs = []
      · subst hfs
        exact .empty
      · refine .line (line_intercalate hfs) ?_
        match fs, hfs with
        | [f], _ =>
            have hf : f ≠ [] := fun e => hsingle (by rw [e])
            simpa [List.intercalate] using field_ne_nil hf
        | f :: g :: gs, _ => simp [List.intercalate]

theorem records_flatMap_record (rs : List (List (List Char))) :
    Records (rs.flatMap record) rs := by
  induction rs with
  | nil => exact .nil
  | cons r rs ih => exact .cons (recorded_record r) ih

end QueryDesk.Report.Csv

namespace QueryDesk.Report

open Execution (Result)

/-- The records of a result as texts: the names of the columns, then the rows up to one with
a cell that has no text. -/
def recordTexts (room : Nat) (r : Result) : List (List String) :=
  r.columns :: (upTo (·.mapM (csvField room)) r.rows).1

/-- What is printed is made of the rows that come out as texts. -/
theorem csv_eq (room : Nat) (r : Result) :
    let rendered := upTo (·.mapM (csvField room)) r.rows
    (csv room r).out.toList =
        ((r.columns :: rendered.1).map (·.map String.toList)).flatMap Csv.record ∧
      (csv room r).failure = rendered.2.map .cell := by
  intro rendered
  have hrecords : upTo (csvRecord room) r.rows =
      (rendered.1.map fun texts => Csv.record (texts.map String.toList), rendered.2.map id) := by
    refine upTo_map fun row _ => ?_
    rw [csvRecord_eq]
    cases row.mapM (csvField room) <;> rfl
  simp [csv, hrecords, List.flatMap_def, Function.comp_def]

theorem read?_csv (room : Nat) (r : Result) :
    Csv.read? (csv room r).out.toList =
      some ((recordTexts room r).map (·.map String.toList)) := by
  rw [(csv_eq room r).1, Csv.read?_eq_some_iff]
  exact Csv.records_flatMap_record _

end QueryDesk.Report
