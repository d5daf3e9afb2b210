import QueryDesk.Proofs.Json.Numerals
import QueryDesk.Proofs.Json.Quoting
import QueryDesk.Proofs.OrderedMap

/-!
# Documents read back

A value is *faithful* if, written at any level of a document, it is read back as
it was, wherever a value may end.  The property is built to go through lists and
objects: a list of faithful values is faithful, and so is an object of them
whose names are all different.  Each of the two costs one place of the room that
the reader has for lists and objects in each other.

A faithful value is also written in printable ASCII characters and line feeds
only, so that neither its bytes nor its line ends can change on the way through
a file.

## Main results

* `Faithful.list`, `Faithful.object` — the property goes through lists and objects.
* `Exact.faithful` — what has no fractions and no bytes is faithful if it can be
  written at all and the reader has room for it.
* `read_text` — a faithful document is read back.
-/

namespace QueryDesk.Json

/-! ## Gaps -/

theorem skipGaps_cons {c : Char} (h : isGap c = false) (cs : List Char) :
    skipGaps (c :: cs) = c :: cs := by
  rw [skipGaps, List.dropWhile_cons_of_neg (by simp [h])]

/-- The gaps at the start of a line are skipped. -/
theorem skipGaps_lineAt (level : Nat) (cs : List Char) :
    skipGaps (lineAt level ++ cs) = skipGaps cs := by
  have hgaps : ∀ c ∈ lineAt level, isGap c = true := by
    intro c hc
    rcases List.mem_cons.mp hc with rfl | hc
    · rfl
    · rw [List.eq_of_mem_replicate hc]
      rfl
  rw [skipGaps, List.dropWhile_append_of_pos hgaps, skipGaps]

theorem closes_lineAt (level : Nat) (cs : List Char) : Closes (lineAt level ++ cs) :=
  closes_cons (.inr rfl)

theorem plain_lineAt (level : Nat) : ∀ c ∈ lineAt level, isPlain c = true := by
  intro c hc
  rcases List.mem_cons.mp hc with rfl | hc
  · rfl
  · rw [List.eq_of_mem_replicate hc]
    rfl

/-! ## Steps of the reader -/

theorem quoted_append (name : String) (rest : List Char) :
    quoted name ++ rest = '"' :: (name.toList.flatMap escape ++ '"' :: rest) := by
  simp [quoted]

section Steps

variable {fuel room : Nat} {cs rest rest' : List Char} {v : Value}

theorem readValue_text (s : List Char) (rest : List Char) :
    readValue (fuel + 1) room ('"' :: (s.flatMap escape ++ '"' :: rest)) =
      .ok (.text (String.ofList s), rest) := by
  have hfuel : s.length < (s.flatMap escape ++ '"' :: rest).length + 1 := by
    have := length_le_flatMap_escape s
    simp only [List.length_append]
    omega
  simp only [readValue, readString_flatMap_escape s rest hfuel]

/-- What begins neither a string nor a list nor an object is a word or a number. -/
theorem readValue_scalar {c : Char} (hquote : c ≠ '"') (hlist : c ≠ '[')
    (hobject : c ≠ '\x7b') :
    readValue (fuel + 1) room (c :: cs) = readScalar (c :: cs) := by
  unfold readValue
  split
  · rename_i h
    exact absurd (List.cons.inj h).1 hquote
  · rename_i h
    exact absurd (List.cons.inj h).1 hlist
  · rename_i h
    exact absurd (List.cons.inj h).1 hobject
  · rename_i h
    exact absurd (List.cons.inj h).1 hlist
  · rename_i h
    exact absurd (List.cons.inj h).1 hobject
  · rfl

theorem readValue_list_nil (rest : List Char) :
    readValue (fuel + 1) (room + 1) ('[' :: ']' :: rest) = .ok (.list [], rest) := by
  simp only [readValue, skipGaps_cons (show isGap ']' = false from rfl)]

/-- A list with items is what its items are. -/
theorem readValue_list {c : Char} (hgap : skipGaps cs = c :: rest) (hc : c ≠ ']') :
    readValue (fuel + 1) (room + 1) ('[' :: cs) =
      (readItems fuel room (c :: rest)).map fun (items, rest) => (.list items, rest) := by
  simp only [readValue, hgap]
  split
  · rename_i h
    exact absurd (List.cons.inj h).1 hc
  · cases readItems fuel room (c :: rest) <;> rfl

theorem readValue_object_nil (rest : List Char) :
    readValue (fuel + 1) (room + 1) ('\x7b' :: '\x7d' :: rest) = .ok (.object [], rest) := by
  simp only [readValue, skipGaps_cons (show isGap '\x7d' = false from rfl)]

/-- An object with fields is what its fields are. -/
theorem readValue_object {c : Char} (hgap : skipGaps cs = c :: rest) (hc : c ≠ '\x7d') :
    readValue (fuel + 1) (room + 1) ('\x7b' :: cs) =
      (readFields fuel room [] (c :: rest)).map fun (fields, rest) => (.object fields, rest) := by
  simp only [readValue, hgap]
  split
  · rename_i h
    exact absurd (List.cons.inj h).1 hc
  · cases readFields fuel room [] (c :: rest) <;> rfl

/-- The last item of a list. -/
theorem readItems_last (hv : readValue fuel room cs = .ok (v, rest))
    (hgap : skipGaps rest = ']' :: rest') : readItems (fuel + 1) room cs = .ok ([v], rest') := by
  rw [readItems, hv]
  simp only [bind, Except.bind, hgap]
  rfl

/-- An item of a list with further ones behind it. -/
theorem readItems_next {next : List Char} (hv : readValue fuel room cs = .ok (v, rest))
    (hgap : skipGaps rest = ',' :: next) :
    readItems (fuel + 1) room cs =
      (readItems fuel room (skipGaps next)).map fun (vs, rest) => (v :: vs, rest) := by
  rw [readItems, hv]
  simp only [bind, Except.bind, hgap]
  cases readItems fuel room (skipGaps next) <;> rfl

/-- A field whose value begins behind the blank. -/
theorem readFields_field (name : String) (before : OrderedMap String Value) {c : Char}
    (hc : isGap c = false) :
    readFields (fuel + 1) room before (quoted name ++ (':' :: ' ' :: c :: cs)) =
      (readValue fuel room (c :: cs)).bind fun (v, rest) =>
        match skipGaps rest with
        | ',' :: more => readFields fuel room (before.put name v) (skipGaps more)
        | '\x7d' :: more => .ok (before.put name v, more)
        | _ => .error .malformed := by
  have hname : ∀ after : List Char,
      readString ((name.toList.flatMap escape ++ '"' :: after).length + 1)
        (name.toList.flatMap escape ++ '"' :: after) = some (name.toList, after) := by
    intro after
    refine readString_flatMap_escape _ _ ?_
    have := length_le_flatMap_escape name.toList
    rw [List.length_append]
    omega
  have hcolon : ∀ after : List Char, skipGaps (':' :: after) = ':' :: after :=
    fun after => skipGaps_cons rfl after
  have hvalue : skipGaps (' ' :: c :: cs) = c :: cs := skipGaps_cons hc cs
  rw [quoted_append]
  simp only [readFields, hname, hcolon, hvalue, String.ofList_toList]
  rfl

end Steps

/-! ## Obstacles -/

section Obstacles

variable {strict : Bool} {room : Nat}

theorem itemsObstacle?_eq_none {items : List Value} :
    itemsObstacle? strict room items = none ↔ ∀ v ∈ items, obstacle? strict room v = none := by
  induction items with
  | nil => simp [itemsObstacle?]
  | cons v vs ih => rw [itemsObstacle?, Option.or_eq_none_iff, ih, List.forall_mem_cons]

theorem fieldsObstacle?_eq_none {fields : List (String × Value)} :
    fieldsObstacle? strict room fields = none ↔
      ∀ f ∈ fields, obstacle? strict room f.2 = none := by
  induction fields with
  | nil => simp [fieldsObstacle?]
  | cons f fs ih => rw [fieldsObstacle?, Option.or_eq_none_iff, ih, List.forall_mem_cons]

/-- A list with room for its items. -/
theorem obstacle?_list {items : List Value} :
    obstacle? strict (room + 1) (.list items) = none ↔
      ∀ v ∈ items, obstacle? strict room v = none := by
  rw [← itemsObstacle?_eq_none]
  cases items with
  | nil => simp [obstacle?, itemsObstacle?]
  | cons v vs => simp [obstacle?, itemsObstacle?]

/-- An object with room for its fields. -/
theorem obstacle?_object {fields : List (String × Value)} :
    obstacle? strict (room + 1) (.object fields) = none ↔
      ∀ f ∈ fields, obstacle? strict room f.2 = none := by
  rw [← fieldsObstacle?_eq_none]
  cases fields with
  | nil => simp [obstacle?, fieldsObstacle?]
  | cons f fs => simp [obstacle?, fieldsObstacle?]

/-- What is written into a list can be written for itself. -/
theorem obstacle?_of_mem_list {items : List Value}
    (h : obstacle? strict room (.list items) = none) :
    ∀ v ∈ items, ∃ room', obstacle? strict room' v = none := by
  cases items with
  | nil => simp
  | cons v vs =>
      cases room with
      | zero => simp [obstacle?] at h
      | succ room => exact fun w hw => ⟨room, obstacle?_list.mp h w hw⟩

theorem obstacle?_of_mem_object {fields : List (String × Value)}
    (h : obstacle? strict room (.object fields) = none) :
    ∀ f ∈ fields, ∃ room', obstacle? strict room' f.2 = none := by
  cases fields with
  | nil => simp
  | cons f fs =>
      cases room with
      | zero => simp [obstacle?] at h
      | succ room => exact fun g hg => ⟨room, obstacle?_object.mp h g hg⟩

end Obstacles

/-! ## Faithful values -/

/-- What begins a number begins nothing else. -/
theorem starts_number {c : Char} (hc : c.isDigit = true ∨ c = '-') :
    isGap c = false ∧ c ≠ ']' ∧ c ≠ '"' ∧ c ≠ '[' ∧ c ≠ '\x7b' := by
  rcases hc with hc | rfl
  · refine ⟨?_, ?_, ?_, ?_, ?_⟩
    · simp only [isGap, Bool.or_eq_false_iff, decide_eq_false_iff_not]
      refine ⟨⟨⟨?_, ?_⟩, ?_⟩, ?_⟩ <;> (rintro rfl; revert hc; decide)
    all_goals (rintro rfl; revert hc; decide)
  · decide

/-- A value that is read back wherever it is written and a reader has room. -/
structure Faithful (room : Nat) (v : Value) : Prop where
  /-- A writer with one more level has nothing against it. -/
  written : obstacle? true (room + 1) v = none
  starts : ∀ level, ∃ c cs, write level v = c :: cs ∧ isGap c = false ∧ c ≠ ']'
  plain : ∀ level, ∀ c ∈ write level v, isPlain c = true
  reads : ∀ level fuel rest, (write level v).length ≤ fuel → Closes rest →
    readValue fuel room (write level v ++ rest) = .ok (v, rest)

namespace Faithful

variable {room : Nat}

/-- A value whose text is a word or a number. -/
theorem of_scalar {v : Value} {c : Char} {cs : List Char}
    (hwritten : obstacle? true (room + 1) v = none)
    (hwrite : ∀ level, write level v = c :: cs)
    (hplain : ∀ d ∈ c :: cs, isPlain d = true)
    (hc : isGap c = false ∧ c ≠ ']' ∧ c ≠ '"' ∧ c ≠ '[' ∧ c ≠ '\x7b')
    (hread : ∀ rest, Closes rest → readScalar (c :: cs ++ rest) = .ok (v, rest)) :
    Faithful room v where
  written := hwritten
  starts level := ⟨c, cs, hwrite level, hc.1, hc.2.1⟩
  plain level d hd := hplain d (hwrite level ▸ hd)
  reads level fuel rest hfuel hrest := by
    rw [hwrite level] at hfuel ⊢
    cases fuel with
    | zero => simp at hfuel
    | succ fuel =>
        rw [List.cons_append, readValue_scalar hc.2.2.1 hc.2.2.2.1 hc.2.2.2.2]
        exact hread rest hrest

theorem null : Faithful room .null :=
  of_scalar rfl (fun _ => by rw [write]; rfl) (List.all_eq_true.mp rfl) (by decide) fun _ _ => rfl

theorem bool (b : Bool) : Faithful room (.bool b) := by
  cases b with
  | false =>
      exact of_scalar rfl (fun _ => by rw [write]; rfl) (List.all_eq_true.mp rfl) (by decide)
        fun _ _ => rfl
  | true =>
      exact of_scalar rfl (fun _ => by rw [write]; rfl) (List.all_eq_true.mp rfl) (by decide)
        fun _ _ => rfl

/-- A value that is written as a number is faithful if it is the value of it. -/
theorem of_numeral {v : Value} {n : Numeral} (h : n.Proper)
    (hwritten : obstacle? true (room + 1) v = none)
    (hwrite : ∀ level, write level v = n.text) (hvalue : n.value = .ok v) : Faithful room v := by
  have hread : ∀ rest, Closes rest → readScalar (n.text ++ rest) = .ok (v, rest) := by
    intro rest hrest
    rw [readScalar_text h hrest, hvalue]
    rfl
  have hplain : ∀ d ∈ n.text, isPlain d = true := by
    intro d hd
    rcases n.mem_text h hd with hd | rfl | rfl | rfl | rfl
    · exact isPlain_of_isDigit hd
    · rfl
    · rfl
    · rfl
    · rfl
  obtain ⟨c, cs, htext, hc⟩ := Numeral.exists_text_eq_cons h
  rw [htext] at hwrite hread hplain
  exact of_scalar hwritten hwrite hplain (starts_number hc) hread

/-- An integer within the limit of digits. -/
theorem int {n : Int} (hn : n.natAbs < Decimal.tenPow Decimal.digitLimit) :
    Faithful room (.int n) := by
  refine of_numeral (Numeral.proper_ofInt n) ?_ ?_ (Numeral.value_ofInt hn)
  · rw [obstacle?, if_neg (Nat.not_le.mpr hn)]
  · intro level
    rw [write, Numeral.text_ofInt]

theorem text (s : String) : Faithful room (.text s) where
  written := rfl
  starts level := ⟨'"', s.toList.flatMap escape ++ ['"'], by rw [write]; rfl, rfl, by decide⟩
  plain level := by
    rw [write]
    exact plain_quoted s
  reads level fuel rest hfuel hrest := by
    rw [write] at hfuel ⊢
    cases fuel with
    | zero => simp [quoted] at hfuel
    | succ fuel =>
        have hshape : quoted s ++ rest = '"' :: (s.toList.flatMap escape ++ '"' :: rest) := by
          simp [quoted]
        rw [hshape, readValue_text, String.ofList_toList]

theorem writeItems_append (level : Nat) (v : Value) (vs : List Value) (rest : List Char) :
    writeItems level (v :: vs) ++ rest =
      ',' :: (lineAt level ++ (write level v ++ (writeItems level vs ++ rest))) := by
  simp [writeItems]

/-- The items of a list that are all faithful, up to the closing bracket on a
line of its own. -/
theorem reads_items {v : Value} {vs : List Value} (hv : Faithful room v)
    (hvs : ∀ w ∈ vs, Faithful room w) (level outer : Nat) (rest : List Char) {fuel : Nat}
    (hfuel : (write level v).length + (writeItems level vs).length < fuel) :
    readItems fuel room (write level v ++ (writeItems level vs ++ (lineAt outer ++ ']' :: rest))) =
      .ok (v :: vs, rest) := by
  -- Every item takes one step of the fuel and at least one character of the text.
  induction vs generalizing v fuel with
  | nil =>
      cases fuel with
      | zero => omega
      | succ fuel =>
          have hread := hv.reads level fuel (lineAt outer ++ ']' :: rest) (by omega)
            (closes_lineAt _ _)
          rw [writeItems, List.nil_append]
          refine readItems_last hread ?_
          rw [skipGaps_lineAt, skipGaps_cons rfl]
  | cons w ws ih =>
      cases fuel with
      | zero => omega
      | succ fuel =>
          rw [writeItems] at hfuel
          simp only [List.length_append, List.length_cons] at hfuel
          obtain ⟨hw, hws⟩ := List.forall_mem_cons.mp hvs
          obtain ⟨c, cs, hwrite, hgap, -⟩ := hw.starts level
          have hnext := ih hw hws (show _ < fuel by omega)
          rw [writeItems_append,
            readItems_next (hv.reads level fuel _ (by omega) (closes_cons (.inl rfl)))
              (skipGaps_cons rfl _), skipGaps_lineAt]
          rw [hwrite, List.cons_append] at hnext ⊢
          rw [skipGaps_cons hgap, hnext]
          rfl

theorem plain_items {vs : List Value} (hvs : ∀ w ∈ vs, Faithful room w) (level : Nat) :
    ∀ c ∈ writeItems level vs, isPlain c = true := by
  induction vs with
  | nil => simp [writeItems]
  | cons w ws ih =>
      obtain ⟨hw, hws⟩ := List.forall_mem_cons.mp hvs
      simp only [writeItems, List.forall_mem_append, List.forall_mem_cons]
      exact ⟨⟨⟨rfl, plain_lineAt level⟩, hw.plain level⟩, ih hws⟩

/-- **A list of faithful values is faithful.** -/
theorem list {items : List Value} (hitems : ∀ v ∈ items, Faithful room v) :
    Faithful (room + 1) (.list items) := by
  have hwritten : obstacle? true (room + 1 + 1) (.list items) = none :=
    obstacle?_list.mpr fun v hv => (hitems v hv).written
  cases items with
  | nil =>
      refine ⟨hwritten, fun level => ⟨'[', [']'], by rw [write], rfl, by decide⟩, ?_, ?_⟩
      · intro level
        rw [write]
        exact List.all_eq_true.mp rfl
      · intro level fuel rest hfuel hrest
        rw [write] at hfuel ⊢
        cases fuel with
        | zero => simp at hfuel
        | succ fuel => exact readValue_list_nil rest
  | cons v vs =>
      obtain ⟨hv, hvs⟩ := List.forall_mem_cons.mp hitems
      refine ⟨hwritten, fun level => ⟨'[', _, by rw [write]; rfl, rfl, by decide⟩, ?_, ?_⟩
      · intro level
        rw [write]
        simp only [List.forall_mem_append, List.forall_mem_cons]
        exact ⟨⟨⟨⟨⟨rfl, plain_lineAt _⟩, hv.plain _⟩, plain_items hvs _⟩, plain_lineAt _⟩, rfl,
          by simp⟩
      · intro level fuel rest hfuel hrest
        rw [write] at hfuel ⊢
        simp only [List.length_append, List.length_cons] at hfuel
        cases fuel with
        | zero => omega
        | succ fuel =>
            obtain ⟨c, cs, hwrite, hgap, hc⟩ := hv.starts (level + 1)
            have hread := reads_items hv hvs (level + 1) level rest (show _ < fuel by omega)
            rw [hwrite] at hread ⊢
            simp only [List.cons_append, List.append_assoc] at hread ⊢
            have hskip := skipGaps_lineAt (level + 1)
              (c :: (cs ++ (writeItems (level + 1) vs ++ (lineAt level ++ ']' :: rest))))
            rw [skipGaps_cons hgap] at hskip
            rw [List.nil_append, readValue_list hskip hc, hread]
            rfl

theorem writeFields_append (level : Nat) (name : String) (v : Value)
    (fs : List (String × Value)) (rest : List Char) :
    writeFields level ((name, v) :: fs) ++ rest =
      ',' :: (lineAt level ++ (quoted name ++ (':' :: ' ' :: (write level v ++
        (writeFields level fs ++ rest))))) := by
  simp [writeFields]

/-- A field with a faithful value, up to what follows it. -/
theorem reads_field {v : Value} (hv : Faithful room v) (name : String) (level : Nat)
    (before : OrderedMap String Value) {fuel : Nat} (hfuel : (write level v).length ≤ fuel)
    {rest : List Char} (hrest : Closes rest) :
    readFields (fuel + 1) room before (quoted name ++ (':' :: ' ' :: (write level v ++ rest))) =
      (match skipGaps rest with
      | ',' :: more => readFields fuel room (before.put name v) (skipGaps more)
      | '\x7d' :: more => .ok (before.put name v, more)
      | _ => .error .malformed) := by
  obtain ⟨c, cs, hwrite, hgap, -⟩ := hv.starts level
  have hread := hv.reads level fuel rest hfuel hrest
  rw [hwrite, List.cons_append] at hread ⊢
  rw [readFields_field name before hgap, hread]
  rfl

/-- The fields of an object whose values are all faithful, behind others with
other names, up to the closing brace on a line of its own. -/
theorem reads_fields {name : String} {v : Value} {fs : List (String × Value)}
    (hv : Faithful room v) (hfs : ∀ f ∈ fs, Faithful room f.2) (level outer : Nat)
    (rest : List Char) (before : OrderedMap String Value)
    (hnames : (before.names ++ name :: OrderedMap.names fs).Nodup) {fuel : Nat}
    (hfuel : (write level v).length + (writeFields level fs).length < fuel) :
    readFields fuel room before (quoted name ++ (':' :: ' ' :: (write level v ++
        (writeFields level fs ++ (lineAt outer ++ '\x7d' :: rest))))) =
      .ok (before ++ (name, v) :: fs, rest) := by
  -- The names read so far are kept apart from those to come, so each field goes to
  -- the end.
  induction fs generalizing name v before fuel with
  | nil =>
      cases fuel with
      | zero => omega
      | succ fuel =>
          have hnew : name ∉ before.names := fun h =>
            (List.nodup_append.mp hnames).2.2 name h name List.mem_cons_self rfl
          rw [writeFields, List.nil_append,
            reads_field hv name level before (by omega) (closes_lineAt _ _), skipGaps_lineAt,
            skipGaps_cons rfl]
          show Except.ok (before.put name v, rest) = _
          rw [OrderedMap.put_of_not_mem hnew]
  | cons f fs ih =>
      cases fuel with
      | zero => omega
      | succ fuel =>
          obtain ⟨name', w⟩ := f
          obtain ⟨hw, hfs⟩ : Faithful room w ∧ ∀ f ∈ fs, Faithful room f.2 :=
            List.forall_mem_cons.mp hfs
          have hnew : name ∉ before.names := fun h =>
            (List.nodup_append.mp hnames).2.2 name h name List.mem_cons_self rfl
          have hnames' : ((before.put name v).names ++ name' :: OrderedMap.names fs).Nodup := by
            rw [OrderedMap.put_of_not_mem hnew]
            simpa [OrderedMap.names] using hnames
          rw [writeFields] at hfuel
          simp only [List.length_append, List.length_cons] at hfuel
          rw [writeFields_append,
            reads_field hv name level before (by omega) (closes_cons (.inl rfl)),
            skipGaps_cons rfl]
          show readFields fuel room (before.put name v) (skipGaps (lineAt level ++ _)) = _
          rw [skipGaps_lineAt, quoted_append, skipGaps_cons rfl, ← quoted_append,
            ih hw hfs _ hnames' (by omega), OrderedMap.put_of_not_mem hnew, List.append_assoc,
            List.singleton_append]

theorem plain_fields {fs : List (String × Value)} (hfs : ∀ f ∈ fs, Faithful room f.2)
    (level : Nat) : ∀ c ∈ writeFields level fs, isPlain c = true := by
  induction fs with
  | nil => simp [writeFields]
  | cons f fs ih =>
      obtain ⟨name, w⟩ := f
      obtain ⟨hw, hfs⟩ : Faithful room w ∧ ∀ f ∈ fs, Faithful room f.2 :=
        List.forall_mem_cons.mp hfs
      have hshape := writeFields_append level name w fs []
      rw [List.append_nil, List.append_nil] at hshape
      rw [hshape]
      simp only [List.forall_mem_append, List.forall_mem_cons]
      exact ⟨rfl, plain_lineAt level, plain_quoted name, rfl, rfl, hw.plain level, ih hfs⟩

/-- **An object of faithful values under different names is faithful.** -/
theorem object {fields : List (String × Value)} (hnames : (OrderedMap.names fields).Nodup)
    (hfields : ∀ f ∈ fields, Faithful room f.2) : Faithful (room + 1) (.object fields) := by
  have hwritten : obstacle? true (room + 1 + 1) (.object fields) = none :=
    obstacle?_object.mpr fun f hf => (hfields f hf).written
  cases fields with
  | nil =>
      refine ⟨hwritten, fun level => ⟨'\x7b', ['\x7d'], by rw [write], rfl, by decide⟩, ?_, ?_⟩
      · intro level
        rw [write]
        exact List.all_eq_true.mp rfl
      · intro level fuel rest hfuel hrest
        rw [write] at hfuel ⊢
        cases fuel with
        | zero => simp at hfuel
        | succ fuel => exact readValue_object_nil rest
  | cons f fs =>
      obtain ⟨name, v⟩ := f
      obtain ⟨hv, hfs⟩ : Faithful room v ∧ ∀ f ∈ fs, Faithful room f.2 :=
        List.forall_mem_cons.mp hfields
      have hshape : ∀ level, write level (.object ((name, v) :: fs)) =
          '\x7b' :: (lineAt (level + 1) ++ (quoted name ++ (':' :: ' ' ::
            (write (level + 1) v ++ (writeFields (level + 1) fs ++
              (lineAt level ++ ['\x7d'])))))) := by
        intro level
        simp [write]
      refine ⟨hwritten, fun level => ⟨'\x7b', _, hshape level, rfl, by decide⟩, ?_, ?_⟩
      · intro level
        rw [hshape]
        simp only [List.forall_mem_append, List.forall_mem_cons]
        exact ⟨rfl, plain_lineAt _, plain_quoted name, rfl, rfl, hv.plain _, plain_fields hfs _,
          plain_lineAt _, rfl, by simp⟩
      · intro level fuel rest hfuel hrest
        rw [hshape] at hfuel ⊢
        simp only [List.length_append, List.length_cons] at hfuel
        cases fuel with
        | zero => omega
        | succ fuel =>
            have hread := reads_fields hv hfs (level + 1) level rest [] hnames
              (show _ < fuel by omega)
            rw [quoted_append] at hread
            simp only [List.cons_append, List.append_assoc, List.nil_append] at hread ⊢
            rw [quoted_append]
            rw [readValue_object ((skipGaps_lineAt _ _).trans (skipGaps_cons rfl _)) (by decide),
              hread]
            rfl

end Faithful

/-! ## Exact values -/

/-- A value that can be kept without loss: it has no numbers with a fraction and
no bytes, and the names in each of its objects are all different. -/
inductive Exact : Value → Prop where
  | null : Exact .null
  | bool (b : Bool) : Exact (.bool b)
  | int (n : Int) : Exact (.int n)
  | text (s : String) : Exact (.text s)
  | list {items : List Value} (hitems : ∀ v ∈ items, Exact v) : Exact (.list items)
  | object {fields : List (String × Value)} (hnames : (OrderedMap.names fields).Nodup)
      (hfields : ∀ f ∈ fields, Exact f.2) : Exact (.object fields)

mutual

/-- How many lists and objects lie in each other in a value. -/
def nesting : Value → Nat
  | .list items => itemsNesting items + 1
  | .object fields => fieldsNesting fields + 1
  | _ => 0

/-- How many of them lie in each other in one of the items of a list. -/
def itemsNesting : List Value → Nat
  | [] => 0
  | v :: vs => max (nesting v) (itemsNesting vs)

/-- How many of them lie in each other in one of the fields of an object. -/
def fieldsNesting : List (String × Value) → Nat
  | [] => 0
  | (_, v) :: fs => max (nesting v) (fieldsNesting fs)

end

theorem itemsNesting_le {items : List Value} {n : Nat} :
    itemsNesting items ≤ n ↔ ∀ v ∈ items, nesting v ≤ n := by
  induction items with
  | nil => simp [itemsNesting]
  | cons v vs ih => rw [itemsNesting, Nat.max_le, ih, List.forall_mem_cons]

theorem fieldsNesting_le {fields : List (String × Value)} {n : Nat} :
    fieldsNesting fields ≤ n ↔ ∀ f ∈ fields, nesting f.2 ≤ n := by
  induction fields with
  | nil => simp [fieldsNesting]
  | cons f fs ih => rw [fieldsNesting, Nat.max_le, ih, List.forall_mem_cons]

/-- **An exact value is faithful** for a reader that has room for it, if it could be
written with whatever room. -/
theorem Exact.faithful {v : Value} (h : Exact v) {room room' : Nat}
    (hv : obstacle? true room' v = none) (hroom : nesting v ≤ room) : Faithful room v := by
  induction h generalizing room room' with
  | null => exact .null
  | bool b => exact .bool b
  | int n =>
      rw [obstacle?] at hv
      have hn : ¬ Decimal.tenPow Decimal.digitLimit ≤ n.natAbs := by
        intro hlarge
        rw [if_pos hlarge] at hv
        cases hv
      exact .int (Nat.not_le.mp hn)
  | text s => exact .text s
  | @list items hitems ih =>
      -- Each list and object takes one place of the room.
      rw [nesting] at hroom
      cases room with
      | zero => omega
      | succ room =>
          refine .list fun w hw => ?_
          obtain ⟨room', hw'⟩ := obstacle?_of_mem_list hv w hw
          exact ih w hw hw' (itemsNesting_le.mp (Nat.le_of_succ_le_succ hroom) w hw)
  | @object fields hnames hfields ih =>
      rw [nesting] at hroom
      cases room with
      | zero => omega
      | succ room =>
          refine .object hnames fun f hf => ?_
          obtain ⟨room', hf'⟩ := obstacle?_of_mem_object hv f hf
          exact ih f hf hf' (fieldsNesting_le.mp (Nat.le_of_succ_le_succ hroom) f hf)

/-! ## Whole documents -/

/-- **A faithful document is read back.** -/
theorem read_text {room : Nat} {v : Value} (h : Faithful room v) :
    read room (text v) = .ok v := by
  obtain ⟨c, cs, hwrite, hgap, -⟩ := h.starts 0
  have hskip : skipGaps (text v).toList = write 0 v := by
    rw [text, String.toList_ofList, hwrite, skipGaps_cons hgap]
  have hread := h.reads 0 ((write 0 v).length + 1) [] (by omega) closes_nil
  rw [List.append_nil] at hread
  simp only [read, hskip]
  rw [hread]
  rfl

/-- A document that is a number has its value. -/
theorem read_numeral (room : Nat) {n : Numeral} (h : n.Proper) :
    read room (String.ofList n.text) = n.value := by
  obtain ⟨c, cs, htext, hc⟩ := Numeral.exists_text_eq_cons h
  obtain ⟨hgap, -, hquote, hlist, hobject⟩ := starts_number hc
  have hskip : skipGaps (String.ofList n.text).toList = n.text := by
    rw [String.toList_ofList, htext, skipGaps_cons hgap]
  have hread : readValue (n.text.length + 1) room n.text = n.value.map (·, []) := by
    have hscalar := readScalar_text h closes_nil
    rw [List.append_nil] at hscalar
    rw [← hscalar, htext, readValue_scalar hquote hlist hobject]
  simp only [read, hskip, hread]
  cases n.value with
  | error e => rfl
  | ok v => rfl

theorem plain_text {room : Nat} {v : Value} (h : Faithful room v) :
    ∀ c ∈ (text v).toList, isPlain c = true := by
  rw [text, String.toList_ofList]
  exact h.plain 0

end QueryDesk.Json
