import QueryDesk.Proofs.Json.RoundTrip

/-!
# Documents too deep to be read

A value is *beyond* a reader if, written at any level of a document, it makes the
reader run out of room.  One value beyond the reader among others that it can read
is enough for the list or the object around them, since what stands before it is
read and what stands behind it is never reached.

With this, what is read of a written document is known in full: the document itself,
or that it is too deep.

## Main results

* `beyond_items`, `beyond_fields` — the first value beyond the reader ends the
  reading.
* `read_exact` — what has no fractions and no bytes and could be written is read back
  exactly if the reader has room for it.
-/

namespace QueryDesk.Json

/-- A value that is too deep for a reader, wherever it is written. -/
structure Beyond (room : Nat) (v : Value) : Prop where
  starts : ∀ level, ∃ c cs, write level v = c :: cs ∧ isGap c = false ∧ c ≠ ']'
  refused : ∀ level fuel rest, (write level v).length ≤ fuel →
    readValue fuel room (write level v ++ rest) = .error .tooDeep

section Parts

variable {room : Nat}

/-- The items of a list, of which one is beyond the reader. -/
theorem beyond_items {v : Value} {vs : List Value}
    (hitems : ∀ w ∈ v :: vs, Faithful room w ∨ Beyond room w)
    (hbeyond : ∃ w ∈ v :: vs, Beyond room w) (level : Nat) (rest : List Char) {fuel : Nat}
    (hfuel : (write level v).length + (writeItems level vs).length < fuel) :
    readItems fuel room (write level v ++ (writeItems level vs ++ rest)) = .error .tooDeep := by
  induction vs generalizing v fuel with
  | nil =>
      obtain ⟨w, hw, hbeyond⟩ := hbeyond
      obtain rfl := List.mem_singleton.mp hw
      cases fuel with
      | zero => omega
      | succ fuel =>
          rw [readItems, hbeyond.refused level fuel _ (by omega)]
          rfl
  | cons w ws ih =>
      cases fuel with
      | zero => omega
      | succ fuel =>
          rw [writeItems] at hfuel
          simp only [List.length_append, List.length_cons] at hfuel
          obtain ⟨hv, hws⟩ := List.forall_mem_cons.mp hitems
          by_cases hlast : Beyond room v
          · rw [readItems, hlast.refused level fuel _ (by omega)]
            rfl
          · -- The first item is read, so the one beyond the reader comes later.
            have hread := hv.resolve_right hlast
            have hbeyond : ∃ u ∈ w :: ws, Beyond room u := by
              simpa only [List.exists_mem_cons_iff, hlast, false_or] using hbeyond
            obtain ⟨c, cs, hwrite, hgap, -⟩ :=
              (hws w List.mem_cons_self).elim (·.starts level) (·.starts level)
            have hnext := ih hws hbeyond (show _ < fuel by omega)
            rw [Faithful.writeItems_append,
              readItems_next (hread.reads level fuel _ (by omega) (closes_cons (.inl rfl)))
                (skipGaps_cons rfl _), skipGaps_lineAt]
            rw [hwrite, List.cons_append] at hnext ⊢
            rw [skipGaps_cons hgap, hnext]
            rfl

/-- A field with a value beyond the reader. -/
theorem Beyond.field {v : Value} (hv : Beyond room v) (name : String) (level : Nat)
    (before : OrderedMap String Value) {fuel : Nat} (hfuel : (write level v).length ≤ fuel)
    (rest : List Char) :
    readFields (fuel + 1) room before (quoted name ++ (':' :: ' ' :: (write level v ++ rest))) =
      .error .tooDeep := by
  obtain ⟨c, cs, hwrite, hgap, -⟩ := hv.starts level
  have hrefused := hv.refused level fuel rest hfuel
  rw [hwrite, List.cons_append] at hrefused ⊢
  rw [readFields_field name before hgap, hrefused]
  rfl

/-- The fields of an object, of which one is beyond the reader. -/
theorem beyond_fields {name : String} {v : Value} {fs : List (String × Value)}
    (hfields : ∀ f ∈ (name, v) :: fs, Faithful room f.2 ∨ Beyond room f.2)
    (hbeyond : ∃ f ∈ (name, v) :: fs, Beyond room f.2) (level : Nat) (rest : List Char)
    (before : OrderedMap String Value) {fuel : Nat}
    (hfuel : (write level v).length + (writeFields level fs).length < fuel) :
    readFields fuel room before
        (quoted name ++ (':' :: ' ' :: (write level v ++ (writeFields level fs ++ rest)))) =
      .error .tooDeep := by
  induction fs generalizing name v before fuel with
  | nil =>
      obtain ⟨f, hf, hbeyond⟩ := hbeyond
      obtain rfl := List.mem_singleton.mp hf
      cases fuel with
      | zero => omega
      | succ fuel =>
          exact hbeyond.field name level before
            (Nat.le_of_lt_succ (Nat.lt_of_le_of_lt (Nat.le_add_right _ _) hfuel)) _
  | cons f fs ih =>
      cases fuel with
      | zero => omega
      | succ fuel =>
          obtain ⟨name', w⟩ := f
          rw [writeFields] at hfuel
          simp only [List.length_append, List.length_cons] at hfuel
          obtain ⟨hv, hfs⟩ : (Faithful room v ∨ Beyond room v) ∧
              ∀ g ∈ (name', w) :: fs, Faithful room g.2 ∨ Beyond room g.2 :=
            List.forall_mem_cons.mp hfields
          by_cases hlast : Beyond room v
          · exact hlast.field name level before (by omega) _
          · have hbeyond : ∃ g ∈ (name', w) :: fs, Beyond room g.2 := by
              simpa only [List.exists_mem_cons_iff, hlast, false_or] using hbeyond
            rw [Faithful.writeFields_append,
              (hv.resolve_right hlast).reads_field name level before (by omega)
                (closes_cons (.inl rfl)), skipGaps_cons rfl]
            show readFields fuel room (before.put name v) (skipGaps (lineAt level ++ _)) = _
            rw [skipGaps_lineAt, quoted_append, skipGaps_cons rfl, ← quoted_append]
            exact ih hfs hbeyond _ (by omega)

/-- A list with items, one of which is beyond a reader. -/
theorem Beyond.list {v : Value} {vs : List Value}
    (hitems : ∀ w ∈ v :: vs, Faithful room w ∨ Beyond room w)
    (hbeyond : ∃ w ∈ v :: vs, Beyond room w) : Beyond (room + 1) (.list (v :: vs)) := by
  refine ⟨fun level => ⟨'[', _, by rw [write]; rfl, rfl, by decide⟩, ?_⟩
  intro level fuel rest hfuel
  rw [write] at hfuel ⊢
  simp only [List.length_append, List.length_cons] at hfuel
  cases fuel with
  | zero => omega
  | succ fuel =>
      obtain ⟨c, cs, hwrite, hgap, hc⟩ :=
        (hitems v List.mem_cons_self).elim (·.starts (level + 1)) (·.starts (level + 1))
      have hrefused := beyond_items hitems hbeyond (level + 1) (lineAt level ++ ']' :: rest)
        (show _ < fuel by omega)
      rw [hwrite] at hrefused ⊢
      simp only [List.cons_append, List.append_assoc] at hrefused ⊢
      have hskip := skipGaps_lineAt (level + 1)
        (c :: (cs ++ (writeItems (level + 1) vs ++ (lineAt level ++ ']' :: rest))))
      rw [skipGaps_cons hgap] at hskip
      rw [List.nil_append, readValue_list hskip hc, hrefused]
      rfl

/-- An object with fields, one of which is beyond a reader. -/
theorem Beyond.object {f : String × Value} {fs : List (String × Value)}
    (hfields : ∀ g ∈ f :: fs, Faithful room g.2 ∨ Beyond room g.2)
    (hbeyond : ∃ g ∈ f :: fs, Beyond room g.2) : Beyond (room + 1) (.object (f :: fs)) := by
  obtain ⟨name, v⟩ := f
  refine ⟨fun level => ⟨'\x7b', _, by rw [write]; rfl, rfl, by decide⟩, ?_⟩
  intro level fuel rest hfuel
  rw [write] at hfuel ⊢
  simp only [List.length_append, List.length_cons] at hfuel
  cases fuel with
  | zero => omega
  | succ fuel =>
      have hrefused := beyond_fields hfields hbeyond (level + 1) (lineAt level ++ '\x7d' :: rest)
        [] (show _ < fuel by omega)
      rw [quoted_append] at hrefused
      simp only [List.cons_append, List.append_assoc, List.nil_append] at hrefused ⊢
      rw [quoted_append, readValue_object ((skipGaps_lineAt _ _).trans (skipGaps_cons rfl _))
        (by decide), hrefused]
      rfl

/-- Where there is no room, no list or object is followed, even an empty one. -/
theorem Beyond.of_no_room {v : Value} {c : Char} (hc : c = '[' ∨ c = '\x7b')
    (hwrite : ∀ level, ∃ cs, write level v = c :: cs) : Beyond 0 v := by
  refine ⟨fun level => ?_, fun level fuel rest hfuel => ?_⟩
  · obtain ⟨cs, hcs⟩ := hwrite level
    rcases hc with rfl | rfl <;> exact ⟨_, cs, hcs, rfl, by decide⟩
  · obtain ⟨cs, hcs⟩ := hwrite level
    rw [hcs] at hfuel ⊢
    cases fuel with
    | zero => simp at hfuel
    | succ fuel => rcases hc with rfl | rfl <;> rfl

theorem write_list (items : List Value) (level : Nat) :
    ∃ cs, write level (.list items) = '[' :: cs := by
  cases items with
  | nil => exact ⟨_, by rw [write]⟩
  | cons v vs => exact ⟨_, by rw [write]; rfl⟩

theorem write_object (fields : List (String × Value)) (level : Nat) :
    ∃ cs, write level (.object fields) = '\x7b' :: cs := by
  cases fields with
  | nil => exact ⟨_, by rw [write]⟩
  | cons f fs => exact ⟨_, by rw [write]; rfl⟩

end Parts

theorem lt_itemsNesting {items : List Value} {n : Nat} :
    n < itemsNesting items ↔ ∃ v ∈ items, n < nesting v := by
  rw [← Nat.not_le, itemsNesting_le]
  simp

theorem lt_fieldsNesting {fields : List (String × Value)} {n : Nat} :
    n < fieldsNesting fields ↔ ∃ f ∈ fields, n < nesting f.2 := by
  rw [← Nat.not_le, fieldsNesting_le]
  simp

/-- A part of a value is read or it is beyond the reader. -/
theorem Exact.faithful_or_beyond {v : Value} (h : Exact v) {room : Nat}
    (hv : ∃ room', obstacle? true room' v = none)
    (hbeyond : ∀ {room room' : Nat}, obstacle? true room' v = none → room < nesting v →
      Beyond room v) : Faithful room v ∨ Beyond room v := by
  obtain ⟨room', hv⟩ := hv
  rcases Nat.lt_or_ge room (nesting v) with hlt | hle
  · exact .inr (hbeyond hv hlt)
  · exact .inl (h.faithful hv hle)

/-- **An exact value with more lists and objects in each other than a reader has room
for is beyond it**, if it could be written with whatever room. -/
theorem Exact.beyond {v : Value} (h : Exact v) {room room' : Nat}
    (hv : obstacle? true room' v = none) (hroom : room < nesting v) : Beyond room v := by
  induction h generalizing room room' with
  | null => cases hroom
  | bool => cases hroom
  | int => cases hroom
  | text => cases hroom
  | @list items hitems ih =>
      rw [nesting] at hroom
      cases room with
      | zero => exact .of_no_room (.inl rfl) (write_list items)
      | succ room =>
          obtain ⟨w, hw, hdeep⟩ := lt_itemsNesting.mp (Nat.lt_of_succ_lt_succ hroom)
          have heach : ∀ u ∈ items, Faithful room u ∨ Beyond room u := fun u hu =>
            (hitems u hu).faithful_or_beyond (obstacle?_of_mem_list hv u hu) (ih u hu)
          obtain ⟨room', hw'⟩ := obstacle?_of_mem_list hv w hw
          cases items with
          | nil => cases hw
          | cons v vs => exact .list heach ⟨w, hw, ih w hw hw' hdeep⟩
  | @object fields hnames hfields ih =>
      rw [nesting] at hroom
      cases room with
      | zero => exact .of_no_room (.inr rfl) (write_object fields)
      | succ room =>
          obtain ⟨f, hf, hdeep⟩ := lt_fieldsNesting.mp (Nat.lt_of_succ_lt_succ hroom)
          have heach : ∀ g ∈ fields, Faithful room g.2 ∨ Beyond room g.2 := fun g hg =>
            (hfields g hg).faithful_or_beyond (obstacle?_of_mem_object hv g hg) (ih g hg)
          obtain ⟨room', hf'⟩ := obstacle?_of_mem_object hv f hf
          cases fields with
          | nil => cases hf
          | cons g gs => exact .object heach ⟨f, hf, ih f hf hf' hdeep⟩

/-- **What is read of an exact value that could be written**: the value, if the reader
has room for it, and otherwise that it is too deep. -/
theorem read_exact {v : Value} (h : Exact v) {room' : Nat}
    (hv : obstacle? true room' v = none) (room : Nat) :
    read room (text v) = if nesting v ≤ room then .ok v else .error .tooDeep := by
  split
  · rename_i hroom
    exact read_text (h.faithful hv hroom)
  · rename_i hroom
    have hbeyond := h.beyond hv (Nat.lt_of_not_le hroom)
    obtain ⟨c, cs, hwrite, hgap, -⟩ := hbeyond.starts 0
    have hskip : skipGaps (text v).toList = write 0 v := by
      rw [text, String.toList_ofList, hwrite, skipGaps_cons hgap]
    have hrefused := hbeyond.refused 0 ((write 0 v).length + 1) [] (by omega)
    rw [List.append_nil] at hrefused
    simp only [read, hskip, hrefused]
    rfl

end QueryDesk.Json
