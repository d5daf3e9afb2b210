import QueryDesk.Proofs.Json.Reading

/-!
# What stands in the text of a value

Not every value has a text of its own: bytes are written as their shown text, and
all words that stand for no number are written as one.  What a reader finds in the
text of a value is the value with these two replaced, and nothing else: the text is
also that of the value so changed.  Hence a value is read back changed in this way,
if what stands in its text can be read at all.

## Main results

* `write_decoded` — a value and what stands in its text have the same text.
* `obstacle?_of_readable` — what can be read from its text can be written.
* `read_text_line` — a document that is printed as a line of its own is read back.
* `Scalar.readable` — what a cell of a database can hold can be read.
-/

namespace QueryDesk.Json

open Decimal (Binary64)

mutual

/-- The value that stands in the text of a value. -/
def decoded : Value → Value
  | .null => .null
  | .bool b => .bool b
  | .int n => .int n
  | .float x => .float (if x.reading = .nan then .notANumber else x)
  | .text s => .text s
  | .bytes bs => .text (Text.shownBytes bs)
  | .list items => .list (decodedItems items)
  | .object fields => .object (decodedFields fields)

/-- The items of a list as they stand in its text. -/
def decodedItems : List Value → List Value
  | [] => []
  | v :: vs => decoded v :: decodedItems vs

/-- The fields of an object as they stand in its text. -/
def decodedFields : List (String × Value) → List (String × Value)
  | [] => []
  | (k, v) :: fs => (k, decoded v) :: decodedFields fs

end

theorem decodedItems_eq_map (items : List Value) : decodedItems items = items.map decoded := by
  induction items with
  | nil => rfl
  | cons v vs ih => rw [decodedItems, ih, List.map_cons]

theorem decodedFields_eq_map (fields : List (String × Value)) :
    decodedFields fields = fields.map fun f => (f.1, decoded f.2) := by
  induction fields with
  | nil => rfl
  | cons f fs ih => rw [decodedFields, ih, List.map_cons]

theorem floatText_decoded (x : Binary64) :
    floatText (if x.reading = .nan then .notANumber else x) = floatText x := by
  split
  next h => simp [floatText, h, Binary64.reading_notANumber]
  next => rfl

mutual

/-- **A value has the text of what stands in it.** -/
theorem write_decoded (level : Nat) : ∀ v : Value, write level (decoded v) = write level v
  | .null => rfl
  | .bool _ => rfl
  | .int _ => rfl
  | .float x => by rw [decoded, write, write, floatText_decoded]
  | .text _ => rfl
  | .bytes bs => by rw [decoded, write, write]
  | .list [] => rfl
  | .list (v :: vs) => by
      rw [decoded, decodedItems, write, write, write_decoded (level + 1) v,
        writeItems_decoded (level + 1) vs]
  | .object [] => rfl
  | .object ((k, v) :: fs) => by
      rw [decoded, decodedFields, write, write, write_decoded (level + 1) v,
        writeFields_decoded (level + 1) fs]

theorem writeItems_decoded (level : Nat) :
    ∀ vs : List Value, writeItems level (decodedItems vs) = writeItems level vs
  | [] => rfl
  | v :: vs => by
      rw [decodedItems, writeItems, writeItems, write_decoded level v, writeItems_decoded level vs]

theorem writeFields_decoded (level : Nat) :
    ∀ fs : List (String × Value), writeFields level (decodedFields fs) = writeFields level fs
  | [] => rfl
  | (k, v) :: fs => by
      rw [decodedFields, writeFields, writeFields, write_decoded level v,
        writeFields_decoded level fs]

end

theorem text_decoded (v : Value) : text (decoded v) = text v := by
  rw [text, write_decoded, text]

/-! ## What can be read -/

/-- A single digit is within any limit. -/
theorem lt_tenPow {n k : Nat} (hn : n < 10) (hk : k ≠ 0) : n < Decimal.tenPow k :=
  Nat.lt_of_lt_of_le hn (Nat.le_self_pow hk 10)

mutual

/-- **What can be read from its text can be written**, where there are two levels more:
bytes, which are texts for the reader, take them. -/
theorem obstacle?_of_readable {room : Nat} :
    ∀ v : Value, Readable room (decoded v) → obstacle? false (room + 2) v = none
  | .null, _ => rfl
  | .bool _, _ => rfl
  | .int n, h => by
      rw [decoded] at h
      cases h with
      | int hn => rw [obstacle?, if_neg (Nat.not_le.mpr hn)]
  | .float _, _ => by rw [obstacle?, if_neg (Nat.succ_ne_zero _)]
  | .text _, _ => rfl
  | .bytes _, _ => by
      rw [obstacle?, if_neg (by omega)]
      rfl
  | .list items, h => by
      rw [decoded] at h
      cases h with
      | list hitems => exact obstacle?_list.mpr (obstacle?_of_readableItems items hitems)
  | .object fields, h => by
      rw [decoded] at h
      cases h with
      | object _ hfields => exact obstacle?_object.mpr (obstacle?_of_readableFields fields hfields)

theorem obstacle?_of_readableItems {room : Nat} :
    ∀ items : List Value, (∀ v ∈ decodedItems items, Readable room v) →
      ∀ v ∈ items, obstacle? false (room + 2) v = none
  | [], _ => by simp
  | v :: vs, h => by
      rw [decodedItems, List.forall_mem_cons] at h
      exact List.forall_mem_cons.mpr
        ⟨obstacle?_of_readable v h.1, obstacle?_of_readableItems vs h.2⟩

theorem obstacle?_of_readableFields {room : Nat} :
    ∀ fields : List (String × Value), (∀ f ∈ decodedFields fields, Readable room f.2) →
      ∀ f ∈ fields, obstacle? false (room + 2) f.2 = none
  | [], _ => by simp
  | (k, v) :: fs, h => by
      rw [decodedFields, List.forall_mem_cons] at h
      exact List.forall_mem_cons.mpr
        ⟨obstacle?_of_readable v h.1, obstacle?_of_readableFields fs h.2⟩

end

/-- What a cell of a database can hold: no list and no object, and integers up to a number
of digits. -/
inductive Scalar : Value → Prop
  | null : Scalar .null
  | bool (b : Bool) : Scalar (.bool b)
  | int {n : Int} (hn : n.natAbs < Decimal.tenPow Decimal.digitLimit) : Scalar (.int n)
  | float (x : Binary64) : Scalar (.float x)
  | text (s : String) : Scalar (.text s)
  | bytes (bs : List UInt8) : Scalar (.bytes bs)

/-- It can be read from what is written, at any depth. -/
theorem Scalar.readable {v : Value} (h : Scalar v) (room : Nat) : Readable room (decoded v) := by
  cases h with
  | null => exact .null
  | bool b => exact .bool b
  | int hn => exact .int hn
  | float x =>
      rw [decoded]
      split
      next => exact .float .notANumber
      next h => exact .float (Binary64.regular_of_reading h)
  | text s => exact .text s
  | bytes bs => exact .text _

/-- **A document with the end of a line behind it is read back.** -/
theorem read_text_line {room : Nat} {v : Value} (h : Faithful room v) :
    read room (text v ++ "\n") = .ok v := by
  obtain ⟨c, cs, hwrite, hgap, -⟩ := h.starts 0
  have hskip : skipGaps (text v ++ "\n").toList = write 0 v ++ ['\n'] := by
    rw [String.toList_append, text, String.toList_ofList, hwrite]
    exact skipGaps_cons hgap _
  have hread := h.reads 0 ((write 0 v ++ ['\n']).length + 1) ['\n']
    (by rw [List.length_append]; omega) (closes_cons (.inr rfl))
  simp only [read, hskip]
  rw [hread]
  rfl

end QueryDesk.Json
