import QueryDesk.Proofs.Completion.WordRange
import QueryDesk.Proofs.Editor.Popup

/-!
# Accepting a candidate

The word that a candidate replaces is known by offsets, the buffer is changed
between places, and the candidate may have been made for an older text.  Offsets
of the text survive the way through places, so that what is replaced is the
stretch meant; and whether that stretch comes with the candidate or is found
anew, it is a word of the text as it stands, because a candidate's own stretch is
taken only if the text is the one that it was made for.

## Main results

* `applyCandidate_text` — the stretch that accepting takes out of the text.
* `press_accept` — the keys that accept while the popup is showing.
* `accept_replaces_word` — accepting in any run replaces a word and nothing else.
-/

namespace QueryDesk.Editor

open Completion (Candidate Cursor WordSpan contextAt contextAt_range cursorOffset)

variable {σ : Type}

/-! ## Stretches of a buffer -/

/-- The place of an offset leads back to it. -/
theorem offsetOf_placeAt {text : String} {offset : Nat} (h : offset ≤ text.toList.length) :
    Buffer.offsetOf text (Buffer.placeAt text offset) = offset := by
  obtain ⟨row, column, line, hlocation, -, -, hoffset⟩ := Text.location_eq h
  simp only [Buffer.offsetOf, Buffer.placeAt, hlocation, Int.toNat_natCast]
  exact hoffset

/-- Replacing between the places of two offsets replaces between the offsets. -/
theorem replace_text (b : Buffer) (inserted : String) {start stop : Nat}
    (hstart : start ≤ b.text.toList.length) (hstop : stop ≤ b.text.toList.length) :
    (b.apply (.replace inserted (Buffer.placeAt b.text start)
      (Buffer.placeAt b.text stop))).text.toList =
        b.text.toList.take start ++ (inserted.toList ++ b.text.toList.drop stop) := by
  simp only [Buffer.apply, Buffer.set, offsetOf_placeAt hstart, offsetOf_placeAt hstop,
    String.toList_ofList, List.append_assoc]

/-- A word of a text lies within it. -/
theorem stop_le_of_wordSpan {text : List Char} {start stop : Nat} (h : WordSpan text start stop) :
    stop ≤ text.length := by
  obtain ⟨row, line, hline, -, hstop⟩ := h.line
  obtain ⟨before, after, htext, hbefore, -, -⟩ := Text.split_at_line hline
  have hlength : text.length = before.length + (line.length + after.length) := by
    rw [← List.length_append, ← List.length_append, ← htext]
  omega

/-! ## What accepting does to the text -/

/-- The stretch that a candidate takes the place of: its own, or the one at the
cursor if the text is not the one that the popup was filled for. -/
def stretch (e : Editor σ) (c : Candidate) : Completion.Range :=
  if some e.buffer.text = e.popupText then c.range
  else (contextAt e.buffer.text e.buffer.cursor).range

/-- **Accepting takes one stretch out of the text** and puts the candidate's text
there. -/
theorem applyCandidate_text {e : Editor σ} {c : Candidate} (hc : e.dropdown.selection = some c)
    (hspan : WordSpan e.buffer.text.toList (stretch e c).start (stretch e c).stop) :
    e.applyCandidate.buffer.text.toList = e.buffer.text.toList.take (stretch e c).start ++
      (c.insertText.toList ++ e.buffer.text.toList.drop (stretch e c).stop) := by
  have hstop : (stretch e c).stop ≤ e.buffer.text.toList.length := stop_le_of_wordSpan hspan
  have hbuffer : e.applyCandidate.buffer = e.buffer.apply (.replace c.insertText
      (Buffer.placeAt e.buffer.text (stretch e c).start)
      (Buffer.placeAt e.buffer.text (stretch e c).stop)) := by
    simp only [applyCandidate, hc]
    rfl
  rw [hbuffer]
  exact replace_text e.buffer c.insertText (hspan.le.trans hstop) hstop

/-- Hearing news leaves the text alone. -/
theorem text_hearNews (e : Editor σ) : e.hearNews.buffer.text = e.buffer.text := by
  rw [buffer_hearNews]

/-- The keys that accept a candidate. -/
def acceptKeys : List String := ["tab", "enter"]

theorem popupKey?_accept {e : Editor σ} {key : String} (hpopup : e.popup = true)
    (hkey : key ∈ acceptKeys) : e.popupKey? key = some e.applyCandidate := by
  have hcases : key = "tab" ∨ key = "enter" := by simpa [acceptKeys] using hkey
  rcases hcases with rfl | rfl
  · simp [popupKey?, hpopup]
  · simp [popupKey?, hpopup]

/-- **The accepting keys accept**, with the popup showing and the focus on the
buffer. -/
theorem press_accept {e : Editor σ} {key : String} (hpopup : e.popup = true)
    (hfocus : e.focus = .buffer) (hkey : key ∈ acceptKeys) :
    (e.press key).2 = true ∧ (e.press key).1.buffer = e.applyCandidate.buffer := by
  obtain ⟨session, hpress⟩ := press_of_popupKey hpopup hfocus key
  rw [hpress _ (popupKey?_accept hpopup hkey)]
  refine ⟨rfl, ?_⟩
  -- What is put in does not depend on the session.
  unfold applyCandidate
  cases e.dropdown.selection with
  | none => rfl
  | some c => rfl

/-! ## Accepting in a run -/

/-- A candidate that is accepted takes the place of a word of the buffer.  `filled`
is the buffer that the popup was filled from. -/
structure Accepts (w : Services σ) (e : Editor σ) (filled : Buffer) (c : Candidate)
    (start stop : Nat) : Prop where
  selected : e.dropdown.selection = some c
  span : WordSpan e.buffer.text.toList start stop
  text : e.applyCandidate.buffer.text.toList =
    e.buffer.text.toList.take start ++ (c.insertText.toList ++ e.buffer.text.toList.drop stop)
  /-- The word of another text ends at the cursor as it is, that of the same text
  at the cursor as it was. -/
  changed : e.buffer.text ≠ filled.text → stop = cursorOffset e.buffer.text e.buffer.cursor
  unchanged : e.buffer.text = filled.text → stop = cursorOffset filled.text filled.cursor
  keys : e.focus = .buffer → ∀ key ∈ acceptKeys, (step w e (.key key)).2 = .key true ∧
    (step w e (.key key)).1.buffer.text = e.applyCandidate.buffer.text

/-- The keys do within a step what accepting does. -/
theorem step_accept (w : Services σ) {e : Editor σ} {key : String} (hpopup : e.popup = true)
    (hfocus : e.focus = .buffer) (hkey : key ∈ acceptKeys) :
    (step w e (.key key)).2 = .key true ∧
      (step w e (.key key)).1.buffer.text = e.applyCandidate.buffer.text := by
  have hpress : (press { e with shown := {} } key).2 = true ∧
      (press { e with shown := {} } key).1.buffer =
        ({ e with shown := {} } : Editor σ).applyCandidate.buffer :=
    press_accept hpopup hfocus hkey
  obtain ⟨htaken, hbuffer⟩ := hpress
  have hshown : ({ e with shown := {} } : Editor σ).applyCandidate.buffer =
      e.applyCandidate.buffer := by
    unfold applyCandidate
    cases e.dropdown.selection with
    | none => rfl
    | some c => rfl
  constructor
  · show Answer.key (press { e with shown := {} } key).2 = .key true
    rw [htaken]
  · show (hearNews (press { e with shown := {} } key).1).buffer.text = _
    rw [text_hearNews, hbuffer, hshown]

/-- A popup that stands as it was filled accepts. -/
theorem Stands.accepts (w : Services σ) {e : Editor σ} {filled : Buffer}
    (h : Stands e filled.text filled.cursor) (hpopup : e.popup = true) :
    ∃ c start stop, Accepts w e filled c start stop := by
  have hselected := h.selected hpopup
  have hsource := h.source hpopup
  obtain ⟨c, hc⟩ : ∃ c, e.dropdown.selection = some c :=
    ⟨_, List.getElem?_eq_getElem hselected⟩
  have hrange : c.range = (contextAt filled.text filled.cursor).range :=
    h.range hpopup c (List.mem_of_getElem? hc)
  have hkeys : e.focus = .buffer → ∀ key ∈ acceptKeys, (step w e (.key key)).2 = .key true ∧
      (step w e (.key key)).1.buffer.text = e.applyCandidate.buffer.text :=
    fun hfocus _ hkey => step_accept w hpopup hfocus hkey
  refine ⟨c, (stretch e c).start, (stretch e c).stop, ?_⟩
  by_cases htext : e.buffer.text = filled.text
  · have hstretch : stretch e c = (contextAt filled.text filled.cursor).range := by
      rw [stretch, if_pos (by rw [hsource, htext]), hrange]
    obtain ⟨hspan, hstop⟩ := contextAt_range filled.text filled.cursor
    rw [← hstretch, ← htext] at hspan
    exact ⟨hc, hspan, applyCandidate_text hc hspan, fun hne => absurd htext hne,
      fun _ => by rw [hstretch, hstop], hkeys⟩
  · have hne : ¬some e.buffer.text = e.popupText := by
      rw [hsource]
      exact fun hsome => htext (Option.some.inj hsome)
    have hstretch : stretch e c = (contextAt e.buffer.text e.buffer.cursor).range := by
      rw [stretch, if_neg hne]
    obtain ⟨hspan, hstop⟩ := contextAt_range e.buffer.text e.buffer.cursor
    rw [← hstretch] at hspan
    exact ⟨hc, hspan, applyCandidate_text hc hspan, fun _ => by rw [hstretch, hstop],
      fun heq => absurd heq htext, hkeys⟩

/-- **Accepting replaces a word and nothing else**, whenever the popup is showing
in a run of the editor.  The popup was filled when the timer last rang.  If the
text has become another one since, the word ends at the cursor; a text that was
changed and changed back is the same text, and its word is the one that the popup
was filled for. -/
theorem accept_replaces_word (w : Services σ) (settings : Settings) (store : σ)
    (startup : Option String) (es : List Event)
    (h : (after w (new settings store startup) es).popup = true) :
    ∃ until_ since c start stop, LastRing w (new settings store startup) es until_ since ∧
      Accepts w (after w (new settings store startup) es)
        (after w (new settings store startup) until_).buffer c start stop := by
  obtain ⟨until_, since, hlast, hstands⟩ := exists_lastRing rfl h
  obtain ⟨c, start, stop, haccepts⟩ := hstands.accepts w h
  exact ⟨until_, since, c, start, stop, hlast, haccepts⟩

/-- A word on the second line that is typed on after the popup was filled: it
gives way as it stands, and what is around it stays. -/
theorem accept_replaces_word_typed_on :
    let w : Services Unit :=
      { archive := none, sources := {}
        execute := fun _ _ => .success { columns := [], rows := [] } }
    let e := new {} () none
    let es : List Event :=
      [.edit "SELECT 1;\nSE;\n" ⟨1, 2⟩, .timer, .edit "SELECT 1;\nSEL;\n" ⟨1, 3⟩]
    (after w e es).popup = true ∧
      (∃ until_ since c start stop, LastRing w e es until_ since ∧
        Accepts w (after w e es) (after w e until_).buffer c start stop) ∧
      (after w e es).applyCandidate.buffer.text = "SELECT 1;\nSELECT * FROM ;\n" := by
  intro w e es
  have hpopup : (after w e es).popup = true := by decide +kernel
  refine ⟨hpopup, accept_replaces_word w {} () none es hpopup, ?_⟩
  decide +kernel

end QueryDesk.Editor
