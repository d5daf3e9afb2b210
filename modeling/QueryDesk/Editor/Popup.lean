import QueryDesk.Editor.Basic

/-!
# The completion popup

The popup follows the buffer. A change of the text starts a timer, which shows
the popup for the word at the cursor; a change that the editor itself made, or
a cursor that moves without a change, hides it.
-/

namespace QueryDesk.Editor

open Completion (contextAt)

variable {σ : Type}

/-- Hides the popup. -/
def hidePopup (e : Editor σ) : Editor σ :=
  { e with dropdown := e.dropdown.hide, popupText := none, popup := false }

/-- Shows the candidates at the cursor for a word, next to the cursor; without
any the popup is hidden. -/
def showPopup (e : Editor σ) (word : String) : Editor σ :=
  let b := e.buffer
  let dropdown := e.dropdown.setCandidates (e.session.complete b.text b.cursor) word
  if dropdown.filtered.isEmpty then { e with dropdown }.hidePopup
  else
    { e with
      dropdown := dropdown.show_
      popupPlace := some (b.cursor.column + 2, b.cursor.line + 1)
      popupText := some b.text
      popup := true }

/-- The timer runs out: the popup is shown if there is a word, or a table's
name with a dot, before the cursor. -/
def ringTimer (e : Editor σ) : Editor σ :=
  let e := { e with timer := false }
  let c := contextAt e.buffer.text e.buffer.cursor
  if c.partialWord ≠ "" || c.qualifier.getD "" ≠ "" then e.showPopup c.partialWord
  else e.hidePopup

/-- Puts the selected candidate in the place of the word at the cursor. The
place is found anew if the text is not the one that the popup was made for. -/
def applyCandidate (e : Editor σ) : Editor σ :=
  match e.dropdown.selection with
  | none => e.hidePopup
  | some c =>
    let b := e.buffer
    let range := if some b.text = e.popupText then c.range else (contextAt b.text b.cursor).range
    let start := Buffer.placeAt b.text range.start
    let stop := Buffer.placeAt b.text range.stop
    ({ e with justApplied := true }.call (.replace c.insertText start stop)).hidePopup

/-- The text changed. -/
def textChanged (e : Editor σ) : Editor σ :=
  let e := { e with justChanged := true }
  if e.justApplied || e.justRecalled then
    { e with justApplied := false, justRecalled := false }.hidePopup
  else { e with timer := true }

/-- The cursor moved. The move that comes with a change of the text is let pass. -/
def cursorMoved (e : Editor σ) : Editor σ :=
  if !e.popup then e
  else if e.justChanged then { e with justChanged := false }
  else e.hidePopup

/-- Hears a piece of news of the buffer. -/
def hear (e : Editor σ) : News → Editor σ
  | .changed => e.textChanged
  | .moved => e.cursorMoved

/-- Hears all news of the buffer. -/
def hearNews (e : Editor σ) : Editor σ :=
  let news := e.buffer.news
  news.foldl hear { e with buffer := { e.buffer with news := [] } }

end QueryDesk.Editor
