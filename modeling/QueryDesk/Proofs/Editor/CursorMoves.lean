import QueryDesk.Proofs.Editor.Dismissal

/-!
# Moving the cursor while the popup is showing

A move of the cursor hides the popup, but for the move that comes with a change of the
text.  The editor tells the two apart by a mark: every change of the text sets it, and a
move clears it, or hides the popup if it is not set.  A move is looked at only while the
popup is showing, though.  A change that is made while it is hidden leaves its mark
behind, and the next move that is looked at is taken for the one that came with it.

What is heard of the buffer is written down with whether the popup was showing then; the
mark is read off that (`justChanged_after`).

## Main results

* `foldl_mark_iff` — when the mark is set, from what was heard.
* `justChanged_after` — the mark in every run.
* `step_of_moves` — what a move does to the mark and to the popup.
* `move_hides_iff` — when a move hides the popup, in every run of an editor.
* `first_move_leaves_popup` — a move that does not.
-/

namespace QueryDesk.Editor

open Completion (Cursor)

variable {σ : Type}

/-! ## The mark of a change -/

/-- What a piece of news does to the mark, with whether the popup is showing. -/
def mark (m : Bool) : News × Bool → Bool
  | (.changed, _) => true
  | (.moved, popup) => m && !popup

/-- A change of the text was heard, and no move since with the popup showing. -/
def Unanswered (heard : List (News × Bool)) : Prop :=
  ∃ before popup since, heard = before ++ (.changed, popup) :: since ∧ (.moved, true) ∉ since

theorem unanswered_concat_changed (heard : List (News × Bool)) (popup : Bool) :
    Unanswered (heard ++ [(.changed, popup)]) :=
  ⟨heard, popup, [], rfl, List.not_mem_nil⟩

theorem unanswered_concat_moved (heard : List (News × Bool)) (popup : Bool) :
    Unanswered (heard ++ [(.moved, popup)]) ↔ Unanswered heard ∧ popup = false := by
  refine ⟨?_, ?_⟩
  · rintro ⟨before, p, since, hsplit, hnot⟩
    -- The last piece is a move, so it is behind the change.
    rcases List.eq_nil_or_concat since with rfl | ⟨since', last, rfl⟩
    · obtain ⟨-, hlast⟩ := List.append_inj' hsplit rfl
      cases hlast
    · rw [List.concat_eq_append, ← List.cons_append, ← List.append_assoc] at hsplit
      obtain ⟨rfl, hlast⟩ := List.append_inj' hsplit rfl
      obtain rfl := List.singleton_inj.mp hlast
      rw [List.concat_eq_append, List.mem_append, not_or] at hnot
      refine ⟨⟨before, p, since', rfl, hnot.1⟩, ?_⟩
      cases popup with
      | false => rfl
      | true => exact absurd (List.mem_singleton_self _) hnot.2
  · rintro ⟨⟨before, p, since, rfl, hnot⟩, rfl⟩
    refine ⟨before, p, since ++ [(.moved, false)], by simp, ?_⟩
    simpa [List.mem_append] using hnot

/-- **When the mark is set.** -/
theorem foldl_mark_iff (heard : List (News × Bool)) :
    heard.foldl mark false = true ↔ Unanswered heard := by
  induction heard using List.reverseRecOn with
  | nil =>
      refine ⟨nofun, ?_⟩
      rintro ⟨before, p, since, hsplit, -⟩
      simp at hsplit
  | append_singleton heard piece ih =>
      obtain ⟨n, popup⟩ := piece
      rw [List.foldl_append, List.foldl_cons, List.foldl_nil]
      cases n with
      | changed => exact iff_of_true rfl (unanswered_concat_changed heard popup)
      | moved => simp only [mark, Bool.and_eq_true, Bool.not_eq_true', unanswered_concat_moved, ih]

/-! ## What is heard -/

/-- What an editor hears, with whether its popup is showing then. -/
def hearings (e : Editor σ) : List News → List (News × Bool)
  | [] => []
  | n :: news => (n, e.popup) :: hearings (e.hear n) news

/-- What an editor hears of what is left in its buffer. -/
def hearingsLeft (e : Editor σ) : List (News × Bool) :=
  hearings { e with buffer := { e.buffer with news := [] } } e.buffer.news

/-- News that is an event of its own. -/
def hearingsAt (e : Editor σ) : Event → List (News × Bool)
  | .news true n => [(n, e.popup)]
  | _ => []

/-- What is heard of the buffer during an event. -/
def heardIn (w : Services σ) (e : Editor σ) (event : Event) : List (News × Bool) :=
  hearingsAt e event ++ hearingsLeft (handle w { e with shown := {} } event).1

/-- What is heard of the buffer during some events. -/
def heard (w : Services σ) (e : Editor σ) : List Event → List (News × Bool)
  | [] => []
  | event :: es => heardIn w e event ++ heard w (step w e event).1 es

theorem heard_concat (w : Services σ) (e : Editor σ) (es : List Event) (event : Event) :
    heard w e (es ++ [event]) = heard w e es ++ heardIn w (after w e es) event := by
  induction es generalizing e with
  | nil => simp [heard]
  | cons d ds ih =>
      rw [List.cons_append, heard, heard, ih, List.append_assoc]
      rfl

theorem hear_changed_mark (e : Editor σ) : (e.hear .changed).justChanged = true := by
  simp only [hear, textChanged]
  split
  · rfl
  · rfl

theorem hear_moved_mark (e : Editor σ) :
    (e.hear .moved).justChanged = (e.justChanged && !e.popup) ∧
      (e.hear .moved).popup = (e.popup && e.justChanged) := by
  simp only [hear, cursorMoved]
  cases hpopup : e.popup <;> cases hmark : e.justChanged <;> simp [hidePopup, hpopup, hmark]

theorem justChanged_hear (e : Editor σ) (n : News) :
    (e.hear n).justChanged = mark e.justChanged (n, e.popup) := by
  cases n with
  | changed => exact hear_changed_mark e
  | moved => exact (hear_moved_mark e).1

theorem justChanged_foldl_hear (news : List News) (e : Editor σ) :
    (news.foldl hear e).justChanged = (hearings e news).foldl mark e.justChanged := by
  induction news generalizing e with
  | nil => rfl
  | cons n news ih => rw [List.foldl_cons, ih, hearings, List.foldl_cons, justChanged_hear]

/-! ### Events -/

theorem justChanged_showPopup (e : Editor σ) (word : String) :
    (e.showPopup word).justChanged = e.justChanged := by
  simp only [showPopup]
  split
  · rfl
  · rfl

theorem justChanged_ringTimer (e : Editor σ) : e.ringTimer.justChanged = e.justChanged := by
  simp only [ringTimer]
  split
  · exact justChanged_showPopup _ _
  · rfl

theorem justChanged_applyCandidate (e : Editor σ) :
    e.applyCandidate.justChanged = e.justChanged := by
  unfold applyCandidate
  split
  · rfl
  · simp only [hidePopup, call]

theorem justChanged_bringBack (e : Editor σ) (text : String) :
    (e.bringBack text).justChanged = e.justChanged := by
  unfold bringBack
  split
  · rfl
  · rfl

theorem justChanged_press (e : Editor σ) (key : String) :
    (e.press key).1.justChanged = e.justChanged := by
  obtain ⟨session, e', hpress, hturn⟩ := exists_keyTurn e key
  rw [hpress]
  cases hturn with
  | same => rfl
  | moved hpopup by_ => rfl
  | applied hpopup => exact justChanged_applyCandidate { e with session }
  | hidden hpopup => rfl
  | broughtBack text => exact justChanged_bringBack { e with session } text

/-- Before the news of the buffer is heard, only news sets the mark or clears it. -/
theorem justChanged_handle (w : Services σ) (e : Editor σ) (event : Event) :
    (handle w e event).1.justChanged = (hearingsAt e event).foldl mark e.justChanged := by
  have hdesk := congrArg Desk.justChanged (desk_handle w e event)
  cases event with
  | news ofBuffer n =>
      cases ofBuffer with
      | false => exact hdesk
      | true => exact justChanged_hear e n
  | timer =>
      refine hdesk.trans ?_
      show (if e.timer then e.ringTimer else e).justChanged = e.justChanged
      split
      · exact justChanged_ringTimer e
      · rfl
  | key key => exact justChanged_press e key
  | _ => exact hdesk

theorem justChanged_step (w : Services σ) (e : Editor σ) (event : Event) :
    (step w e event).1.justChanged = (heardIn w e event).foldl mark e.justChanged := by
  have hhandle : (handle w { e with shown := {} } event).1.justChanged =
      (hearingsAt e event).foldl mark e.justChanged :=
    justChanged_handle w { e with shown := {} } event
  rw [heardIn, List.foldl_append, ← hhandle]
  exact justChanged_foldl_hear _ _

/-- **The mark in every run.** -/
theorem justChanged_after (w : Services σ) (e : Editor σ) (es : List Event) :
    (after w e es).justChanged = (heard w e es).foldl mark e.justChanged := by
  induction es using List.reverseRecOn with
  | nil => rfl
  | append_singleton es event ih =>
      rw [after_concat, justChanged_step, ih, heard_concat, List.foldl_append]

/-! ## Moves -/

/-- The cursor moves, and the text stays. -/
inductive Moves (e : Editor σ) : Event → Prop where
  | edit {cursor : Cursor} (hcursor : cursor ≠ e.buffer.cursor) :
      Moves e (.edit e.buffer.text cursor)
  | news : Moves e (.news true .moved)

/-- **What a move does**: it clears the mark while the popup is showing, and hides the popup
if there was none. -/
theorem step_of_moves (w : Services σ) {e : Editor σ} {event : Event} (hnews : e.buffer.news = [])
    (h : Moves e event) :
    (step w e event).1.justChanged = (e.justChanged && !e.popup) ∧
      (step w e event).1.popup = (e.popup && e.justChanged) := by
  cases h with
  | @edit cursor hcursor =>
      have hset : (e.buffer.set e.buffer.text cursor).news = [.moved] := by
        simp [Buffer.set, hnews, hcursor]
      have hstep : (step w e (.edit e.buffer.text cursor)).1 =
          [News.moved].foldl hear { e with
            shown := {}
            buffer := { e.buffer.set e.buffer.text cursor with news := [] } } := by
        rw [← hset]
        rfl
      rw [hstep]
      exact hear_moved_mark _
  | news =>
      have hnone : ({ e with shown := {} }.hear .moved).buffer.news = [] := by
        rw [buffer_hear]
        exact hnews
      have hstep : (step w e (.news true .moved)).1 =
          { ({ e with shown := {} }.hear .moved) with
            buffer := { ({ e with shown := {} }.hear .moved).buffer with news := [] } } := by
        show hearNews ({ e with shown := {} }.hear .moved) = _
        rw [hearNews, hnone]
        rfl
      rw [hstep]
      exact hear_moved_mark { e with shown := {} }

/-- What is typed while the popup is hidden leaves the mark behind: the move that comes with
it is not looked at. -/
theorem justChanged_of_typed (w : Services σ) {e : Editor σ} {text : String} (cursor : Cursor)
    (hnews : e.buffer.news = []) (htext : text ≠ e.buffer.text) (hhidden : e.popup = false) :
    (step w e (.edit text cursor)).1.justChanged = true := by
  let typed : Editor σ := { e with
    shown := {}
    buffer := { e.buffer.set text cursor with news := [] } }
  have hmark : (typed.hear .changed).justChanged = true := hear_changed_mark typed
  have hstill : (typed.hear .changed).popup = false := (turn_hear typed .changed).keeps.hidden hhidden
  have hstep : (step w e (.edit text cursor)).1 =
      (e.buffer.set text cursor).news.foldl hear typed := rfl
  rw [hstep]
  by_cases hcursor : cursor = e.buffer.cursor
  · have hset : (e.buffer.set text cursor).news = [.changed] := by
      simp [Buffer.set, hnews, htext, hcursor]
    rw [hset]
    exact hmark
  · have hset : (e.buffer.set text cursor).news = [.changed, .moved] := by
      simp [Buffer.set, hnews, htext, hcursor]
    rw [hset, List.foldl_cons, List.foldl_cons, List.foldl_nil, (hear_moved_mark _).1, hmark, hstill]
    rfl

/-- The timer leaves the mark alone. -/
theorem justChanged_step_timer (w : Services σ) {e : Editor σ} (hnews : e.buffer.news = []) :
    (step w e .timer).1.justChanged = e.justChanged := by
  obtain ⟨-, hbuffer⟩ := handle_timer_beside w { e with shown := {} }
  have hnone : heardIn w e .timer = [] := by
    rw [heardIn, hearingsLeft, hbuffer, hnews]
    rfl
  rw [justChanged_step, hnone, List.foldl_nil]

/-- **When a move hides the popup.**  Take any events of a new editor, and then a move of the
cursor.  The popup is showing behind the move if it was showing before, and there is a
change of the text since which no move was heard with the popup showing.  The next move
hides it then.

So the popup outlives the first move if the text was last changed while it was hidden: that
is what a user does who types until the timer shows it. -/
theorem move_hides_iff (w : Services σ) (settings : Settings) (store : σ)
    (startup : Option String) (es : List Event) :
    let start := new settings store startup
    let e := after w start es
    (∀ event, Moves e event → let e' := (step w e event).1
      (e'.popup = true ↔ e.popup = true ∧ Unanswered (heard w start es)) ∧
        (e.popup = true → ∀ next, Moves e' next → (step w e' next).1.popup = false)) ∧
      ∀ text cursor, text ≠ e.buffer.text → e.popup = false →
        let shown := after w e [.edit text cursor, .timer]
        shown.popup = true → ∀ event, Moves shown event → (step w shown event).1.popup = true := by
  intro start e
  have hnews : e.buffer.news = [] := news_after w rfl es
  refine ⟨?_, ?_⟩
  · intro event hmoves e'
    obtain ⟨hmark, hpopup⟩ := step_of_moves w hnews hmoves
    have hunanswered : e.justChanged = true ↔ Unanswered (heard w start es) := by
      rw [← foldl_mark_iff, justChanged_after]
      rfl
    refine ⟨?_, ?_⟩
    · rw [hpopup, Bool.and_eq_true, hunanswered]
    · intro hshowing next hnext
      obtain ⟨-, hpopup'⟩ := step_of_moves w (news_step w e event) hnext
      rw [hpopup', hmark, hshowing, Bool.not_true, Bool.and_false, Bool.and_false]
  · intro text cursor htext hhidden shown hshown event hmoves
    have htyped := justChanged_of_typed w cursor hnews htext hhidden
    have hmark : shown.justChanged = true :=
      (justChanged_step_timer w (news_step w e _)).trans htyped
    have hleft : shown.buffer.news = [] := news_after w hnews _
    obtain ⟨-, hpopup⟩ := step_of_moves w hleft hmoves
    rw [hpopup, hshown, hmark]
    rfl

/-- A word is typed, and the timer shows the popup for it. -/
def shownByTimer : List Event := [.edit "SEL" ⟨0, 3⟩, .timer]

/-- The cursor is moved back by one. -/
def moveBack : Event := .edit "SEL" ⟨0, 2⟩

/-- The first move after the timer leaves the popup showing, and another one hides it. -/
theorem move_hides_iff_typed :
    let start := new {} () none
    let shown := after noServices start shownByTimer
    let moved := (step noServices shown moveBack).1
    Unanswered (heard noServices start shownByTimer) ∧ moved.popup = true ∧
      (step noServices moved (.edit "SEL" ⟨0, 1⟩)).1.popup = false := by
  intro start shown moved
  have hback : Moves shown moveBack := by
    have htext : shown.buffer.text = "SEL" := by decide +kernel
    rw [moveBack, ← htext]
    exact .edit (by decide +kernel)
  have hagain : Moves moved (.edit "SEL" ⟨0, 1⟩) := by
    have htext : moved.buffer.text = "SEL" := by decide +kernel
    rw [← htext]
    exact .edit (by decide +kernel)
  have hshown : shown.popup = true := by decide +kernel
  have hempty : (after noServices start []).buffer.text = "" := rfl
  have hkept : moved.popup = true := (move_hides_iff noServices {} () none []).2 "SEL" ⟨0, 3⟩
    (by rw [hempty]; decide) rfl hshown moveBack hback
  obtain ⟨hiff, hnext⟩ := (move_hides_iff noServices {} () none shownByTimer).1 moveBack hback
  exact ⟨(hiff.mp hkept).2, hkept, hnext hshown _ hagain⟩

/-- **A move that leaves the popup showing**: the first one after the timer has shown it. -/
theorem first_move_leaves_popup :
    let shown := after noServices (new {} () none) shownByTimer
    shown.popup = true ∧ Moves shown moveBack ∧ (step noServices shown moveBack).1.popup = true := by
  intro shown
  have htext : shown.buffer.text = "SEL" := by decide +kernel
  refine ⟨by decide +kernel, ?_, by decide +kernel⟩
  rw [moveBack, ← htext]
  exact .edit (by decide +kernel)

end QueryDesk.Editor
