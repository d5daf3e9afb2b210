import QueryDesk.Proofs.Editor.Acceptance
import QueryDesk.Proofs.Editor.Dismissal

/-!
# Whether the popup is showing

Three parts of an editor tell whether its popup is showing: its own mark, the list on
the screen, and the text that the popup was made for.  Each turn of the popup brings
all three together (`Turn.together`), and so does a ring, so that they never part.
What is in a popup that is showing is known from the last ring: exactly the candidates
that were found then, with one of them selected.  Hence the keys of the popup never
meet an empty list.

The keys are the popup's while the focus is on the buffer, and there it stays unless
something else is given the focus.

## Main results

* `together_after` — the parts of the popup never part.
* `step_arrow` — what an arrow key does while the popup is showing.
* `focus_after` — the focus stays on the buffer.
* `popup_consistent` — the popup in every run of an editor.
-/

namespace QueryDesk.Editor

open Completion (Candidate)

variable {σ : Type}

/-! ## The parts of the popup -/

/-- The list is on the screen while the popup is marked as showing, and a popup that is
hidden keeps nothing of what it was. -/
structure Together (view : Bool × Option String × Dropdown) : Prop where
  visible : view.2.2.visible = view.1
  source : view.1 = false → view.2.1 = none
  selected : view.1 = false → view.2.2.selected = 0

theorem visible_move (d : Dropdown) (by_ : Int) : (d.move by_).visible = d.visible := by
  unfold Dropdown.move
  split
  · rfl
  · rfl

theorem together_hide (d : Dropdown) : Together (false, none, d.hide) :=
  ⟨rfl, fun _ => rfl, fun _ => rfl⟩

/-- **Every turn of the popup keeps its parts together.** -/
theorem Turn.together {view view' : Bool × Option String × Dropdown} (hturn : Turn view view')
    (h : Together view) : Together view' := by
  cases hturn with
  | same => exact h
  | moved source d by_ => exact ⟨(visible_move d by_).trans h.visible, nofun, nofun⟩
  | hidden _ d => exact together_hide d

theorem together_ringTimer (e : Editor σ) : Together (popupView e.ringTimer) := by
  rcases popupView_ringTimer e with ⟨d, hview⟩ | ⟨-, d, -, -, hview⟩
  · rw [hview]
    exact together_hide d
  · rw [hview]
    exact ⟨rfl, nofun, nofun⟩

theorem together_step (w : Services σ) {e : Editor σ} (event : Event)
    (h : Together (popupView e)) : Together (popupView (step w e event).1) := by
  rcases rings_or_quiet e event with ⟨rfl, htimer⟩ | hquiet
  · rw [step_timer w htimer]
    exact turns_hearNews (P := fun e => Together (popupView e)) (fun _ _ hturn => hturn.together)
      (together_ringTimer _)
  · exact turns_step (P := fun e => Together (popupView e)) (fun _ _ hturn => hturn.together) w
      hquiet h

/-- **The parts of the popup never part.** -/
theorem together_after (w : Services σ) {e : Editor σ} (h : Together (popupView e))
    (es : List Event) : Together (popupView (after w e es)) := by
  induction es using List.reverseRecOn with
  | nil => exact h
  | append_singleton es event ih =>
      rw [after_concat]
      exact together_step w event ih

/-! ## A popup that is showing, and one that is hidden -/

/-- The popup is showing the candidates that a ring found for the editor `filled`. -/
structure Showing (e filled : Editor σ) : Prop where
  popup : e.popup = true
  visible : e.dropdown.visible = true
  source : e.popupText = some filled.buffer.text
  candidates : e.dropdown.filtered = offers filled
  ne_nil : e.dropdown.filtered ≠ []
  selected : e.dropdown.selected < e.dropdown.filtered.length

/-- The popup is hidden, with nothing left of what it was. -/
structure Hidden (e : Editor σ) : Prop where
  popup : e.popup = false
  visible : e.dropdown.visible = false
  source : e.popupText = none
  selected : e.dropdown.selected = 0

theorem Together.showing {e filled : Editor σ} (h : Together (popupView e))
    (hfilled : Filled e filled) (hpopup : e.popup = true) : Showing e filled where
  popup := hpopup
  visible := h.visible.trans hpopup
  source := hfilled.source hpopup
  candidates := hfilled.candidates hpopup
  ne_nil := List.ne_nil_of_length_pos (Nat.zero_lt_of_lt (hfilled.selected hpopup))
  selected := hfilled.selected hpopup

theorem Together.hidden {e : Editor σ} (h : Together (popupView e)) (hpopup : e.popup = false) :
    Hidden e :=
  ⟨hpopup, h.visible.trans hpopup, h.source hpopup, h.selected hpopup⟩

theorem Showing.filled {e filled : Editor σ} (h : Showing e filled) : Filled e filled :=
  ⟨fun _ => h.source, fun _ => h.candidates, fun _ => h.selected⟩

/-- A selection within the list is one of the candidates. -/
theorem Showing.exists_selection {e filled : Editor σ} (h : Showing e filled) :
    ∃ c ∈ offers filled, e.dropdown.selection = some c := by
  obtain ⟨c, hc⟩ : ∃ c, e.dropdown.selection = some c :=
    ⟨_, List.getElem?_eq_getElem h.selected⟩
  exact ⟨c, h.candidates ▸ List.mem_of_getElem? hc, hc⟩

/-! ## The keys of the popup -/

/-- The keys that move the selection, and by how many candidates. -/
def arrowKeys : List (String × Int) := [("down", 1), ("up", -1)]

theorem hearNews_nil {e : Editor σ} (hnews : e.buffer.news = []) :
    popupView e.hearNews = popupView e := by
  simp only [hearNews, hnews, List.foldl_nil]
  rfl

/-- An arrow key moves the selection, with the popup showing and the focus on the buffer. -/
theorem press_arrow {e : Editor σ} {key : String} {by_ : Int} (hpopup : e.popup = true)
    (hfocus : e.focus = .buffer) (harrow : (key, by_) ∈ arrowKeys) :
    (e.press key).2 = true ∧ (e.press key).1.buffer = e.buffer ∧
      popupView (e.press key).1 = (true, e.popupText, e.dropdown.move by_) := by
  obtain ⟨session, hpress⟩ := press_of_popupKey hpopup hfocus key
  have hmove : ({ e with session } : Editor σ).popupKey? key =
      some { e with session, dropdown := e.dropdown.move by_ } := by
    have hcases : key = "down" ∧ by_ = 1 ∨ key = "up" ∧ by_ = -1 := by
      simpa [arrowKeys] using harrow
    rcases hcases with ⟨rfl, rfl⟩ | ⟨rfl, rfl⟩
    · simp [popupKey?, hpopup]
    · simp [popupKey?, hpopup]
  rw [hpress _ hmove, popupView, hpopup]
  exact ⟨rfl, rfl, rfl⟩

/-- **What an arrow key does while the popup is showing.** -/
theorem step_arrow (w : Services σ) {e : Editor σ} {key : String} {by_ : Int}
    (hnews : e.buffer.news = []) (hpopup : e.popup = true) (hfocus : e.focus = .buffer)
    (harrow : (key, by_) ∈ arrowKeys) :
    (step w e (.key key)).2 = .key true ∧
      popupView (step w e (.key key)).1 = (true, e.popupText, e.dropdown.move by_) := by
  obtain ⟨htaken, hbuffer, hview⟩ : (press { e with shown := {} } key).2 = true ∧
      (press { e with shown := {} } key).1.buffer = e.buffer ∧
        popupView (press { e with shown := {} } key).1 =
          (true, e.popupText, e.dropdown.move by_) :=
    press_arrow hpopup hfocus harrow
  constructor
  · show Answer.key (press { e with shown := {} } key).2 = .key true
    rw [htaken]
  · show popupView (hearNews (press { e with shown := {} } key).1) = _
    rw [hearNews_nil (by rw [hbuffer, hnews]), hview]

/-- A key of the popup moves the selection from one of its candidates to another. -/
structure Selects (w : Services σ) (e filled : Editor σ) (key : String) (by_ : Int)
    (c : Candidate) : Prop where
  taken : (step w e (.key key)).2 = .key true
  showing : Showing (step w e (.key key)).1 filled
  index : ((step w e (.key key)).1.dropdown.selected : Int) =
    (e.dropdown.selected + by_) % e.dropdown.filtered.length
  selection : (step w e (.key key)).1.dropdown.selection = some c

/-- The keys of the popup act on its candidates. -/
structure Obeys (w : Services σ) (e filled : Editor σ) : Prop where
  accept : ∃ c ∈ offers filled, ∃ start stop, Accepts w e filled.buffer c start stop
  arrow : e.focus = .buffer → ∀ key by_, (key, by_) ∈ arrowKeys →
    ∃ c ∈ offers filled, Selects w e filled key by_ c

theorem Showing.obeys (w : Services σ) {e filled : Editor σ} (h : Showing e filled)
    (hnews : e.buffer.news = []) (htogether : Together (popupView e)) : Obeys w e filled where
  accept := by
    obtain ⟨c, start, stop, haccepts⟩ := h.filled.stands.accepts w h.popup
    obtain ⟨c', hc', hselection⟩ := h.exists_selection
    obtain rfl : c' = c := Option.some.inj (hselection.symm.trans haccepts.selected)
    exact ⟨c', hc', start, stop, haccepts⟩
  arrow := by
    intro hfocus key by_ harrow
    obtain ⟨htaken, hview⟩ := step_arrow w hnews h.popup hfocus harrow
    have hpopup : (step w e (.key key)).1.popup = true := congrArg Prod.fst hview
    have hdropdown : (step w e (.key key)).1.dropdown = e.dropdown.move by_ :=
      congrArg (fun view => view.2.2) hview
    have hshowing : Showing (step w e (.key key)).1 filled :=
      (together_step w (.key key) htogether).showing (h.filled.keeps (keeps_step w e nofun)) hpopup
    obtain ⟨c, hc, hselection⟩ := hshowing.exists_selection
    refine ⟨c, hc, htaken, hshowing, ?_, hselection⟩
    rw [hdropdown]
    exact (selected_move by_ h.selected).1

/-- **The focus stays on the buffer** as long as nothing else is given it. -/
theorem focus_after (w : Services σ) {e : Editor σ} (he : e.focus = .buffer) {es : List Event}
    (h : ∀ focus, .focus focus ∈ es → focus = .buffer) : (after w e es).focus = .buffer := by
  induction es using List.reverseRecOn with
  | nil => exact he
  | append_singleton es event ih =>
      have hbefore := ih fun focus hfocus => h focus (List.mem_append_left _ hfocus)
      rw [after_concat, focus_step]
      cases event with
      | mount => rfl
      | focus focus => exact h focus (by simp)
      | _ => exact hbefore

/-- **The popup in every run of an editor** is showing or hidden in all its parts.  One
that is showing was filled by the last ring, with exactly the candidates that were found
for the text and the cursor of that moment, and its keys act on one of them. -/
theorem popup_consistent (w : Services σ) (settings : Settings) (store : σ)
    (startup : Option String) (es : List Event) :
    let start := new settings store startup
    let e := after w start es
    ((∃ until_ since, LastRing w start es until_ since ∧ Showing e (after w start until_) ∧
        Obeys w e (after w start until_)) ∨ Hidden e) ∧
      ((∀ focus, .focus focus ∈ es → focus = .buffer) → e.focus = .buffer) := by
  intro start e
  have htogether : Together (popupView e) := together_after w ⟨rfl, fun _ => rfl, fun _ => rfl⟩ es
  refine ⟨?_, focus_after w rfl⟩
  cases hpopup : e.popup with
  | true =>
      obtain ⟨until_, since, hlast, hfilled⟩ := exists_lastRing_filled rfl hpopup
      have hshowing := htogether.showing hfilled hpopup
      exact .inl ⟨until_, since, hlast, hshowing, hshowing.obeys w (news_after w rfl es) htogether⟩
  | false => exact .inr (htogether.hidden hpopup)

/-- The popup that is showing after a word was typed on knows its text and obeys its keys. -/
theorem popup_consistent_typing :
    let start := new {} () none
    let e := after noServices start typing
    e.focus = .buffer ∧ ∃ until_ since, LastRing noServices start typing until_ since ∧
      Showing e (after noServices start until_) ∧
        Obeys noServices e (after noServices start until_) := by
  intro start e
  obtain ⟨hpopup | hhidden, hfocus⟩ := popup_consistent noServices {} () none typing
  · exact ⟨hfocus (by simp [typing]), hpopup⟩
  · have hshown : e.popup = true := by decide +kernel
    exact absurd (hhidden.popup.symm.trans hshown) (by decide)

end QueryDesk.Editor
