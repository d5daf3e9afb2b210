import Mathlib.Data.List.Induction
import QueryDesk.Proofs.Completion.Assembly
import QueryDesk.Proofs.Editor.Desk

/-!
# How the popup comes about

The popup is filled in one place only, when the timer rings, and from the text
and the cursor of that moment.  All else that happens to an editor leaves it as
it is, moves the selection within it, or hides it: these are its turns (`Turn`),
and every handler is shown to take one of them.  What each turn preserves, a whole
event preserves (`turns_step`).  So a popup that is showing can be traced back to
the last time that the timer rang.

## Main results

* `turn_handle` — the turn of every event if no timer rings.
* `keeps_step` — what an event does to the popup if no timer rings.
* `filled_step_timer` — what the timer puts into the popup.
* `exists_lastRing_filled` — a popup that is showing is as the last ring filled it.
-/

namespace QueryDesk.Editor

open Completion (Cursor contextAt)
open Execution

variable {σ : Type}

/-! ## The popup and what leaves it alone -/

/-- The popup is hidden, or showing the same candidates for the same text as
before, with a selection that is valid if it was. -/
structure Keeps (e e' : Editor σ) : Prop where
  popup : e'.popup = true → e.popup = true
  source : e'.popup = true → e'.popupText = e.popupText
  filtered : e'.popup = true → e'.dropdown.filtered = e.dropdown.filtered
  selected : e'.popup = true → e.dropdown.selected < e.dropdown.filtered.length →
    e'.dropdown.selected < e'.dropdown.filtered.length

namespace Keeps

variable {e e' e'' : Editor σ}

theorem trans (h : Keeps e e') (h' : Keeps e' e'') : Keeps e e'' where
  popup hp := h.popup (h'.popup hp)
  source hp := (h'.source hp).trans (h.source (h'.popup hp))
  filtered hp := (h'.filtered hp).trans (h.filtered (h'.popup hp))
  selected hp hlt := h'.selected hp (h.selected (h'.popup hp) hlt)

theorem of_hidden (h : e'.popup = false) : Keeps e e' := by
  refine ⟨fun hp => ?_, fun hp => ?_, fun hp => ?_, fun hp => ?_⟩
  all_goals
    rw [h] at hp
    cases hp

/-- A popup that is hidden stays hidden. -/
theorem hidden (h : Keeps e e') (hhidden : e.popup = false) : e'.popup = false := by
  by_contra hshown
  have hbefore : e.popup = true := h.popup (by simpa using hshown)
  rw [hhidden] at hbefore
  cases hbefore

end Keeps

/-- The part of an editor that the popup is made of. -/
def popupView (e : Editor σ) : Bool × Option String × Dropdown := (e.popup, e.popupText, e.dropdown)

theorem Keeps.of_view {e e' : Editor σ} (h : popupView e' = popupView e) : Keeps e e' := by
  obtain ⟨hpopup, hrest⟩ := Prod.mk.inj h
  obtain ⟨hsource, hdropdown⟩ := Prod.mk.inj hrest
  exact ⟨fun hp => hpopup ▸ hp, fun _ => hsource, fun _ => by rw [hdropdown],
    fun _ hlt => by rw [hdropdown]; exact hlt⟩

theorem Keeps.refl (e : Editor σ) : Keeps e e := .of_view rfl

theorem selected_move {d : Dropdown} (by_ : Int) (h : d.selected < d.filtered.length) :
    ((d.move by_).selected : Int) = (d.selected + by_) % d.filtered.length ∧
      (d.move by_).selected < d.filtered.length := by
  have hne : d.filtered.isEmpty = false := by
    rw [List.isEmpty_eq_false_iff]
    exact List.ne_nil_of_length_pos (by omega)
  simp only [Dropdown.move, hne, Bool.false_eq_true, if_false]
  have hnonneg := Int.emod_nonneg ((d.selected : Int) + by_) (b := d.filtered.length) (by omega)
  have hlt := Int.emod_lt_of_pos ((d.selected : Int) + by_) (b := d.filtered.length) (by omega)
  omega

@[simp] theorem filtered_move (d : Dropdown) (by_ : Int) : (d.move by_).filtered = d.filtered := by
  unfold Dropdown.move
  split
  · rfl
  · rfl

/-! ## The turns of the popup -/

/-- What a handler does to the popup if it does not fill it: it leaves it alone, moves the
selection of one that is showing, or hides it. -/
inductive Turn : Bool × Option String × Dropdown → Bool × Option String × Dropdown → Prop where
  | same (view : Bool × Option String × Dropdown) : Turn view view
  | moved (source : Option String) (d : Dropdown) (by_ : Int) :
      Turn (true, source, d) (true, source, d.move by_)
  | hidden (view : Bool × Option String × Dropdown) (d : Dropdown) : Turn view (false, none, d.hide)

theorem Turn.keeps {e e' : Editor σ} (h : Turn (popupView e) (popupView e')) : Keeps e e' := by
  generalize hbefore : popupView e = view at h
  generalize hafter : popupView e' = view' at h
  cases h with
  | same => exact .of_view (hafter.trans hbefore.symm)
  | moved source d by_ =>
      obtain ⟨hpopup, hsource, hd⟩ : e.popup = true ∧ e.popupText = source ∧ e.dropdown = d := by
        simpa [popupView] using hbefore
      obtain ⟨-, hsource', hd'⟩ :
          e'.popup = true ∧ e'.popupText = source ∧ e'.dropdown = d.move by_ := by
        simpa [popupView] using hafter
      refine ⟨fun _ => hpopup, fun _ => hsource'.trans hsource.symm, fun _ => ?_, fun _ hlt => ?_⟩
      · rw [hd', hd, filtered_move]
      · rw [hd] at hlt
        rw [hd', filtered_move]
        exact (selected_move by_ hlt).2
  | hidden _ d => exact .of_hidden (congrArg Prod.fst hafter)

theorem Turn.of_view {e e' : Editor σ} (h : popupView e' = popupView e) :
    Turn (popupView e) (popupView e') :=
  h ▸ .same _

/-- What leaves the desk alone leaves the popup alone. -/
theorem Turn.of_desk {e e' : Editor σ} (h : desk e' = desk e) :
    Turn (popupView e) (popupView e') :=
  .of_view (congrArg (fun d : Desk => (d.popup, d.popupText, d.dropdown)) h)

theorem turn_hear (e : Editor σ) (n : News) : Turn (popupView e) (popupView (e.hear n)) := by
  cases n with
  | changed =>
      simp only [hear, textChanged]
      split
      · exact .hidden _ e.dropdown
      · exact .same _
  | moved =>
      simp only [hear, cursorMoved]
      split
      · exact .same _
      · split
        · exact .same _
        · exact .hidden _ e.dropdown

/-! ### Keys -/

theorem popupView_applyCandidate (e : Editor σ) :
    popupView e.applyCandidate = (false, none, e.dropdown.hide) := by
  unfold applyCandidate
  split
  · rfl
  · rfl

theorem popup_applyCandidate (e : Editor σ) : e.applyCandidate.popup = false :=
  congrArg Prod.fst (popupView_applyCandidate e)

/-- With the popup showing and the focus on the buffer, the history leaves every key to the
popup. -/
theorem press_of_popupKey {e : Editor σ} (hpopup : e.popup = true)
    (hfocus : e.focus = .buffer) (key : String) :
    ∃ session : Session σ, ∀ e', ({ e with session } : Editor σ).popupKey? key = some e' →
      e.press key = (e', true) := by
  refine ⟨(e.session.press key e.popup e.buffer.text).1, fun e' hkey => ?_⟩
  have hpassed : (e.session.press key e.popup e.buffer.text).2 = .passed := by
    rw [hpopup]
    rfl
  unfold press
  rw [if_neg (by simp [hfocus])]
  simp only [hpassed, hkey]

theorem popupView_bringBack (e : Editor σ) (text : String) :
    popupView (e.bringBack text) = popupView e := by
  unfold bringBack
  split
  · rfl
  · rfl

theorem turn_press (e : Editor σ) (key : String) :
    Turn (popupView e) (popupView (e.press key).1) := by
  obtain ⟨session, e', hpress, hturn⟩ := exists_keyTurn e key
  rw [hpress]
  cases hturn with
  | same => exact .same _
  | moved hpopup by_ =>
      have hview : popupView e = (true, e.popupText, e.dropdown) := by rw [← hpopup]; rfl
      have hmoved : popupView { e with session, dropdown := e.dropdown.move by_ } =
          (true, e.popupText, e.dropdown.move by_) := by rw [← hpopup]; rfl
      rw [hview]
      exact hmoved ▸ .moved _ _ by_
  | applied hpopup => exact popupView_applyCandidate { e with session } ▸ .hidden _ e.dropdown
  | hidden hpopup => exact .hidden _ e.dropdown
  | broughtBack text => exact .of_view (popupView_bringBack _ _)

/-! ### All events -/

theorem popup_submit (w : Services σ) (e : Editor σ) : (e.submit w).popup = false :=
  congrArg Desk.popup (desk_submit w e)

/-- **No event but the timer fills the popup.** -/
theorem turn_handle (w : Services σ) (e : Editor σ) {event : Event}
    (h : event = .timer → e.timer = false) :
    Turn (popupView e) (popupView (handle w e event).1) := by
  have hdesk := desk_handle w e event
  cases event with
  | edit text cursor => exact .same _
  | news ofBuffer n =>
      simp only [handle]
      split
      · exact turn_hear e n
      · exact .same _
  | timer =>
      simp only [handle, h rfl, Bool.false_eq_true, if_false]
      exact .same _
  | key key => exact turn_press e key
  | clear => exact .hidden _ e.dropdown
  | run =>
      have hview : popupView (handle w e .run).1 = popupView e.hidePopup :=
        congrArg (fun d : Desk => (d.popup, d.popupText, d.dropdown)) hdesk
      exact hview ▸ .hidden _ e.dropdown
  -- All other events are about something else than the desk.
  | _ => exact .of_desk hdesk

section Turns

variable {P : Editor σ → Prop}

/-- What every turn preserves, hearing the news preserves. -/
theorem turns_hearNews (hturn : ∀ e e', Turn (popupView e) (popupView e') → P e → P e')
    {e : Editor σ} (h : P e) : P e.hearNews :=
  hearNews_preserves (fun e n h => hturn _ _ (turn_hear e n) h) (hturn e _ (.same _) h)

/-- **What every turn preserves, an event preserves** if no timer rings. -/
theorem turns_step (hturn : ∀ e e', Turn (popupView e) (popupView e') → P e → P e')
    (w : Services σ) {e : Editor σ} {event : Event} (hquiet : event = .timer → e.timer = false)
    (h : P e) : P (step w e event).1 := by
  have hshown : P { e with shown := {} } := hturn e _ (.same _) h
  exact turns_hearNews hturn (hturn _ _ (turn_handle w { e with shown := {} } hquiet) hshown)

end Turns

theorem keeps_hearNews (e : Editor σ) : Keeps e e.hearNews :=
  turns_hearNews (P := Keeps e) (fun _ _ hturn hkeeps => hkeeps.trans hturn.keeps) (.refl e)

/-- **What an event does to the popup if no timer rings.** -/
theorem keeps_step (w : Services σ) (e : Editor σ) {event : Event}
    (h : event = .timer → e.timer = false) : Keeps e (step w e event).1 :=
  turns_step (P := Keeps e) (fun _ _ hturn hkeeps => hkeeps.trans hturn.keeps) w h (.refl e)

/-! ## What the timer fills in -/

/-- The candidates for the word at the cursor. -/
def offers (e : Editor σ) : List Completion.Candidate :=
  Dropdown.matching (Text.lower (contextAt e.buffer.text e.buffer.cursor).partialWord)
    (e.session.complete e.buffer.text e.buffer.cursor)

@[simp] theorem filtered_setCandidates (d : Dropdown) (candidates : List Completion.Candidate)
    (word : String) :
    (d.setCandidates candidates word).filtered = Dropdown.matching (Text.lower word) candidates :=
  rfl

/-- A ring hides the popup, or fills it with the candidates at the cursor if there are any. -/
theorem popupView_ringTimer (e : Editor σ) :
    (∃ d : Dropdown, popupView e.ringTimer = (false, none, d.hide)) ∨
      (offers e ≠ [] ∧ ∃ d : Dropdown, d.filtered = offers e ∧ d.selected = 0 ∧
        popupView e.ringTimer = (true, some e.buffer.text, d.show_)) := by
  simp only [ringTimer]
  split
  · simp only [showPopup]
    split
    · exact .inl ⟨_, rfl⟩
    · rename_i hfiltered
      rw [List.isEmpty_iff, filtered_setCandidates] at hfiltered
      refine .inr ⟨hfiltered, _, ?_, rfl, rfl⟩
      rw [filtered_setCandidates, offers]
  · exact .inl ⟨e.dropdown, rfl⟩

/-- The popup, if it is showing, is as a ring filled it: it knows the text, its candidates
are those for the word at the cursor, and one of them is selected. -/
structure Filled (e filled : Editor σ) : Prop where
  source : e.popup = true → e.popupText = some filled.buffer.text
  candidates : e.popup = true → e.dropdown.filtered = offers filled
  selected : e.popup = true → e.dropdown.selected < e.dropdown.filtered.length

theorem Filled.keeps {e e' filled : Editor σ} (h : Filled e filled) (hkeeps : Keeps e e') :
    Filled e' filled where
  source hp := (hkeeps.source hp).trans (h.source (hkeeps.popup hp))
  candidates hp := (hkeeps.filtered hp).trans (h.candidates (hkeeps.popup hp))
  selected hp := hkeeps.selected hp (h.selected (hkeeps.popup hp))

theorem filled_ringTimer (e : Editor σ) : Filled e.ringTimer e := by
  rcases popupView_ringTimer e with ⟨d, hview⟩ | ⟨hne, d, hfiltered, hselected, hview⟩
  · have hhidden : e.ringTimer.popup = false := congrArg Prod.fst hview
    refine ⟨fun hp => ?_, fun hp => ?_, fun hp => ?_⟩
    all_goals
      rw [hhidden] at hp
      cases hp
  · obtain ⟨-, hsource, hdropdown⟩ : e.ringTimer.popup = true ∧
        e.ringTimer.popupText = some e.buffer.text ∧ e.ringTimer.dropdown = d.show_ := by
      simpa [popupView] using hview
    refine ⟨fun _ => hsource, fun _ => ?_, fun _ => ?_⟩
    · rw [hdropdown]
      exact hfiltered
    · rw [hdropdown]
      show d.selected < d.filtered.length
      rw [hselected, hfiltered]
      exact List.length_pos_iff.mpr hne

/-- Either a timer rings, or the event is quiet. -/
theorem rings_or_quiet (e : Editor σ) (event : Event) :
    (event = .timer ∧ e.timer = true) ∨ (event = .timer → e.timer = false) := by
  cases htimer : e.timer with
  | true =>
      rcases Classical.em (event = .timer) with hevent | hevent
      · exact .inl ⟨hevent, rfl⟩
      · exact .inr fun h => absurd h hevent
  | false => exact .inr fun _ => rfl

theorem step_timer (w : Services σ) {e : Editor σ} (h : e.timer = true) :
    (step w e .timer).1 = ({ e with shown := {} } : Editor σ).ringTimer.hearNews := by
  show (handle w { e with shown := {} } .timer).1.hearNews = _
  simp only [handle, h, if_true]

/-- **The timer fills the popup** for the editor that it finds. -/
theorem filled_step_timer (w : Services σ) {e : Editor σ} (h : e.timer = true) :
    Filled (step w e .timer).1 e := by
  have hring : Filled ({ e with shown := {} } : Editor σ).ringTimer e := by
    obtain ⟨hsource, hcandidates, hselected⟩ := filled_ringTimer { e with shown := {} }
    exact ⟨hsource, hcandidates, hselected⟩
  rw [step_timer w h]
  exact hring.keeps (keeps_hearNews _)

/-- The popup, if it is showing, was filled for a text with a cursor: it knows the
text, one of its candidates is selected, and all are for the word at the cursor. -/
structure Stands (e : Editor σ) (text : String) (cursor : Cursor) : Prop where
  source : e.popup = true → e.popupText = some text
  selected : e.popup = true → e.dropdown.selected < e.dropdown.filtered.length
  range : e.popup = true → ∀ c ∈ e.dropdown.filtered, c.range = (contextAt text cursor).range

theorem mem_of_mem_matching {word : String} {candidates : List Completion.Candidate}
    {c : Completion.Candidate} (h : c ∈ Dropdown.matching word candidates) : c ∈ candidates := by
  unfold Dropdown.matching at h
  split at h
  · exact List.mem_of_mem_take h
  · exact List.mem_of_mem_filter h

/-- All candidates for a word take its place. -/
theorem Filled.stands {e filled : Editor σ} (h : Filled e filled) :
    Stands e filled.buffer.text filled.buffer.cursor where
  source := h.source
  selected := h.selected
  range hp c hc := by
    rw [h.candidates hp] at hc
    exact Completion.range_of_mem_assemble (mem_of_mem_matching hc)

/-! ## Runs of events -/

/-- The editor after some events. -/
def after (w : Services σ) (e : Editor σ) (es : List Event) : Editor σ :=
  es.foldl (fun e event => (step w e event).1) e

@[simp] theorem after_nil (w : Services σ) (e : Editor σ) : after w e [] = e := rfl

@[simp] theorem after_concat (w : Services σ) (e : Editor σ) (es : List Event) (event : Event) :
    after w e (es ++ [event]) = (step w (after w e es) event).1 := by
  simp [after]

/-- The last time that the timer rang: it was running then, and whenever it was
looked for since, it was not. -/
structure LastRing (w : Services σ) (e : Editor σ) (es until_ since : List Event) : Prop where
  split : es = until_ ++ .timer :: since
  rang : (after w e until_).timer = true
  quiet : ∀ first rest, since = first ++ .timer :: rest →
    (after w e (until_ ++ .timer :: first)).timer = false

section Runs

variable {w : Services σ} {e : Editor σ} {es until_ since : List Event} {event : Event}

/-- An event that rings no timer leaves the last ring the last one. -/
theorem LastRing.concat (h : LastRing w e es until_ since)
    (hquiet : event = .timer → (after w e es).timer = false) :
    LastRing w e (es ++ [event]) until_ (since ++ [event]) := by
  refine ⟨by rw [h.split]; simp, h.rang, fun first rest hsplit => ?_⟩
  rcases List.eq_nil_or_concat rest with rfl | ⟨rest', last, rfl⟩
  · obtain ⟨rfl, hlast⟩ := List.append_inj' hsplit rfl
    rw [← h.split]
    exact hquiet (by simpa using hlast)
  · rw [List.concat_eq_append, ← List.cons_append, ← List.append_assoc] at hsplit
    obtain ⟨hsince, -⟩ := List.append_inj' hsplit rfl
    exact h.quiet first rest' hsince

/-- **A popup that is showing is as the last ring filled it.** -/
theorem exists_lastRing_filled (he : e.popup = false) (h : (after w e es).popup = true) :
    ∃ until_ since, LastRing w e es until_ since ∧ Filled (after w e es) (after w e until_) := by
  induction es using List.reverseRecOn with
  | nil =>
      rw [after_nil, he] at h
      cases h
  | append_singleton es event ih =>
      rw [after_concat] at h ⊢
      rcases rings_or_quiet (after w e es) event with ⟨rfl, htimer⟩ | hquiet
      · refine ⟨es, [], ⟨rfl, htimer, fun first rest hsplit => ?_⟩,
          filled_step_timer w htimer⟩
        simp at hsplit
      · have hkeeps := keeps_step w (after w e es) hquiet
        obtain ⟨until_, since, hlast, hfilled⟩ := ih (hkeeps.popup h)
        exact ⟨until_, since ++ [event], hlast.concat hquiet, hfilled.keeps hkeeps⟩

theorem exists_lastRing (he : e.popup = false) (h : (after w e es).popup = true) :
    ∃ until_ since, LastRing w e es until_ since ∧
      Stands (after w e es) (after w e until_).buffer.text (after w e until_).buffer.cursor := by
  obtain ⟨until_, since, hlast, hfilled⟩ := exists_lastRing_filled he h
  exact ⟨until_, since, hlast, hfilled.stands⟩

end Runs

end QueryDesk.Editor
