import QueryDesk.Editor.Step

/-!
# The desk of an editor

What an editor is working on is its desk: the buffer, the popup over it, the
timer that will fill the popup, and the marks by which it knows its own changes
of the text.  The session, the grid, the jobs and all that is shown stay beside
it.  Six events are about the desk, and two more about the focus (`workplace`).
The others leave both alone, whatever jobs they do on the way.  This is said here
once, so that nothing about the popup or the timer has to follow a job again.

## Main results

* `workplace_handle` — what every event does to the desk and the focus.
* `desk_handle` — what every event does to the desk.
* `buffer_hearNews` — hearing the news of the buffer changes nothing else in it.
* `exists_keyTurn` — what a key can do.
* `focus_step` — what every event does to the focus.
-/

namespace QueryDesk.Editor

open Execution

variable {σ : Type}

/-- The part of an editor that its buffer and its popup are made of. -/
structure Desk where
  buffer : Buffer
  dropdown : Dropdown
  popup : Bool
  popupText : Option String
  justApplied : Bool
  justRecalled : Bool
  justChanged : Bool
  timer : Bool

/-- The desk of an editor. -/
def desk (e : Editor σ) : Desk :=
  { buffer := e.buffer, dropdown := e.dropdown, popup := e.popup, popupText := e.popupText
    justApplied := e.justApplied, justRecalled := e.justRecalled, justChanged := e.justChanged
    timer := e.timer }

/-- The desk and the focus: all of an editor that its user works with directly. -/
def workplace (e : Editor σ) : Desk × Focus := (desk e, e.focus)

/-- What is done many times leaves alone what it leaves alone once. -/
theorem workplace_foldl {α : Type} {f : Editor σ → α → Editor σ}
    (hf : ∀ e a, workplace (f e a) = workplace e) (as : List α) (e : Editor σ) :
    workplace (as.foldl f e) = workplace e := by
  induction as generalizing e with
  | nil => rfl
  | cons a as ih => rw [List.foldl_cons, ih, hf]

@[simp] theorem workplace_note (e : Editor σ) (n : Note) : workplace (e.note n) = workplace e := rfl

@[simp] theorem workplace_enqueue (e : Editor σ) (j : Job) :
    workplace (e.enqueue j) = workplace e := rfl

@[simp] theorem workplace_updateStatus (e : Editor σ) :
    workplace e.updateStatus = workplace e := rfl

@[simp] theorem workplace_execute (archive : Option (Archive σ)) (e : Editor σ)
    (event : Execution.Event) : workplace (e.execute archive event).1 = workplace e := by
  simp only [execute]
  split
  · rw [workplace_foldl fun e _ => workplace_updateStatus e]
    rfl
  · rfl

/-! ## Background jobs -/

theorem workplace_showResult (e : Editor σ) (r : Execution.Result) :
    workplace (e.showResult r) = workplace e := by
  by_cases htruncated : r.truncated = true
  · simp only [showResult, htruncated, if_true]
    rfl
  · simp only [showResult, htruncated]
    rfl

/-- **No job touches the desk or the focus.** -/
theorem workplace_perform (w : Services σ) (e : Editor σ) (j : Job) :
    workplace (perform w e j) = workplace e := by
  cases j with
  | select connection =>
      simp only [perform, selectNow]
      split
      · rfl
      · rfl
  | refresh => rfl
  | query run =>
      simp only [perform, queryNow]
      split
      · rw [workplace_execute]
      · split
        · rw [workplace_updateStatus, workplace_showResult]
          show workplace (Editor.execute _ _ _).1 = _
          rw [workplace_execute, workplace_execute]
        · rw [workplace_note, workplace_execute, workplace_execute]
        · rw [workplace_execute, workplace_execute]

/-! ## Events -/

/-- A run that is submitted hides the popup, and does nothing else to the workplace. -/
theorem workplace_submit (w : Services σ) (e : Editor σ) :
    workplace (e.submit w) = workplace e.hidePopup := by
  unfold submit
  simp only
  split
  · rfl
  · split
    · rw [workplace_enqueue]
      exact workplace_execute _ _ _
    · rw [workplace_note]
      exact workplace_execute _ _ _

/-- An editor that appears takes the focus to its buffer. -/
theorem workplace_appear (e : Editor σ) : workplace e.appear = (desk e, .buffer) := by
  unfold appear
  simp only
  split
  · rfl
  · rfl
  · rfl

theorem workplace_askRefresh (e : Editor σ) : workplace e.askRefresh = workplace e := by
  unfold askRefresh
  split
  · rfl
  · rfl

/-- **What every event does to the desk and the focus**, before the news of the buffer
is heard. -/
theorem workplace_handle (w : Services σ) (e : Editor σ) (event : Event) :
    workplace (handle w e event).1 =
      match event with
      | .mount => (desk e, .buffer)
      | .edit text cursor => workplace { e with buffer := e.buffer.set text cursor }
      | .news true news => workplace (e.hear news)
      | .timer => workplace (if e.timer then e.ringTimer else e)
      | .key key => workplace (e.press key).1
      | .focus focus => (desk e, focus)
      | .clear => workplace (e.hidePopup.call (.load ""))
      | .run => workplace e.hidePopup
      | _ => workplace e := by
  cases event with
  | mount => exact workplace_appear e
  | unmount => exact workplace_execute w.archive e (.unsubscribe listenerName)
  | edit text cursor => rfl
  | news ofBuffer news => cases ofBuffer <;> rfl
  | timer =>
      simp only [handle]
      split
      · rfl
      · rfl
  | key key => rfl
  | focus focus => rfl
  | running value => rfl
  | clear => rfl
  | run => exact workplace_submit w e
  | select connection => rfl
  | refresh => exact workplace_askRefresh e
  | reset => exact workplace_execute w.archive e .reset
  | settle elapsed =>
      simp only [handle, performAll]
      exact workplace_foldl (workplace_perform w) _ _

/-- **What every event does to the desk**, before the news of the buffer is heard. -/
theorem desk_handle (w : Services σ) (e : Editor σ) (event : Event) :
    desk (handle w e event).1 =
      match event with
      | .edit text cursor => desk { e with buffer := e.buffer.set text cursor }
      | .news true news => desk (e.hear news)
      | .timer => desk (if e.timer then e.ringTimer else e)
      | .key key => desk (e.press key).1
      | .clear => desk (e.hidePopup.call (.load ""))
      | .run => desk e.hidePopup
      | _ => desk e := by
  have hdesk := congrArg Prod.fst (workplace_handle w e event)
  cases event with
  | news ofBuffer news => cases ofBuffer <;> exact hdesk
  | _ => exact hdesk

theorem desk_submit (w : Services σ) (e : Editor σ) : desk (e.submit w) = desk e.hidePopup :=
  congrArg Prod.fst (workplace_submit w e)

/-! ## The news of the buffer -/

theorem buffer_hear (e : Editor σ) (n : News) : (e.hear n).buffer = e.buffer := by
  cases n with
  | changed =>
      simp only [hear, textChanged]
      split
      · rfl
      · rfl
  | moved =>
      simp only [hear, cursorMoved]
      split
      · rfl
      · split
        · rfl
        · rfl

/-- What every piece of news preserves, all of them preserve. -/
theorem hearNews_preserves {P : Editor σ → Prop} (hhear : ∀ e n, P e → P (e.hear n))
    {e : Editor σ} (h : P { e with buffer := { e.buffer with news := [] } }) : P e.hearNews := by
  have hall : ∀ (news : List News) (e : Editor σ), P e → P (news.foldl hear e) := by
    intro news
    induction news with
    | nil => exact fun _ h => h
    | cons n news ih => exact fun e h => ih _ (hhear e n h)
  exact hall _ _ h

/-- **Hearing the news of the buffer changes nothing else in it.** -/
theorem buffer_hearNews (e : Editor σ) : e.hearNews.buffer = { e.buffer with news := [] } :=
  hearNews_preserves (P := fun e' => e'.buffer = { e.buffer with news := [] })
    (fun e' n h => (buffer_hear e' n).trans h) rfl

/-! ## Keys -/

/-- What a key can do, apart from what the history does with it: the popup takes the key if it
is showing, or a text is brought back. -/
inductive KeyTurn (e : Editor σ) : Editor σ → Prop where
  | same : KeyTurn e e
  | moved (hpopup : e.popup = true) (by_ : Int) :
      KeyTurn e { e with dropdown := e.dropdown.move by_ }
  | applied (hpopup : e.popup = true) : KeyTurn e e.applyCandidate
  | hidden (hpopup : e.popup = true) : KeyTurn e e.hidePopup
  | broughtBack (text : String) : KeyTurn e (e.bringBack text)

theorem keyTurn_popupKey {e e' : Editor σ} {key : String} (h : e.popupKey? key = some e') :
    KeyTurn e e' := by
  unfold popupKey? at h
  split at h
  · cases h
  · rename_i hshown
    have hpopup : e.popup = true := by simpa using hshown
    split at h
    · exact Option.some.inj h ▸ .moved hpopup 1
    · exact Option.some.inj h ▸ .moved hpopup (-1)
    · exact Option.some.inj h ▸ .applied hpopup
    · exact Option.some.inj h ▸ .applied hpopup
    · exact Option.some.inj h ▸ .hidden hpopup
    · cases h

/-- **What a key can do.** -/
theorem exists_keyTurn (e : Editor σ) (key : String) :
    ∃ session e', (e.press key).1 = e' ∧ KeyTurn { e with session } e' := by
  unfold press
  split
  · exact ⟨e.session, e, rfl, .same⟩
  · simp only
    split
    · exact ⟨_, _, rfl, .same⟩
    · exact ⟨_, _, rfl, .broughtBack _⟩
    · split
      · rename_i hkey
        exact ⟨_, _, rfl, keyTurn_popupKey hkey⟩
      · exact ⟨_, _, rfl, .same⟩

/-! ## The focus -/

theorem focus_hear (e : Editor σ) (n : News) : (e.hear n).focus = e.focus := by
  cases n with
  | changed =>
      simp only [hear, textChanged]
      split
      · rfl
      · rfl
  | moved =>
      simp only [hear, cursorMoved]
      split
      · rfl
      · split
        · rfl
        · rfl

theorem focus_hearNews (e : Editor σ) : e.hearNews.focus = e.focus :=
  hearNews_preserves (P := fun e' => e'.focus = e.focus)
    (fun e' n h => (focus_hear e' n).trans h) rfl

theorem focus_showPopup (e : Editor σ) (word : String) : (e.showPopup word).focus = e.focus := by
  simp only [showPopup]
  split
  · rfl
  · rfl

theorem focus_ringTimer (e : Editor σ) : e.ringTimer.focus = e.focus := by
  simp only [ringTimer]
  split
  · exact focus_showPopup _ _
  · rfl

theorem focus_applyCandidate (e : Editor σ) : e.applyCandidate.focus = e.focus := by
  unfold applyCandidate
  split
  · rfl
  · simp only [hidePopup, call]

theorem focus_bringBack (e : Editor σ) (text : String) : (e.bringBack text).focus = e.focus := by
  unfold bringBack
  split
  · rfl
  · rfl

/-- No key moves the focus. -/
theorem focus_press (e : Editor σ) (key : String) : (e.press key).1.focus = e.focus := by
  obtain ⟨session, e', hpress, hturn⟩ := exists_keyTurn e key
  rw [hpress]
  cases hturn with
  | same => rfl
  | moved hpopup by_ => rfl
  | applied hpopup => exact focus_applyCandidate { e with session }
  | hidden hpopup => rfl
  | broughtBack text => exact focus_bringBack { e with session } text

/-- **What every event does to the focus.** -/
theorem focus_step (w : Services σ) (e : Editor σ) (event : Event) :
    (step w e event).1.focus =
      match event with
      | .mount => .buffer
      | .focus focus => focus
      | _ => e.focus := by
  show (hearNews _).focus = _
  have hfocus := congrArg Prod.snd (workplace_handle w { e with shown := {} } event)
  rw [focus_hearNews]
  cases event with
  | news ofBuffer n =>
      cases ofBuffer with
      | false => exact hfocus
      | true => exact hfocus.trans (focus_hear _ n)
  | timer =>
      refine hfocus.trans ?_
      simp only [workplace]
      split
      · exact focus_ringTimer _
      · rfl
  | key key => exact hfocus.trans (focus_press _ key)
  | _ => exact hfocus

end QueryDesk.Editor
