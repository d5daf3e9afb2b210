import QueryDesk.Proofs.Editor.Acceptance

/-!
# The popup after it was dismissed

Accepting a candidate, escaping, recalling a query and running the buffer all hide
the popup, and none of them looks at the timer.  One that is running goes on
running, and fills the popup again when it rings.  So what can be said about a
dismissed popup is said about the timer: as long as the user types nothing, the
popup shows again only by a ring, and the timer that rings was running when the
popup was dismissed or was started by clearing the buffer.

The editor lets one change of the text pass for each that it makes itself
(`excused`).  What keeps the timer as it is brings no more changes than that.

## Main results

* `quiet_handle`, `timer_step` — which events leave the timer alone.
* `Dismisses.hides` — a dismissal hides the popup and leaves the timer alone.
* `armed_of_timer` — where a running timer comes from.
* `dismissed_until_ring` — how a dismissed popup shows again.
* `pending_timer_reopens` — a timer from before the dismissal shows it again.
-/

namespace QueryDesk.Editor

open Completion (Cursor)

variable {σ : Type}

/-! ## Events that leave the timer alone -/

/-- Whether the user types: the text becomes another one by the user's hand. -/
def types (e : Editor σ) : Event → Bool
  | .edit text _ => text ≠ e.buffer.text
  | .news true .changed => true
  | _ => false

/-- How many changes of the text the editor takes for its own. -/
def excused (e : Editor σ) : Nat := if e.justApplied || e.justRecalled then 1 else 0

/-- The timer is as it was, and the buffer has no more changes to tell than the
editor takes for its own. -/
structure Quiet (e e' : Editor σ) : Prop where
  timer : e'.timer = e.timer
  changes : e'.buffer.news.count .changed ≤ excused e'

/-- A buffer that is as it was has nothing to tell. -/
theorem Quiet.of_buffer {e e' : Editor σ} (htimer : e'.timer = e.timer)
    (hbuffer : e'.buffer = e.buffer) (hnews : e.buffer.news = []) : Quiet e e' := by
  refine ⟨htimer, ?_⟩
  rw [hbuffer, hnews]
  exact Nat.zero_le _

theorem Quiet.of_desk {e e' : Editor σ} (h : desk e' = desk e) (hnews : e.buffer.news = []) :
    Quiet e e' :=
  .of_buffer (congrArg Desk.timer h) (congrArg Desk.buffer h) hnews

/-- Setting a text is one change more to tell, or none. -/
theorem count_changed_set_le (b : Buffer) (text : String) (cursor : Cursor) :
    (b.set text cursor).news.count .changed ≤ b.news.count .changed + 1 := by
  simp only [Buffer.set, List.count_append]
  have hchanged : (if text = b.text then [] else [News.changed]).count .changed ≤ 1 := by
    split <;> decide
  have hmoved : (if cursor = b.cursor then [] else [News.moved]).count .changed = 0 := by
    split <;> rfl
  omega

/-- Setting the same text is none, wherever the cursor goes. -/
theorem count_changed_set_same (b : Buffer) (cursor : Cursor) :
    (b.set b.text cursor).news.count .changed = b.news.count .changed := by
  simp only [Buffer.set, if_true, List.append_nil, List.count_append]
  have hmoved : (if cursor = b.cursor then [] else [News.moved]).count .changed = 0 := by
    split <;> rfl
  omega

/-! ### Keys -/

/-- Putting a candidate in is the editor's own change. -/
theorem quiet_applyCandidate {e : Editor σ} (hnews : e.buffer.news = []) :
    Quiet e e.applyCandidate := by
  unfold applyCandidate
  split
  · exact .of_buffer rfl rfl hnews
  · refine ⟨by simp only [hidePopup, call], ?_⟩
    show (e.buffer.set _ _).news.count .changed ≤ 1
    have hset := count_changed_set_le e.buffer
    simp only [hnews, List.count_nil, Nat.zero_add] at hset
    exact hset _ _

/-- Putting a text from the history in is the editor's own change, too; moving the
cursor to its end is none. -/
theorem quiet_bringBack {e : Editor σ} (hnews : e.buffer.news = []) (text : String) :
    Quiet e (e.bringBack text) := by
  unfold bringBack
  split
  · exact .of_desk rfl hnews
  · refine ⟨rfl, ?_⟩
    let loaded := e.buffer.set text ⟨0, 0⟩
    have hload := count_changed_set_le e.buffer text ⟨0, 0⟩
    have hmove := count_changed_set_same loaded (Buffer.finish text)
    have hexcused : excused (({ e with justRecalled := true }.call (.load text)).call
        (.moveTo (Buffer.finish text))) = 1 := by
      simp [excused, call]
    rw [hexcused]
    show (loaded.set loaded.text (Buffer.finish text)).news.count .changed ≤ 1
    rw [hmove]
    rw [hnews] at hload
    exact hload

/-- **No key touches the timer.** -/
theorem quiet_press {e : Editor σ} (hnews : e.buffer.news = []) (key : String) :
    Quiet e (e.press key).1 := by
  obtain ⟨session, e', hpress, hturn⟩ := exists_keyTurn e key
  have hsession : Quiet { e with session } e' := by
    cases hturn with
    | same => exact .of_desk rfl hnews
    | moved hpopup by_ => exact .of_buffer rfl rfl hnews
    | applied hpopup => exact quiet_applyCandidate (e := { e with session }) hnews
    | hidden hpopup => exact .of_buffer rfl rfl hnews
    | broughtBack text => exact quiet_bringBack (e := { e with session }) hnews text
  rw [hpress]
  exact ⟨hsession.timer, hsession.changes⟩

/-! ### The news of the buffer -/

/-- A cursor that moves leaves the timer alone, and what the editor lets pass. -/
theorem hear_moved (e : Editor σ) :
    (e.hear .moved).timer = e.timer ∧ excused (e.hear .moved) = excused e := by
  simp only [hear, cursorMoved]
  split
  · exact ⟨rfl, rfl⟩
  · split
    · exact ⟨rfl, rfl⟩
    · exact ⟨rfl, rfl⟩

/-- A change that the editor lets pass leaves the timer alone, and is let pass once. -/
theorem hear_changed {e : Editor σ} (h : 1 ≤ excused e) :
    (e.hear .changed).timer = e.timer ∧ excused (e.hear .changed) + 1 = excused e := by
  unfold excused at h
  split at h
  · rename_i hown
    simp only [hear, textChanged, hown, if_true]
    exact ⟨rfl, by simp [excused, hown, hidePopup]⟩
  · omega

/-- News with no more changes than are let pass leave the timer alone. -/
theorem timer_foldl_hear {news : List News} {e : Editor σ}
    (h : news.count .changed ≤ excused e) : (news.foldl hear e).timer = e.timer := by
  induction news generalizing e with
  | nil => rfl
  | cons n news ih =>
      cases n with
      | changed =>
          rw [List.count_cons_self] at h
          obtain ⟨htimer, hexcused⟩ := hear_changed (e := e) (by omega)
          rw [List.foldl_cons, ih (by omega), htimer]
      | moved =>
          rw [List.count_cons_of_ne (by decide)] at h
          obtain ⟨htimer, hexcused⟩ := hear_moved e
          rw [List.foldl_cons, ih (by omega), htimer]

/-- What is quiet leaves the timer alone when the news are heard, too. -/
theorem Quiet.hearNews {e e' : Editor σ} (h : Quiet e e') : e'.hearNews.timer = e.timer := by
  let silent : Editor σ := { e' with buffer := { e'.buffer with news := [] } }
  have hheard : (e'.buffer.news.foldl hear silent).timer = e'.timer := by
    apply timer_foldl_hear
    show e'.buffer.news.count .changed ≤ excused e'
    exact h.changes
  exact hheard.trans h.timer

/-! ### All events -/

/-- **Which events are quiet**: all but typing, clearing a text, and the timer. -/
theorem quiet_handle (w : Services σ) {e : Editor σ} {event : Event} (hnews : e.buffer.news = [])
    (htypes : types e event = false) (hclear : event = .clear → e.buffer.text = "")
    (htimer : event ≠ .timer) : Quiet e (handle w e event).1 := by
  have hdesk := desk_handle w e event
  cases event with
  | edit text cursor =>
      have htext : text = e.buffer.text := by simpa [types] using htypes
      subst htext
      refine ⟨rfl, ?_⟩
      show (e.buffer.set e.buffer.text cursor).news.count .changed ≤ _
      rw [count_changed_set_same, hnews]
      exact Nat.zero_le _
  | news ofBuffer n =>
      cases ofBuffer with
      | false => exact .of_desk rfl hnews
      | true =>
          cases n with
          | changed => cases htypes
          | moved => exact .of_buffer (hear_moved e).1 (buffer_hear e .moved) hnews
  | timer => exact absurd rfl htimer
  | key key => exact quiet_press hnews key
  | clear =>
      have hset := count_changed_set_same e.buffer ⟨0, 0⟩
      rw [hclear rfl, hnews] at hset
      refine ⟨rfl, ?_⟩
      show (e.buffer.set "" ⟨0, 0⟩).news.count .changed ≤ _
      rw [hset]
      exact Nat.zero_le _
  | run =>
      have htimer : (handle w e .run).1.timer = e.timer := congrArg Desk.timer hdesk
      have hbuffer : (handle w e .run).1.buffer = e.buffer := congrArg Desk.buffer hdesk
      exact .of_buffer htimer hbuffer hnews
  -- All other events are about something else than the desk.
  | _ => exact .of_desk hdesk hnews

/-- **Which events leave the timer alone.** -/
theorem timer_step (w : Services σ) {e : Editor σ} {event : Event} (hnews : e.buffer.news = [])
    (htypes : types e event = false) (hclear : event = .clear → e.buffer.text = "")
    (htimer : event ≠ .timer) : (step w e event).1.timer = e.timer := by
  have hquiet : Quiet { e with shown := {} } (handle w { e with shown := {} } event).1 :=
    quiet_handle w hnews (by cases event <;> exact htypes) hclear htimer
  exact hquiet.hearNews

theorem showPopup_beside (e : Editor σ) (word : String) :
    (e.showPopup word).timer = e.timer ∧ (e.showPopup word).buffer = e.buffer := by
  simp only [showPopup]
  split
  · exact ⟨rfl, rfl⟩
  · exact ⟨rfl, rfl⟩

/-- A ring ends the timer and leaves the buffer alone. -/
theorem ringTimer_beside (e : Editor σ) :
    e.ringTimer.timer = false ∧ e.ringTimer.buffer = e.buffer := by
  simp only [ringTimer]
  split
  · exact showPopup_beside { e with timer := false } _
  · exact ⟨rfl, rfl⟩

theorem handle_timer_beside (w : Services σ) (e : Editor σ) :
    (handle w e .timer).1.timer = false ∧ (handle w e .timer).1.buffer = e.buffer := by
  simp only [handle]
  split
  · exact ringTimer_beside e
  · rename_i hoff
    exact ⟨by simpa using hoff, rfl⟩

/-- No timer is running when the timer has rung. -/
theorem timer_step_timer (w : Services σ) {e : Editor σ} (hnews : e.buffer.news = []) :
    (step w e .timer).1.timer = false := by
  obtain ⟨hoff, hbuffer⟩ := handle_timer_beside w { e with shown := {} }
  have hquiet : Quiet (handle w { e with shown := {} } .timer).1
      (handle w { e with shown := {} } .timer).1 :=
    .of_desk rfl (by rw [hbuffer]; exact hnews)
  exact hquiet.hearNews.trans hoff

/-! ## Where a running timer comes from -/

theorem news_step (w : Services σ) (e : Editor σ) (event : Event) :
    (step w e event).1.buffer.news = [] := by
  show (hearNews _).buffer.news = []
  rw [buffer_hearNews]

theorem news_after (w : Services σ) {e : Editor σ} (hnews : e.buffer.news = []) (es : List Event) :
    (after w e es).buffer.news = [] := by
  induction es using List.reverseRecOn with
  | nil => exact hnews
  | append_singleton es event ih =>
      rw [after_concat]
      exact news_step w _ event

/-- Whether the user types nothing while some events happen. -/
def untyped (w : Services σ) (e : Editor σ) : List Event → Bool
  | [] => true
  | event :: es => !types e event && untyped w (step w e event).1 es

theorem untyped_concat (w : Services σ) (e : Editor σ) (es : List Event) (event : Event) :
    untyped w e (es ++ [event]) = (untyped w e es && !types (after w e es) event) := by
  induction es generalizing e with
  | nil => simp [untyped]
  | cons d ds ih =>
      simp only [List.cons_append, untyped, ih, Bool.and_assoc]
      rfl

/-- A timer that is running after some events was running before them and has not
rung, or it was started since by clearing a text. -/
def Armed (w : Services σ) (e : Editor σ) (es : List Event) : Prop :=
  (e.timer = true ∧ .timer ∉ es) ∨
    ∃ cleared since, es = cleared ++ .clear :: since ∧
      (after w e cleared).buffer.text ≠ "" ∧ .timer ∉ since

section Runs

variable {w : Services σ} {e : Editor σ} {es : List Event}

/-- **Where a running timer comes from**, if the user has typed nothing. -/
theorem armed_of_timer (hnews : e.buffer.news = []) (huntyped : untyped w e es = true)
    (h : (after w e es).timer = true) : Armed w e es := by
  induction es using List.reverseRecOn with
  | nil => exact .inl ⟨h, List.not_mem_nil⟩
  | append_singleton es event ih =>
      rw [untyped_concat, Bool.and_eq_true, Bool.not_eq_true'] at huntyped
      obtain ⟨hbefore, htypes⟩ := huntyped
      rw [after_concat] at h
      have hnone := news_after w hnews es
      by_cases htimer : event = .timer
      · subst htimer
        rw [timer_step_timer w hnone] at h
        cases h
      by_cases hclear : event = .clear → (after w e es).buffer.text = ""
      · rw [timer_step w hnone htypes hclear htimer] at h
        rcases ih hbefore h with ⟨hrunning, hnot⟩ | ⟨cleared, since, rfl, htext, hnot⟩
        · refine .inl ⟨hrunning, ?_⟩
          simpa [List.mem_append, Ne.symm htimer] using hnot
        · refine .inr ⟨cleared, since ++ [event], by simp, htext, ?_⟩
          simpa [List.mem_append, Ne.symm htimer] using hnot
      · obtain ⟨rfl, htext⟩ := Classical.not_imp.mp hclear
        exact .inr ⟨es, [], rfl, htext, List.not_mem_nil⟩

theorem untyped_left {first rest : List Event} (h : untyped w e (first ++ rest) = true) :
    untyped w e first = true := by
  induction first generalizing e with
  | nil => rfl
  | cons d ds ih =>
      simp only [List.cons_append, untyped, Bool.and_eq_true] at h ⊢
      exact ⟨h.1, ih h.2⟩

end Runs

/-! ## Dismissals -/

/-- An event dismisses the popup. -/
inductive Dismisses (e : Editor σ) : Event → Prop where
  | accept {key : String} (hpopup : e.popup = true) (hfocus : e.focus = .buffer)
      (hkey : key ∈ acceptKeys) : Dismisses e (.key key)
  | escape (hpopup : e.popup = true) (hfocus : e.focus = .buffer) : Dismisses e (.key "escape")
  /-- A key brings a text back from the history. -/
  | bringBack {key text : String} (hfocus : e.focus = .buffer)
      (htext : (e.session.press key e.popup e.buffer.text).2 = .taken (some text)) :
      Dismisses e (.key key)
  | run : Dismisses e .run

/-- A key that the history takes finds the popup hidden. -/
theorem popup_of_taken {s : Session σ} {key text : String} {popup : Bool} {brought : Option String}
    (h : (s.press key popup text).2 = .taken brought) : popup = false := by
  cases popup with
  | false => rfl
  | true => cases h

/-- With the popup showing, a key is the popup's. -/
theorem press_of_popup {e : Editor σ} {key : String} (hpopup : e.popup = true)
    (hfocus : e.focus = .buffer) (h : key ∈ "escape" :: acceptKeys) :
    (e.press key).1.popup = false := by
  obtain ⟨session, hpress⟩ := press_of_popupKey hpopup hfocus key
  rcases List.mem_cons.mp h with rfl | hkey
  · have hescape : ({ e with session } : Editor σ).popupKey? "escape" =
        some ({ e with session } : Editor σ).hidePopup := by
      simp [popupKey?, hpopup]
    rw [hpress _ hescape]
    rfl
  · rw [hpress _ (popupKey?_accept hpopup hkey)]
    exact popup_applyCandidate _

/-- **A dismissal hides the popup and leaves the timer alone.** -/
theorem Dismisses.hides {e : Editor σ} {event : Event} (h : Dismisses e event) (w : Services σ)
    (hnews : e.buffer.news = []) :
    (step w e event).1.popup = false ∧ (step w e event).1.timer = e.timer := by
  have hheard : ∀ {e' : Editor σ}, e'.popup = false → e'.hearNews.popup = false :=
    (keeps_hearNews _).hidden
  cases h with
  | accept hpopup hfocus hkey =>
      refine ⟨?_, timer_step w hnews rfl nofun nofun⟩
      apply hheard
      exact press_of_popup (e := { e with shown := {} }) hpopup hfocus (List.mem_cons_of_mem _ hkey)
  | escape hpopup hfocus =>
      refine ⟨?_, timer_step w hnews rfl nofun nofun⟩
      apply hheard
      exact press_of_popup (e := { e with shown := {} }) hpopup hfocus (List.mem_cons_self ..)
  | @bringBack key text hfocus htext =>
      refine ⟨?_, timer_step w hnews rfl nofun nofun⟩
      have hkeeps : Keeps e (step w e (.key key)).1 := keeps_step w e nofun
      exact hkeeps.hidden (popup_of_taken htext)
  | run =>
      refine ⟨?_, timer_step w hnews rfl nofun nofun⟩
      apply hheard
      exact popup_submit w _

/-- **A dismissed popup stays hidden until a ring.**  Take any events of a new
editor, and then one that dismisses the popup.  The popup is hidden then, and the
timer is as it was before.

If the popup shows again after events among which the user types nothing, a
running timer has rung among them.  That timer was running when the popup was
dismissed and has not rung since, or it was started after the dismissal by
clearing a text. -/
theorem dismissed_until_ring (w : Services σ) (settings : Settings) (store : σ)
    (startup : Option String) (es : List Event) (event : Event)
    (h : Dismisses (after w (new settings store startup) es) event) :
    let e := after w (new settings store startup) es
    let e' := (step w e event).1
    e'.popup = false ∧ e'.timer = e.timer ∧
      ∀ since, untyped w e' since = true → (after w e' since).popup = true →
        ∃ first rest, since = first ++ .timer :: rest ∧
          (after w e' first).timer = true ∧ Armed w e' first := by
  intro e e'
  have hnews : e.buffer.news = [] := news_after w rfl es
  obtain ⟨hhidden, htimer⟩ := h.hides w hnews
  refine ⟨hhidden, htimer, fun since huntyped hshown => ?_⟩
  obtain ⟨first, rest, hlast, -⟩ := exists_lastRing hhidden hshown
  have hfirst : untyped w e' first = true := by
    rw [hlast.split] at huntyped
    exact untyped_left huntyped
  exact ⟨first, rest, hlast.split, hlast.rang,
    armed_of_timer (news_step w e event) hfirst hlast.rang⟩

/-- The popup is showing for a word, and the user types one letter more. -/
def typing : List Event := [.edit "SEL" ⟨0, 3⟩, .timer, .edit "SELE" ⟨0, 4⟩]

/-- Services of an editor without connections. -/
def noServices : Services Unit :=
  { archive := none, sources := {}, execute := fun _ _ => .success { columns := [], rows := [] } }

/-- The popup is escaped while the timer for the last letter is running, and the timer
that shows it again is that one. -/
theorem dismissed_until_ring_escaped :
    let e := after noServices (new {} () none) typing
    let e' := (step noServices e (.key "escape")).1
    Dismisses e (.key "escape") ∧ e'.popup = false ∧ e'.timer = e.timer ∧ e.timer = true ∧
      untyped noServices e' [.timer] = true ∧ (after noServices e' [.timer]).popup = true ∧
      ∃ first rest, [.timer] = first ++ .timer :: rest ∧
        (after noServices e' first).timer = true ∧ Armed noServices e' first := by
  intro e e'
  have hescape : Dismisses e (.key "escape") := .escape (by decide +kernel) (by decide +kernel)
  have huntyped : untyped noServices e' [.timer] = true := by decide +kernel
  have hshown : (after noServices e' [.timer]).popup = true := by decide +kernel
  obtain ⟨hhidden, htimer, hring⟩ := dismissed_until_ring noServices {} () none typing _ hescape
  exact ⟨hescape, hhidden, htimer, by decide +kernel, huntyped, hshown,
    hring [.timer] huntyped hshown⟩

/-- **A timer from before the dismissal shows the popup again**, though the user has
typed nothing since. -/
theorem pending_timer_reopens :
    let e := after noServices (new {} () none) typing
    let e' := (step noServices e (.key "escape")).1
    Dismisses e (.key "escape") ∧ e'.popup = false ∧ untyped noServices e' [.timer] = true ∧
      (after noServices e' [.timer]).popup = true := by
  intro e e'
  exact ⟨.escape (by decide +kernel) (by decide +kernel), by decide +kernel, by decide +kernel,
    by decide +kernel⟩

end QueryDesk.Editor
