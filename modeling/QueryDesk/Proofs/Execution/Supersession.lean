import QueryDesk.Proofs.Execution.Messages
import QueryDesk.Proofs.Execution.Recording

/-!
# Superseded runs

A run is superseded once a later one is accepted.  It goes on, and the one who
waits for it is told how it ended; but nothing that can be seen of the
coordinator depends on that end.  The theorem below says so of whole runs of
events: delete every settlement of a superseded run, and at each event that
remains all is as it was.

The two runs of events are compared along a relation that forgets the accounts
of superseded runs: two ledgers have the `SameLatest` run, and the coordinators
the same front.  A settlement of a superseded run changes neither on its own
side, and every other event changes both sides alike, since its move depends on
the latest account only.

Listeners come and go on both sides alike: they are part of the front, and one
that ends a subscription of its own when it is told something does so in the
transition that tells it.

## Main results

* `views_remaining` — the deletion is invisible from any two related states.
* `superseded_settlements_unseen` — the deletion is invisible from the start;
  a superseded run is told its own outcome; a rejected run supersedes nothing.
-/

namespace QueryDesk.Execution

open Coordinator

variable {σ : Type}

/-! ## Deleting settlements -/

/-- The run that an event settles or cancels. -/
def Event.settles? : Event → Option Nat
  | .settle run _ | .cancel run => some run
  | _ => none

namespace Ledger

/-- Whether a run was accepted and a later one too. -/
def superseded (l : Ledger) (run : Nat) : Bool := 0 < run && run < l.length

/-- Whether an event settles a run that is superseded by then. -/
def unseen (l : Ledger) (e : Event) : Bool := e.settles?.any l.superseded

/-- A superseded run is not the latest. -/
theorem lt_of_unseen {l : Ledger} {e : Event} {run : Nat} (he : l.unseen e = true)
    (hrun : e.settles? = some run) : run < l.length := by
  simp only [unseen, hrun, Option.any_some, superseded, Bool.and_eq_true,
    decide_eq_true_eq] at he
  exact he.2

/-- For each event after those of a ledger, whether it remains when the
settlements of superseded runs are deleted. -/
def kept : Ledger → List Event → List Bool
  | _, [] => []
  | l, e :: es => (!l.unseen e) :: kept (l.enter e) es

end Ledger

/-- The elements of a list that are marked to remain. -/
def remaining {α : Type} : List Bool → List α → List α
  | true :: marks, x :: xs => x :: remaining marks xs
  | false :: marks, _ :: xs => remaining marks xs
  | _, _ => []

/-! ## Views -/

/-- What can be seen after an event. -/
structure View (σ : Type) where
  state : State
  result : Option Result
  error : Option String
  ring : Option History.Ring
  store : σ
  /-- Everything that the listeners were told so far. -/
  told : List (String × State)

/-- The view of a coordinator whose listeners were told something. -/
def Coordinator.view (c : Coordinator σ) (told : List (String × State)) : View σ :=
  { state := c.state, result := c.result, error := c.error, ring := c.ring, store := c.store,
    told }

/-- The views along a trace, `told` being what the listeners were told before it. -/
def views (told : List (String × State)) : List (Coordinator σ × Report) → List (View σ)
  | [] => []
  | r :: rs => r.1.view (told ++ r.2.notices) :: views (told ++ r.2.notices) rs

theorem view_eq_of_front {c c' : Coordinator σ} (h : c.front = c'.front)
    (told : List (String × State)) : c.view told = c'.view told := by
  show c.front.view told = c'.front.view told
  rw [h]

/-! ## Ledgers with the same latest run -/

/-- The two ledgers have as many accounts, and the latest is the same. -/
structure SameLatest (l l' : Ledger) : Prop where
  length : l.length = l'.length
  latest : l.account? l.length = l'.account? l'.length

namespace SameLatest

variable {l l' : Ledger}

theorem refl (l : Ledger) : SameLatest l l := ⟨rfl, rfl⟩

/-- The latest account with some property is the same. -/
theorem filter (h : SameLatest l l') (p : Account → Bool) (run : Nat) :
    (if run = l.length then (l.account? run).filter p else none) =
      if run = l'.length then (l'.account? run).filter p else none := by
  by_cases hrun : run = l.length
  · have hlatest : l.account? run = l'.account? run := by
      have := h.latest
      rwa [← h.length, ← hrun] at this
    rw [if_pos hrun, if_pos (hrun.trans h.length), hlatest]
  · rw [if_neg hrun, if_neg fun h' => hrun (h'.trans h.length.symm)]

/-- The move of an event depends on the latest run only. -/
theorem move? (h : SameLatest l l') (e : Event) : l.move? e = l'.move? e := by
  cases e with
  | settle run outcome =>
      have hworked : l.worked? run = l'.worked? run := h.filter _ run
      cases outcome <;> simp only [Ledger.move?, hworked]
  | cancel run =>
      have hawaited : l.awaited? run = l'.awaited? run := h.filter _ run
      simp only [Ledger.move?, hawaited]
  | _ => rfl

theorem amend (h : SameLatest l l') (f : Account → Account) (run : Nat) :
    SameLatest (l.amend f run) (l'.amend f run) := by
  have hlatest := h.latest
  rw [h.length] at hlatest
  refine ⟨by rw [Ledger.length_amend, Ledger.length_amend, h.length], ?_⟩
  simp only [Ledger.length_amend, Ledger.account?_amend, h.length, hlatest]

theorem enter (h : SameLatest l l') (e : Event) : SameLatest (l.enter e) (l'.enter e) := by
  cases e with
  | submit connection sql =>
      simp only [Ledger.enter]
      cases opened? connection sql with
      | none => simpa using h
      | some a => exact ⟨by simp [h.length], by simp [Ledger.account?_append]⟩
  | start run queued => exact h.amend _ run
  | call run => exact h.amend _ run
  | settle run outcome => exact h.amend _ run
  | cancel run => exact h.amend _ run
  | reset => exact h
  | subscribe listener => exact h
  | unsubscribe name => exact h

/-- Changing the account of an earlier run keeps the latest. -/
theorem amend_left (h : SameLatest l l') (f : Account → Account) {run : Nat}
    (hrun : run < l.length) : SameLatest (l.amend f run) l' := by
  refine ⟨by rw [Ledger.length_amend, h.length], ?_⟩
  rw [Ledger.length_amend, Ledger.account?_amend, if_neg (by omega), h.latest]

/-- The settlement of a superseded run keeps the latest. -/
theorem enter_unseen (h : SameLatest l l') {e : Event} (he : l.unseen e = true) :
    SameLatest (l.enter e) l' := by
  cases e with
  | settle run outcome => exact h.amend_left _ (Ledger.lt_of_unseen he rfl)
  | cancel run => exact h.amend_left _ (Ledger.lt_of_unseen he rfl)
  | _ => simp [Ledger.unseen, Event.settles?] at he

end SameLatest

/-- The settlement of a superseded run is no move. -/
theorem Ledger.move?_of_unseen {l : Ledger} {e : Event} (he : l.unseen e = true) :
    l.move? e = none := by
  cases e with
  | settle run outcome =>
      have hrun : run ≠ l.length := Nat.ne_of_lt (lt_of_unseen he rfl)
      have hworked : l.worked? run = none := by simp [worked?, hrun]
      cases outcome <;> simp only [move?, hworked, Option.map_none]
  | cancel run =>
      have hrun : run ≠ l.length := Nat.ne_of_lt (lt_of_unseen he rfl)
      have hawaited : l.awaited? run = none := by simp [awaited?, hrun]
      simp only [move?, hawaited, Option.map_none]
  | _ => simp [unseen, Event.settles?] at he

/-! ## The deletion is invisible -/

/-- **Deleting the settlements of superseded runs changes no view that remains.**
The two sides start from coordinators with the same front, whose ledgers have
the same latest run. -/
theorem views_remaining (archive : Option (Archive σ)) :
    ∀ (es : List Event) (c c' : Coordinator σ) (l l' : Ledger) (told : List (String × State)),
      Follows c l → Follows c' l' → c.front = c'.front → SameLatest l l' →
      views told (trace archive c' (remaining (l.kept es) es)) =
        remaining (l.kept es) (views told (trace archive c es)) := by
  intro es
  induction es with
  | nil => intro c c' l l' told _ _ _ _; rfl
  | cons e es ih =>
      intro c c' l l' told hc hc' hfront hlatest
      have hstep := hc.step_eq archive e
      by_cases he : l.unseen e = true
      · rw [Ledger.move?_of_unseen he] at hstep
        obtain ⟨hstill, hsilent⟩ := Prod.mk.inj hstep
        have hnext := ih (Coordinator.step archive c e).1 c' (l.enter e) l' told
          (hc.step archive e) hc' (hstill.trans hfront) (hlatest.enter_unseen he)
        simpa [Ledger.kept, he, remaining, trace, views, hsilent, act] using hnext
      · have hstep' := hc'.step_eq archive e
        rw [← hfront, ← hlatest.move? e, ← hstep] at hstep'
        obtain ⟨hfront', hnotices⟩ := Prod.mk.inj hstep'
        have hnext := ih (Coordinator.step archive c e).1 (Coordinator.step archive c' e).1
          (l.enter e) (l'.enter e) (told ++ (Coordinator.step archive c e).2.notices)
          (hc.step archive e) (hc'.step archive e) hfront'.symm (hlatest.enter e)
        simp only [Ledger.kept, he, remaining, trace, views, Bool.not_false, hnotices]
        rw [view_eq_of_front hfront', hnext]

/-! ## What a superseded run is told -/

/-- The executor's answer as a superseded run is told it. -/
theorem reply_of_superseded {c : Coordinator σ} {l : Ledger} (h : Follows c l)
    (archive : Option (Archive σ)) {run : Nat} {a : Account} (ha : l.account? run = some a)
    (hw : a.atWork = true) (hrun : run < l.length) (outcome : Outcome) :
    (Coordinator.step archive c (.settle run outcome)).2.reply =
      match outcome with
      | .success result => .answered result
      | .failure f => .raised f.asExecution f.cause? := by
  have hne : run ≠ l.length := Nat.ne_of_lt hrun
  simp only [Coordinator.step, h.settle_eq, ha, Option.filter_some, hw, if_true]
  cases outcome with
  | success result => simp only [answer, succeed, h.latest, ne_eq, hne, not_false_eq_true, if_true]
  | failure f => simp only [answer, fail, h.latest, ne_eq, hne, not_false_eq_true, if_true]

theorem reply_of_cancel {c : Coordinator σ} {l : Ledger} (h : Follows c l)
    (archive : Option (Archive σ)) {run : Nat} {a : Account} (ha : l.account? run = some a)
    (hw : a.waits = true) :
    (Coordinator.step archive c (.cancel run)).2.reply = .cancelled := by
  obtain ⟨-, hopen⟩ := Bool.and_eq_true_iff.mp hw
  simp only [Coordinator.step, h.cancel_eq, ha, Option.filter_some, hopen, if_true]
  split <;> rfl

/-- A request without a connection leaves the coordinator and the ledger alone. -/
theorem step_of_rejected (archive : Option (Archive σ)) (c : Coordinator σ) (l : Ledger)
    {connection : Option String} (h : connection = none ∨ connection = some "") (sql : String) :
    (Coordinator.step archive c (.submit connection sql)).1 = c ∧
      (Coordinator.step archive c (.submit connection sql)).2.reply = .rejected ∧
      (Coordinator.step archive c (.submit connection sql)).2.notices = [] ∧
      l.enter (.submit connection sql) = l := by
  rcases h with rfl | rfl
  · exact ⟨rfl, rfl, rfl, List.append_nil l⟩
  · exact ⟨rfl, rfl, rfl, List.append_nil l⟩

/-- **Superseded settlements are unseen.**  Take any events from a coordinator to
which nothing has happened, over any archive, whose calls are kept in the store.
Deleting every settlement of a run that is superseded by then leaves, at each
event that remains, the state, the result, the error, the ring, the store with
the calls made to it and all that the listeners were told.  A superseded run
that the executor is at work for is told its own outcome, and one that waits for
the executor is told when it is cancelled.  A run that is rejected changes
nothing, and no run is superseded by it. -/
theorem superseded_settlements_unseen (archive : Option (Archive σ))
    (ring : Option History.Ring) (store : σ) (es : List Event) :
    let archive := archive.map Archive.recording
    let start := Coordinator.fresh ring (store, [])
    let l := Ledger.ofEvents es
    let c := Coordinator.after archive start es
    views [] (trace archive start (remaining (Ledger.kept [] es) es)) =
        remaining (Ledger.kept [] es) (views [] (trace archive start es)) ∧
      (∀ run a, l.account? run = some a → a.atWork = true → l.superseded run = true →
        (∀ result,
          (Coordinator.step archive c (.settle run (.success result))).2.reply =
            .answered result) ∧
        (∀ f, ∃ e,
          (Coordinator.step archive c (.settle run (.failure f))).2.reply =
            .raised e f.cause? ∧
          e.kind = .execution ∧
          e.text = if f.kind = .execution then f.text else executionMessage (some f.text))) ∧
      (∀ run a, l.account? run = some a → a.waits = true → l.superseded run = true →
        (Coordinator.step archive c (.cancel run)).2.reply = .cancelled) ∧
      (∀ connection sql, connection = none ∨ connection = some "" →
        (Coordinator.step archive c (.submit connection sql)).1 = c ∧
        (Coordinator.step archive c (.submit connection sql)).2.reply = .rejected ∧
        (Coordinator.step archive c (.submit connection sql)).2.notices = [] ∧
        l.enter (.submit connection sql) = l) := by
  intro archive start l c
  have hfollows : Follows c l := Follows.after archive ring (store, []) es
  refine ⟨?_, ?_, ?_, ?_⟩
  · exact views_remaining archive es start start [] [] [] (Follows.fresh ring (store, []))
      (Follows.fresh ring (store, [])) rfl (SameLatest.refl [])
  · intro run a ha hw hsuperseded
    have hrun : run < l.length := by
      simp only [Ledger.superseded, Bool.and_eq_true, decide_eq_true_eq] at hsuperseded
      exact hsuperseded.2
    refine ⟨fun result => ?_, fun f => ⟨f.asExecution, ?_, ?_, ?_⟩⟩
    · exact reply_of_superseded hfollows archive ha hw hrun (.success result)
    · exact reply_of_superseded hfollows archive ha hw hrun (.failure f)
    · exact f.kind_asExecution
    · exact f.text_asExecution
  · intro run a ha hw _
    exact reply_of_cancel hfollows archive ha hw
  · intro connection sql hconnection
    exact step_of_rejected archive c l hconnection sql

/-- Two runs are under way and the first of them is superseded: its awaiter is
told what the executor answers. -/
theorem superseded_settlements_unseen_overlapping :
    let es : List Event :=
      [.submit (some "db") "SELECT 1", .start 1, .submit (some "db") "SELECT 2", .start 2]
    let c := Coordinator.after (none : Option (Archive (Unit × List (String × String))))
      (Coordinator.fresh none ((), [])) es
    (Ledger.ofEvents es).superseded 1 = true ∧
      (Coordinator.step none c (.settle 1 (.success ⟨["n"], [], false, none⟩))).2.reply =
        .answered ⟨["n"], [], false, none⟩ :=
  ⟨rfl, ((superseded_settlements_unseen none none ()
    [.submit (some "db") "SELECT 1", .start 1, .submit (some "db") "SELECT 2", .start 2]).2.1 1
      ⟨"db", "SELECT 1", .called, false, none⟩ rfl rfl rfl).1 _⟩

end QueryDesk.Execution
