import Mathlib.Data.List.Induction
import Mathlib.Data.List.Nodup
import QueryDesk.Proofs.Execution.Ledger

/-!
# The moves of a coordinator

A coordinator has its table of runs and, in front of it, all that can be seen:
the state, the result, the error, the ring, the store and the listeners.  This
module says once what an event can do to that front.  There are seven moves, and
the ledger decides which one an event amounts to, if any; in particular the
settlement of a run is a move only if the executor is at work for the run and it
is the latest one.  Every theorem on the front is a case analysis over the moves, and
none of them opens `Coordinator.step` again.

## Main results

* `Follows.step_eq` — an event acts on the front as its move does.
* `Follows.after` — the table follows the ledger along every run of events.
-/

namespace QueryDesk.Execution

/-- A change of what can be seen of a coordinator. -/
inductive Move where
  /-- A run becomes the latest. -/
  | accept
  /-- The latest run succeeds. -/
  | succeed (account : Account) (result : Result)
  /-- The latest run fails. -/
  | fail (failure : Failure)
  /-- The latest run is cancelled while it waits for the executor. -/
  | cancel
  | reset
  | subscribe (listener : Listener)
  | unsubscribe (name : String)

namespace Ledger

/-- The account of a run that is the latest and waits for the executor. -/
def awaited? (l : Ledger) (run : Nat) : Option Account :=
  if run = l.length then (l.account? run).filter Account.waits else none

/-- The account of a run that is the latest and that the executor is at work for. -/
def worked? (l : Ledger) (run : Nat) : Option Account :=
  if run = l.length then (l.account? run).filter Account.atWork else none

/-- The move that an event amounts to. -/
def move? (l : Ledger) : Event → Option Move
  | .submit connection sql => (opened? connection sql).map fun _ => .accept
  | .start _ _ | .call _ => none
  | .settle run (.success result) => (l.worked? run).map (.succeed · result)
  | .settle run (.failure f) => (l.worked? run).map fun _ => .fail f
  | .cancel run => (l.awaited? run).map fun _ => .cancel
  | .reset => some .reset
  | .subscribe listener => some (.subscribe listener)
  | .unsubscribe name => some (.unsubscribe name)

theorem awaited?_eq_some {l : Ledger} {run : Nat} {a : Account} :
    l.awaited? run = some a ↔
      run = l.length ∧ l.account? run = some a ∧ a.waits = true := by
  unfold awaited?
  by_cases hrun : run = l.length
  · simp [hrun, Option.filter_eq_some_iff]
  · simp [hrun]

theorem worked?_eq_some {l : Ledger} {run : Nat} {a : Account} :
    l.worked? run = some a ↔
      run = l.length ∧ l.account? run = some a ∧ a.atWork = true := by
  unfold worked?
  by_cases hrun : run = l.length
  · simp [hrun, Option.filter_eq_some_iff]
  · simp [hrun]

theorem awaited?_of_worked {l : Ledger} {run : Nat} {a : Account} (h : l.worked? run = some a) :
    l.awaited? run = some a := by
  obtain ⟨hrun, ha, hw⟩ := worked?_eq_some.mp h
  exact awaited?_eq_some.mpr ⟨hrun, ha, Account.waits_of_atWork hw⟩

/-- The events that amount to a move. -/
theorem move?_eq_some {l : Ledger} {e : Event} {m : Move} (h : l.move? e = some m) :
    match m with
    | .accept => ∃ connection sql a, e = .submit connection sql ∧ opened? connection sql = some a
    | .succeed a result => ∃ run, e = .settle run (.success result) ∧ l.worked? run = some a
    | .fail f => ∃ run a, e = .settle run (.failure f) ∧ l.worked? run = some a
    | .cancel => ∃ run a, e = .cancel run ∧ l.awaited? run = some a
    | .reset => e = .reset
    | .subscribe listener => e = .subscribe listener
    | .unsubscribe name => e = .unsubscribe name := by
  cases e with
  | submit connection sql =>
      obtain ⟨a, ha, rfl⟩ := Option.map_eq_some_iff.mp h
      exact ⟨connection, sql, a, rfl, ha⟩
  | start run queued => cases h
  | call run => cases h
  | settle run outcome =>
      cases outcome with
      | success result =>
          obtain ⟨a, ha, rfl⟩ := Option.map_eq_some_iff.mp h
          exact ⟨run, rfl, ha⟩
      | failure f =>
          obtain ⟨a, ha, rfl⟩ := Option.map_eq_some_iff.mp h
          exact ⟨run, a, rfl, ha⟩
  | cancel run =>
      obtain ⟨a, ha, rfl⟩ := Option.map_eq_some_iff.mp h
      exact ⟨run, a, rfl, ha⟩
  | reset =>
      cases h
      rfl
  | subscribe listener =>
      cases h
      rfl
  | unsubscribe name =>
      cases h
      rfl

end Ledger

namespace Coordinator

variable {σ : Type}

/-- A coordinator without its table: all that can be seen of it. -/
def front (c : Coordinator σ) : Coordinator σ := { c with latest := 0, runs := [] }

/-- What a move does to a coordinator, and whom it tells what. -/
def act (archive : Option (Archive σ)) (c : Coordinator σ) :
    Option Move → Coordinator σ × List (String × State)
  | none => (c, [])
  | some .accept => { c with error := none }.transition .pending
  | some (.succeed a result) =>
    let r := { c with result := some result }.transition .succeeded
    ({ r.1 with ring := c.ring.map fun r => (r.submit a.sql).1
                store := archived archive c.store a.connection a.sql }, r.2)
  | some (.fail f) =>
    { c with result := none, error := some f.asExecution.text }.transition .failed
  | some .cancel => c.transition .idle
  | some .reset =>
    if c.state = .succeeded ∨ c.state = .failed then c.transition .idle else (c, [])
  | some (.subscribe listener) => (c.subscribe listener, [])
  | some (.unsubscribe name) => (c.unsubscribe name, [])

end Coordinator

namespace Follows

open Coordinator

variable {σ : Type} {c : Coordinator σ} {l : Ledger}

/-- The answer of the executor moves the front only for the latest run. -/
theorem answer_eq (h : Follows c l) (archive : Option (Archive σ)) {run : Nat} {a : Account}
    (ha : l.account? run = some a) (hw : a.atWork = true) (outcome : Outcome)
    (table : OrderedMap Nat Run) :
    let r := answer archive { c with runs := table } run ⟨a.connection, a.sql, .called⟩ outcome
    (r.1.front, r.2.notices) = act archive c.front (l.move? (.settle run outcome)) := by
  by_cases hrun : run = l.length
  · have hworked : l.worked? run = some a := Ledger.worked?_eq_some.mpr ⟨hrun, ha, hw⟩
    cases outcome with
    | success result =>
        simp only [answer, succeed, h.latest, hrun, ne_eq, not_true_eq_false, if_false,
          Ledger.move?, record_fst]
        rw [← hrun, hworked]
        rfl
    | failure f =>
        simp only [answer, fail, h.latest, hrun, ne_eq, not_true_eq_false, if_false,
          Ledger.move?]
        rw [← hrun, hworked]
        rfl
  · have hworked : l.worked? run = none := by simp [Ledger.worked?, hrun]
    cases outcome with
    | success result =>
        simp only [answer, succeed, h.latest, ne_eq, hrun, not_false_eq_true, if_true,
          Ledger.move?, hworked]
        rfl
    | failure f =>
        simp only [answer, fail, h.latest, ne_eq, hrun, not_false_eq_true, if_true,
          Ledger.move?, hworked]
        rfl

/-- A cancellation moves the front only for the latest run, if it waits. -/
theorem cancel_acts (h : Follows c l) (archive : Option (Archive σ)) (run : Nat) :
    ((c.cancel run).1.front, (c.cancel run).2.notices) =
      act archive c.front (l.move? (.cancel run)) := by
  simp only [h.cancel_eq, Ledger.move?]
  cases hopen : (l.account? run).filter Account.isOpen with
  | none =>
      have hawaited : l.awaited? run = none := by
        rw [Option.eq_none_iff_forall_ne_some]
        intro a ha
        obtain ⟨-, ha, hw⟩ := Ledger.awaited?_eq_some.mp ha
        exact Option.filter_eq_none_iff.mp hopen a ha (Bool.and_eq_true_iff.mp hw).2
      simp only [hawaited]
      rfl
  | some a =>
      obtain ⟨ha, -⟩ := Option.filter_eq_some_iff.mp hopen
      by_cases hlatest : a.waits = true ∧ run = l.length
      · have hawaited : l.awaited? run = some a :=
          Ledger.awaited?_eq_some.mpr ⟨hlatest.2, ha, hlatest.1⟩
        simp only [if_pos hlatest, hawaited]
        rfl
      · have hawaited : l.awaited? run = none := by
          rw [Option.eq_none_iff_forall_ne_some]
          intro b hb
          obtain ⟨hrun, hb, hw⟩ := Ledger.awaited?_eq_some.mp hb
          obtain rfl : a = b := Option.some.inj (ha.symm.trans hb)
          exact hlatest ⟨hw, hrun⟩
        simp only [if_neg hlatest, hawaited]
        rfl

theorem reset_acts (archive : Option (Archive σ)) (c : Coordinator σ) :
    (c.reset.1.front, c.reset.2.notices) = act archive c.front (some .reset) := by
  by_cases hsettled : c.state = .succeeded ∨ c.state = .failed
  · have hfront : c.front.state = .succeeded ∨ c.front.state = .failed := hsettled
    have hbool : (c.state = .succeeded || c.state = .failed) = true := by simpa using hsettled
    simp only [Coordinator.reset, act, if_pos hbool, if_pos hfront]
    rfl
  · have hfront : ¬ (c.front.state = .succeeded ∨ c.front.state = .failed) := hsettled
    have hbool : ¬ (c.state = .succeeded || c.state = .failed) = true := by simpa using hsettled
    simp only [Coordinator.reset, act, if_neg hbool, if_neg hfront]

/-- **An event acts on the front as its move does**, and tells the listeners the
same. -/
theorem step_eq (h : Follows c l) (archive : Option (Archive σ)) (e : Event) :
    ((Coordinator.step archive c e).1.front, (Coordinator.step archive c e).2.notices) =
      act archive c.front (l.move? e) := by
  cases e with
  | submit connection sql =>
      simp only [Coordinator.step, submit_eq, Ledger.move?]
      cases opened? connection sql with
      | none => rfl
      | some a => rfl
  | start run queued =>
      simp only [Coordinator.step, h.start_eq, Ledger.move?]
      cases (l.account? run).filter fun a => a.isOpen && !a.started with
      | none => rfl
      | some a => cases queued <;> rfl
  | call run =>
      simp only [Coordinator.step, h.call_eq, Ledger.move?]
      cases (l.account? run).filter Account.isQueued <;> rfl
  | settle run outcome =>
      simp only [Coordinator.step, h.settle_eq]
      cases hwork : (l.account? run).filter Account.atWork with
      | none =>
          have hworked : l.worked? run = none := by simp [Ledger.worked?, hwork]
          cases outcome with
          | success result => simp only [Ledger.move?, hworked]; rfl
          | failure f => simp only [Ledger.move?, hworked]; rfl
      | some a =>
          obtain ⟨ha, hw⟩ := Option.filter_eq_some_iff.mp hwork
          exact h.answer_eq archive ha hw outcome _
  | cancel run => exact h.cancel_acts archive run
  | reset => exact reset_acts archive c
  | subscribe listener => rfl
  | unsubscribe name => rfl

theorem front_step (h : Follows c l) (archive : Option (Archive σ)) (e : Event) :
    (Coordinator.step archive c e).1.front = (act archive c.front (l.move? e)).1 :=
  congrArg Prod.fst (h.step_eq archive e)

end Follows

/-! ## Runs of events -/

namespace Coordinator

variable {σ : Type} (archive : Option (Archive σ)) (c : Coordinator σ)

@[simp] theorem after_concat (es : List Event) (e : Event) :
    after archive c (es ++ [e]) = (step archive (after archive c es) e).1 := by
  simp [after]

@[simp] theorem trace_concat (es : List Event) (e : Event) :
    trace archive c (es ++ [e]) = trace archive c es ++ [step archive (after archive c es) e] := by
  induction es generalizing c with
  | nil => rfl
  | cons d ds ih =>
      simp only [List.cons_append, trace]
      rw [ih]
      rfl

end Coordinator

/-- **The table follows the ledger along every run of events.** -/
theorem Follows.after {σ : Type} (archive : Option (Archive σ)) (ring : Option History.Ring)
    (store : σ) (es : List Event) :
    Follows (Coordinator.after archive (.fresh ring store) es) (Ledger.ofEvents es) := by
  induction es using List.reverseRecOn with
  | nil => exact Follows.fresh ring store
  | append_singleton es e ih =>
      rw [Coordinator.after_concat, Ledger.ofEvents_concat]
      exact ih.step archive e

end QueryDesk.Execution
