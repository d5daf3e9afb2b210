import QueryDesk.Proofs.Execution.Decisions
import QueryDesk.Proofs.Execution.Messages

/-!
# What the four fields say

The state, the result, the error and the number of the latest run are written
by different events, and between two of them any number of other runs may come
and go.  What links the fields is how the latest run stands: whether it has
settled, and how.  `Standing` is that link; every move keeps it, because a move
of a run is one of the latest and the ledger is written by the same events.

Leaving a settled state, by a reset or a cancellation, clears neither the result
nor the error.  That is why both are linked to the decisions and not to the
state alone.

## Main results

* `Ledger.standing?_enter` — how an event changes the standing of the latest run.
* `Standing.step` — the link is kept by every event.
* `fields_follow_latest_run` — what each state says about the result and the
  error, after any events.
-/

namespace QueryDesk.Execution

open Coordinator

variable {σ : Type}

/-- An event brings no failure but a well-made one. -/
def Event.WellMade : Event → Prop
  | .settle _ (.failure f) => f.WellMade
  | _ => True

/-! ## How the latest run stands -/

namespace Ledger

/-- The settlement of the latest run, if there is a run and if it has settled. -/
def standing? (l : Ledger) : Option (Option Settlement) :=
  (l.account? l.length).map Account.settlement

/-- The latest run stands as before if the change of an account concerns another
run, or leaves the settlement. -/
theorem standing?_amend {l : Ledger} {f : Account → Account} {run : Nat}
    (hf : run = l.length → ∀ a, l.account? run = some a → (f a).settlement = a.settlement) :
    (l.amend f run).standing? = l.standing? := by
  unfold standing?
  rw [length_amend, account?_amend]
  by_cases hrun : l.length = run
  · rw [if_pos hrun]
    cases ha : l.account? l.length with
    | none => rfl
    | some a => exact congrArg some (hf hrun.symm a (hrun ▸ ha))
  · rw [if_neg hrun]

/-- The latest run, when it waits for the executor, stands as it is changed. -/
theorem standing?_amend_of_awaited {l : Ledger} {f : Account → Account} {run : Nat} {a : Account}
    (h : l.awaited? run = some a) : (l.amend f run).standing? = some (f a).settlement := by
  obtain ⟨hrun, ha, -⟩ := awaited?_eq_some.mp h
  unfold standing?
  rw [length_amend, account?_amend, if_pos hrun.symm, ← hrun, ha]
  rfl

theorem standing?_of_awaited {l : Ledger} {run : Nat} {a : Account}
    (h : l.awaited? run = some a) : l.standing? = some none := by
  obtain ⟨hrun, ha, hw⟩ := awaited?_eq_some.mp h
  unfold standing?
  rw [← hrun, ha, Option.map_some, Account.settlement_of_waits hw]

/-- A run that is not both the latest and waiting has no settlement to come. -/
theorem not_waits_of_awaited? {l : Ledger} {run : Nat} {a : Account}
    (h : l.awaited? run = none) (hrun : run = l.length) (ha : l.account? run = some a) :
    ¬ a.waits = true := by
  intro hw
  have hawaited := awaited?_eq_some.mpr ⟨hrun, ha, hw⟩
  rw [h] at hawaited
  cases hawaited

/-- A run that is not both the latest and worked for is not answered. -/
theorem not_atWork_of_worked? {l : Ledger} {run : Nat} {a : Account}
    (h : l.worked? run = none) (hrun : run = l.length) (ha : l.account? run = some a) :
    ¬ a.atWork = true := by
  intro hw
  have hworked := worked?_eq_some.mpr ⟨hrun, ha, hw⟩
  rw [h] at hworked
  cases hworked

/-- **How an event changes the standing of the latest run**: as its move says. -/
theorem standing?_enter (l : Ledger) (e : Event) :
    (l.enter e).standing? =
      match l.move? e with
      | some .accept => some none
      | some (.succeed _ result) => some (some (.succeeded result))
      | some (.fail f) => some (some (.failed f))
      | some .cancel => some (some .cancelled)
      | _ => l.standing? := by
  cases e with
  | submit connection sql =>
      simp only [enter, move?]
      cases hopened : opened? connection sql with
      | none => simp
      | some a =>
          obtain ⟨-, -, ha⟩ := opened?_eq_some hopened
          simp only [standing?, Option.toList_some, account?_append, List.length_append,
            List.length_singleton, if_true, Option.map_some]
          rw [ha]
  | start run queued =>
      refine standing?_amend fun _ a _ => ?_
      unfold Account.start
      split <;> rfl
  | call run =>
      refine standing?_amend fun _ a _ => ?_
      unfold Account.call
      split <;> rfl
  | settle run outcome =>
      cases hworked : l.worked? run with
      | some a =>
          have hw : a.atWork = true := (worked?_eq_some.mp hworked).2.2
          have hstanding : (l.enter (.settle run outcome)).standing? =
              some (some outcome.settlement) := by
            rw [enter, standing?_amend_of_awaited (awaited?_of_worked hworked), Account.settle,
              if_pos hw]
          rw [hstanding]
          cases outcome <;> simp only [move?, hworked, Option.map_some, Outcome.settlement]
      | none =>
          have hstanding : (l.enter (.settle run outcome)).standing? = l.standing? := by
            refine standing?_amend fun hrun a ha => ?_
            rw [Account.settle, if_neg (not_atWork_of_worked? hworked hrun ha)]
          rw [hstanding]
          cases outcome <;> simp only [move?, hworked, Option.map_none]
  | cancel run =>
      cases hawaited : l.awaited? run with
      | some a =>
          have hw : a.waits = true := (awaited?_eq_some.mp hawaited).2.2
          rw [enter, standing?_amend_of_awaited hawaited, Account.cancel, if_pos hw]
          simp only [move?, hawaited, Option.map_some]
      | none =>
          have hstanding : (l.enter (.cancel run)).standing? = l.standing? := by
            refine standing?_amend fun hrun a ha => ?_
            rw [Account.cancel, if_neg (not_waits_of_awaited? hawaited hrun ha)]
            split <;> rfl
          rw [hstanding]
          simp only [move?, hawaited, Option.map_none]
  | reset => rfl
  | subscribe listener => rfl
  | unsubscribe name => rfl

/-- A run that succeeds in a move was waiting for the executor. -/
theorem standing?_of_succeed {l : Ledger} {e : Event} {a : Account} {result : Result}
    (h : l.move? e = some (.succeed a result)) : l.standing? = some none := by
  obtain ⟨run, -, hworked⟩ := move?_eq_some h
  exact standing?_of_awaited (awaited?_of_worked hworked)

/-- The failure of a move is that of its event. -/
theorem wellMade_of_fail {l : Ledger} {e : Event} {f : Failure} (he : e.WellMade)
    (h : l.move? e = some (.fail f)) : f.WellMade := by
  obtain ⟨run, a, rfl, -⟩ := move?_eq_some h
  exact he

end Ledger

/-! ## The link between the fields -/

/-- The state, the result and the error say how the latest run stands. -/
structure Standing (c : Coordinator σ) (l : Ledger) : Prop where
  pending : c.state = .pending ↔ l.standing? = some none
  error_of_pending : c.state = .pending → c.error = none
  of_succeeded : c.state = .succeeded →
    ∃ result, l.standing? = some (some (.succeeded result)) ∧ c.result = some result ∧
      c.error = none
  of_failed : c.state = .failed →
    ∃ f, l.standing? = some (some (.failed f)) ∧ c.result = none ∧
      c.error = some (executionMessage (some f.text))
  exclusive : c.error = none ∨ c.result = none

namespace Standing

variable {c : Coordinator σ} {l : Ledger}

theorem fresh (ring : Option History.Ring) (store : σ) :
    Standing (Coordinator.fresh ring store) [] where
  pending := ⟨nofun, nofun⟩
  error_of_pending := nofun
  of_succeeded := nofun
  of_failed := nofun
  exclusive := .inl rfl

/-- The table of runs has no part in the link. -/
theorem of_front (h : Standing c.front l) : Standing c l :=
  ⟨h.pending, h.error_of_pending, h.of_succeeded, h.of_failed, h.exclusive⟩

theorem front (h : Standing c l) : Standing c.front l :=
  ⟨h.pending, h.error_of_pending, h.of_succeeded, h.of_failed, h.exclusive⟩

theorem of_standing? {l' : Ledger} (h : Standing c l) (hl : l'.standing? = l.standing?) :
    Standing c l' := by
  refine ⟨?_, h.error_of_pending, ?_, ?_, h.exclusive⟩
  · rw [hl]
    exact h.pending
  · rw [hl]
    exact h.of_succeeded
  · rw [hl]
    exact h.of_failed

/-- A state that is neither pending nor settled is linked to nothing. -/
theorem idle (h : Standing c l) {l' : Ledger} (hl : l'.standing? ≠ some none)
    {c' : Coordinator σ} (hstate : c'.state = .idle) (hresult : c'.result = c.result)
    (herror : c'.error = c.error) : Standing c' l' := by
  refine ⟨?_, ?_, ?_, ?_, ?_⟩
  · rw [hstate]
    exact ⟨nofun, fun h => absurd h hl⟩
  · rw [hstate]
    intro h
    cases h
  · rw [hstate]
    intro h
    cases h
  · rw [hstate]
    intro h
    cases h
  · rw [hresult, herror]
    exact h.exclusive

/-- The move of an event keeps the link. -/
theorem act (h : Standing c l) (archive : Option (Archive σ)) {e : Event} (he : e.WellMade) :
    Standing (Coordinator.act archive c (l.move? e)).1 (l.enter e) := by
  have hl := l.standing?_enter e
  cases hm : l.move? e with
  | none =>
      rw [hm] at hl
      exact h.of_standing? hl
  | some m =>
      rw [hm] at hl
      cases m with
      | accept =>
          exact ⟨⟨fun _ => hl, fun _ => rfl⟩, fun _ => rfl, nofun,
            nofun, .inl rfl⟩
      | succeed a result =>
          -- The error was taken back when the run was accepted, and nothing brings
          -- one while the run is awaited.
          have herror : c.error = none :=
            h.error_of_pending (h.pending.mpr (Ledger.standing?_of_succeed hm))
          refine ⟨⟨nofun, fun h => ?_⟩, nofun,
            fun _ => ⟨result, hl, rfl, herror⟩, nofun, .inl herror⟩
          rw [hl] at h
          cases h
      | fail f =>
          have htext := (Ledger.wellMade_of_fail he hm).text_asExecution
          refine ⟨⟨nofun, fun h => ?_⟩, nofun, nofun,
            fun _ => ⟨f, hl, rfl, congrArg some htext⟩, .inr rfl⟩
          rw [hl] at h
          cases h
      | cancel =>
          refine h.idle ?_ rfl rfl rfl
          rw [hl]
          exact nofun
      | reset =>
          simp only [Coordinator.act]
          split
          · rename_i hsettled
            refine h.idle ?_ rfl rfl rfl
            intro hstanding
            rw [hl] at hstanding
            rw [h.pending.mpr hstanding] at hsettled
            simp at hsettled
          · exact h.of_standing? hl
      | subscribe listener =>
          exact of_standing? ⟨h.pending, h.error_of_pending, h.of_succeeded, h.of_failed,
            h.exclusive⟩ hl
      | unsubscribe name =>
          exact of_standing? ⟨h.pending, h.error_of_pending, h.of_succeeded, h.of_failed,
            h.exclusive⟩ hl

/-- **Every event keeps the link.** -/
theorem step (h : Standing c l) (hfollows : Follows c l) (archive : Option (Archive σ))
    {e : Event} (he : e.WellMade) : Standing (Coordinator.step archive c e).1 (l.enter e) := by
  refine of_front ?_
  rw [hfollows.front_step archive e]
  exact h.front.act archive he

theorem after (archive : Option (Archive σ)) (ring : Option History.Ring) (store : σ)
    {es : List Event} (hes : ∀ e ∈ es, e.WellMade) :
    Standing (Coordinator.after archive (.fresh ring store) es) (Ledger.ofEvents es) := by
  induction es using List.reverseRecOn with
  | nil => exact fresh ring store
  | append_singleton es e ih =>
      have hbefore := ih fun e' he' => hes e' (List.mem_append_left _ he')
      rw [Coordinator.after_concat, Ledger.ofEvents_concat]
      exact hbefore.step (Follows.after archive ring store es) archive (hes e (by simp))

end Standing

/-! ## The result and the decisions -/

/-- The result that a decision leaves. -/
def Decision.result? (d : Decision) : Option Result :=
  match d.outcome with
  | .success result => some result
  | .failure _ => none

/-- A move changes the result only if it is a decision, which leaves its own. -/
theorem act_result (archive : Option (Archive σ)) (c : Coordinator σ) (l : Ledger) (e : Event) :
    (act archive c (l.move? e)).1.result =
      match l.decision? e with
      | none => c.result
      | some d => d.result? := by
  cases e with
  | submit connection sql =>
      simp only [Ledger.move?, Ledger.decision?]
      cases opened? connection sql <;> rfl
  | settle run outcome =>
      cases outcome with
      | success result =>
          simp only [Ledger.move?, Ledger.decision?]
          cases l.worked? run <;> rfl
      | failure f =>
          simp only [Ledger.move?, Ledger.decision?]
          cases l.worked? run <;> rfl
  | cancel run =>
      simp only [Ledger.move?, Ledger.decision?]
      cases l.awaited? run <;> rfl
  | reset =>
      simp only [Ledger.move?, Ledger.decision?, act]
      split <;> rfl
  | _ => rfl

/-- **The result is that of the last decision**: the outcome of a success, and
none after a failure. -/
theorem result_after (archive : Option (Archive σ)) (ring : Option History.Ring) (store : σ)
    (es : List Event) :
    (after archive (.fresh ring store) es).result =
      (decisions es).getLast?.bind Decision.result? := by
  induction es using List.reverseRecOn with
  | nil => rfl
  | append_singleton es e ih =>
      have hfront := (Follows.after archive ring store es).front_step archive e
      have hresult := act_result archive (after archive (.fresh ring store) es).front
        (Ledger.ofEvents es) e
      rw [← hfront] at hresult
      rw [after_concat, decisions_concat]
      show (Coordinator.step archive (after archive (.fresh ring store) es) e).1.front.result = _
      rw [hresult]
      cases (Ledger.ofEvents es).decision? e with
      | none =>
          rw [Option.toList_none, List.append_nil]
          exact ih
      | some d => rw [Option.toList_some, List.getLast?_concat, Option.bind_some]

/-! ## The fields after any events -/

theorem standing?_eq_getLast? (l : Ledger) : l.standing? = l.getLast?.map Account.settlement := by
  rw [Ledger.standing?, Ledger.account?_length]

/-- **The fields follow the latest run.**  Take any events, with failures as they
are made, from a coordinator to which nothing has happened.  It is pending
exactly as long as there is a latest run and that has not settled, and there is
no error then.  Succeeded, it shows the result of the latest run and no error;
failed, it shows no result and the message of the latest run's failure, which is
stripped and not blank.  A result and an error are never shown together.  The
result is that of the last decision if that was a success, and there is none
after a failure or before any decision. -/
theorem fields_follow_latest_run (archive : Option (Archive σ)) (ring : Option History.Ring)
    (store : σ) (es : List Event) (hes : ∀ e ∈ es, e.WellMade) :
    let c := Coordinator.after archive (.fresh ring store) es
    let latest := (Ledger.ofEvents es).getLast?
    (c.state = .pending ↔ ∃ a, latest = some a ∧ a.settlement = none) ∧
      (c.state = .pending → c.error = none) ∧
      (c.state = .succeeded → ∃ a result, latest = some a ∧
        a.settlement = some (.succeeded result) ∧ c.result = some result ∧ c.error = none) ∧
      (c.state = .failed → ∃ a f message, latest = some a ∧
        a.settlement = some (.failed f) ∧ c.result = none ∧ c.error = some message ∧
        message = (if Text.isBlankText f.text then genericMessage else Text.strip f.text) ∧
        Text.isBlankText message = false ∧ Text.strip message = message) ∧
      (c.error = none ∨ c.result = none) ∧
      c.result = (decisions es).getLast?.bind Decision.result? := by
  intro c latest
  have h : Standing c (Ledger.ofEvents es) := Standing.after archive ring store hes
  have hlatest : (Ledger.ofEvents es).standing? = latest.map Account.settlement :=
    standing?_eq_getLast? _
  refine ⟨?_, h.error_of_pending, ?_, ?_, h.exclusive, result_after archive ring store es⟩
  · rw [h.pending, hlatest, Option.map_eq_some_iff]
  · intro hstate
    obtain ⟨result, hstanding, hresult, herror⟩ := h.of_succeeded hstate
    rw [hlatest] at hstanding
    obtain ⟨a, ha, hsettlement⟩ := Option.map_eq_some_iff.mp hstanding
    exact ⟨a, result, ha, hsettlement, hresult, herror⟩
  · intro hstate
    obtain ⟨f, hstanding, hresult, herror⟩ := h.of_failed hstate
    rw [hlatest] at hstanding
    obtain ⟨a, ha, hsettlement⟩ := Option.map_eq_some_iff.mp hstanding
    exact ⟨a, f, executionMessage (some f.text), ha, hsettlement, hresult, herror,
      executionMessage_eq f.text, isBlankText_executionMessage f.text,
      strip_executionMessage f.text⟩

/-- The latest of two runs fails while the earlier one is still under way. -/
theorem fields_follow_latest_run_failed :
    let es : List Event :=
      [.submit (some "db") "SELECT 1", .start 1, .submit (some "db") "SELECT x", .start 2,
        .settle 2 (.failure (.execution " no such column: x "))]
    let c := Coordinator.after (none : Option (Archive Unit)) (.fresh none ()) es
    (∀ e ∈ es, e.WellMade) ∧ c.state = .failed ∧ (c.error = none ∨ c.result = none) := by
  intro es c
  have hes : ∀ e ∈ es, e.WellMade := by
    intro e he
    simp only [es, List.mem_cons, List.not_mem_nil, or_false] at he
    rcases he with rfl | rfl | rfl | rfl | rfl
    · trivial
    · trivial
    · trivial
    · trivial
    · exact Failure.wellMade_make .execution _
  exact ⟨hes, rfl, (fields_follow_latest_run none none () es hes).2.2.2.2.1⟩

end QueryDesk.Execution
