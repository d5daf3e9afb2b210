import QueryDesk.Proofs.Execution.Notices

/-!
# Cancellations

A run goes to the pending state when it is accepted, but what takes it back to
the idle state belongs to the run itself and is only there once the run has taken
its first step.  So a cancellation is undone for a run that waits for the
executor.  A run that is cancelled before its first step is *dropped*: nothing
but the run goes away, and if it was the latest, the coordinator stays pending
with no run that could settle, until another one is accepted.

## Main results

* `Ledger.account?_enter_of_dropped` — a dropped run stays dropped.
* `state_eq_pending_iff` — when a coordinator is pending.
* `undoes_cancel` — what a cancellation leaves.
* `cancelled_run_leaves` — what every cancellation leaves, and when a coordinator
  is pending without a run in flight.
* `dropped_run_stays_pending` — a run that is dropped leaves the coordinator
  pending.
-/

namespace QueryDesk.Execution

open Coordinator

variable {σ : Type}

/-! ## Dropped runs -/

namespace Account

theorem not_isOpen_of_dropped {a : Account} (h : a.dropped = true) : ¬ a.isOpen = true := by
  simp [isOpen, h]

/-- A run that has not settled is in flight, or it was dropped. -/
theorem settlement_eq_none_iff {a : Account} (h : a.Sound) :
    a.settlement = none ↔ a.isOpen = true ∨ a.dropped = true := by
  constructor
  · intro hnone
    by_cases hdropped : a.dropped = true
    · exact .inr hdropped
    · left
      simp [isOpen, hdropped, hnone]
  · intro hcases
    rcases hcases with hopen | hdropped
    · exact settlement_of_isOpen hopen
    · exact (h.dropped hdropped).2

end Account

namespace Ledger

/-- **A dropped run stays dropped**, whatever happens. -/
theorem account?_enter_of_dropped {l : Ledger} {n : Nat} {a : Account}
    (ha : l.account? n = some a) (hdropped : a.dropped = true) (e : Event) :
    (l.enter e).account? n = some a := by
  rw [account?_enter ha, e.alter_of_not_isOpen n (Account.not_isOpen_of_dropped hdropped)]

theorem account?_of_dropped {es : List Event} {n : Nat} {a : Account}
    (ha : (ofEvents es).account? n = some a) (hdropped : a.dropped = true) (later : List Event) :
    (ofEvents (es ++ later)).account? n = some a := by
  induction later using List.reverseRecOn with
  | nil => rwa [List.append_nil]
  | append_singleton later e ih =>
      rw [← List.append_assoc, ofEvents_concat]
      exact account?_enter_of_dropped ih hdropped e

end Ledger

/-! ## When a coordinator is pending -/

/-- A move to the pending state takes the error back, and no other move brings one
there. -/
theorem error_of_pending_act (archive : Option (Archive σ)) {c : Coordinator σ} {m? : Option Move}
    (h : c.state = .pending → c.error = none)
    (hpending : (act archive c m?).1.state = .pending) : (act archive c m?).1.error = none := by
  cases m? with
  | none => exact h hpending
  | some m =>
      cases m with
      | accept => rfl
      | succeed a result => cases hpending
      | fail f => cases hpending
      | cancel => cases hpending
      | reset =>
          simp only [act] at hpending ⊢
          split
          · rename_i hsettled
            rw [if_pos hsettled] at hpending
            cases hpending
          · rename_i hsettled
            rw [if_neg hsettled] at hpending
            exact h hpending
      | subscribe listener => exact h hpending
      | unsubscribe name => exact h hpending

/-- A pending coordinator shows no error. -/
theorem error_of_pending (archive : Option (Archive σ)) (ring : Option History.Ring) (store : σ)
    (es : List Event) : (after archive (.fresh ring store) es).state = .pending →
      (after archive (.fresh ring store) es).error = none := by
  induction es using List.reverseRecOn with
  | nil => exact nofun
  | append_singleton es e ih =>
      intro hpending
      rw [after_concat] at hpending ⊢
      have hfront := (Follows.after archive ring store es).front_step archive e
      have hstate := congrArg Coordinator.state hfront
      have herror := congrArg Coordinator.error hfront
      show (Coordinator.step archive _ e).1.front.error = none
      rw [hfront]
      refine error_of_pending_act archive ih ?_
      rw [← hfront]
      exact hpending

/-- The latest run is in flight, or it was dropped, exactly while the state is
pending. -/
theorem state_eq_pending_iff (archive : Option (Archive σ)) (ring : Option History.Ring)
    (store : σ) (es : List Event) :
    (after archive (.fresh ring store) es).state = .pending ↔
      ∃ a, (Ledger.ofEvents es).account? (Ledger.ofEvents es).length = some a ∧
        (a.isOpen = true ∨ a.dropped = true) := by
  rw [state_after, reached_eq_pending_iff, Ledger.standing?, Option.map_eq_some_iff]
  refine exists_congr fun a => and_congr_right fun ha => ?_
  exact Account.settlement_eq_none_iff (Ledger.sound_ofEvents es _ a ha)

/-! ## What a cancellation leaves -/

/-- The entry of a run is that of its account. -/
theorem Follows.exists_account {c : Coordinator σ} {l : Ledger} (h : Follows c l) {run : Nat}
    {r : Run} (hr : c.runs.get? run = some r) :
    ∃ a, l.account? run = some a ∧ a.isOpen = true ∧ r = ⟨a.connection, a.sql, a.phase⟩ := by
  rw [h.runs] at hr
  obtain ⟨a, ha, hrun⟩ := Option.bind_eq_some_iff.mp hr
  unfold Account.run? at hrun
  split at hrun
  · rename_i hopen
    exact ⟨a, ha, hopen, (Option.some.inj hrun).symm⟩
  · cases hrun

/-- What the cancellation of a run leaves.  The result, the history and all that
was stored are left alone; the state goes back only for the latest run, and only
if it has taken its first step. -/
structure Undoes (c : Coordinator σ) (run : Nat) (r : Run) (after : Coordinator σ × Report) :
    Prop where
  reply : after.2.reply = .cancelled
  gone : after.1.runs.get? run = none
  others : ∀ n, n ≠ run → after.1.runs.get? n = c.runs.get? n
  latest : after.1.latest = c.latest
  result : after.1.result = c.result
  ring : after.1.ring = c.ring
  store : after.1.store = c.store
  waiting : r.started = true → run = c.latest →
    after.1.state = .idle ∧ after.1.error = none ∧
      after.2.notices = c.listeners.map fun l => (l.name, .idle)
  superseded : run ≠ c.latest →
    after.1.state = c.state ∧ after.1.error = c.error ∧ after.2.notices = []
  dropped : r.started = false →
    after.1.state = c.state ∧ after.1.error = c.error ∧ after.2.notices = []

/-- **What a cancellation leaves.** -/
theorem undoes_cancel {c : Coordinator σ} {l : Ledger} (h : Follows c l)
    (herror : ∀ a, l.account? c.latest = some a → a.isOpen = true → c.error = none)
    (archive : Option (Archive σ)) {run : Nat} {r : Run} (hr : c.runs.get? run = some r) :
    Undoes c run r (step archive c (.cancel run)) := by
  obtain ⟨a, ha, hopen, rfl⟩ := h.exists_account hr
  have hfilter : (l.account? run).filter Account.isOpen = some a := by
    rw [ha, Option.filter_some, if_pos hopen]
  have hstep : step archive c (.cancel run) =
      if a.started = true ∧ run = c.latest then
        (({ c with runs := c.runs.remove run }.transition .idle).1,
          { reply := .cancelled, notices := (c.transition .idle).2 })
      else ({ c with runs := c.runs.remove run }, { reply := .cancelled }) := by
    have hwaits : a.waits = a.started := by rw [Account.waits, hopen, Bool.and_true]
    rw [step, h.cancel_eq, hfilter, ← h.latest]
    simp only [hwaits]
    rfl
  have hother : ∀ n, n ≠ run → (c.runs.remove run).get? n = c.runs.get? n :=
    fun n hn => OrderedMap.get?_remove_ne _ hn
  rw [hstep]
  by_cases hlatest : a.started = true ∧ run = c.latest
  · obtain ⟨hstarted, hrun⟩ := hlatest
    rw [if_pos ⟨hstarted, hrun⟩]
    refine ⟨rfl, OrderedMap.get?_remove_self _ _, hother, rfl, rfl, rfl, rfl, ?_, ?_, ?_⟩
    · intro _ _
      exact ⟨rfl, herror a (hrun ▸ ha) hopen, rfl⟩
    · intro hne
      exact absurd hrun hne
    · intro hnot
      rw [show a.started = false from hnot] at hstarted
      cases hstarted
  · rw [if_neg hlatest]
    refine ⟨rfl, OrderedMap.get?_remove_self _ _, hother, rfl, rfl, rfl, rfl, ?_, ?_, ?_⟩
    · intro hstarted hrun
      exact absurd ⟨hstarted, hrun⟩ hlatest
    · intro _
      exact ⟨rfl, rfl, rfl⟩
    · intro _
      exact ⟨rfl, rfl, rfl⟩

/-- **What every cancellation leaves.**  Take any events from a coordinator to
which nothing has happened, and a run that is accepted and has not settled.
Cancelling it leaves the result, the ring and the store as they were.  If it
waits for the executor and is the latest run, the state is idle afterwards with
no error; if it has been superseded, nothing changes.  If it has not taken its
first step, nothing changes either, even if it is the latest run.

The state is pending, with no error, as long as the latest run is in flight; and
it is pending without that only if the latest run was cancelled before its first
step.  Then it stays pending, whatever happens, until another run is accepted. -/
theorem cancelled_run_leaves (archive : Option (Archive σ)) (ring : Option History.Ring)
    (store : σ) (es : List Event) :
    let c := after archive (.fresh ring store) es
    let l := Ledger.ofEvents es
    (∀ run r, c.runs.get? run = some r → Undoes c run r (step archive c (.cancel run))) ∧
    (∀ r, c.runs.get? c.latest = some r → c.state = .pending ∧ c.error = none) ∧
    (c.state = .pending → c.runs.get? c.latest = none →
      ∃ a, l.account? c.latest = some a ∧ a.dropped = true ∧ a.started = false ∧
        ∀ later, (after archive c later).latest = c.latest →
          (after archive c later).state = .pending ∧
            (after archive c later).runs.get? c.latest = none) := by
  intro c l
  have hfollows : Follows c l := Follows.after archive ring store es
  have hpending : c.state = .pending ↔ ∃ a, l.account? l.length = some a ∧
      (a.isOpen = true ∨ a.dropped = true) := state_eq_pending_iff archive ring store es
  rw [← hfollows.latest] at hpending
  refine ⟨?_, ?_, ?_⟩
  · intro run r hr
    refine undoes_cancel hfollows ?_ archive hr
    intro a ha hopen
    exact error_of_pending archive ring store es (hpending.mpr ⟨a, ha, .inl hopen⟩)
  · intro r hr
    obtain ⟨a, ha, hopen, -⟩ := hfollows.exists_account hr
    have hstate : c.state = .pending := hpending.mpr ⟨a, ha, .inl hopen⟩
    exact ⟨hstate, error_of_pending archive ring store es hstate⟩
  · intro hstate hnone
    obtain ⟨a, ha, hcases⟩ := hpending.mp hstate
    have hclosed : ¬ a.isOpen = true := by
      intro hopen
      rw [hfollows.runs, ha, Option.bind_some, Account.run?, if_pos hopen] at hnone
      cases hnone
    have hdropped : a.dropped = true := hcases.resolve_left hclosed
    refine ⟨a, ha, hdropped, ((Ledger.sound_ofEvents es _ a ha).dropped hdropped).1, ?_⟩
    intro later hlatest
    have hafter : after archive c later = after archive (.fresh ring store) (es ++ later) := by
      simp [c, after]
    have hlater := Ledger.account?_of_dropped ha hdropped later
    have hfollows' := Follows.after archive ring store (es ++ later)
    rw [hafter] at hlatest ⊢
    constructor
    · rw [state_eq_pending_iff, ← hfollows'.latest, hlatest]
      exact ⟨a, hlater, .inr hdropped⟩
    · rw [hfollows'.runs, hlater, Option.bind_some, Account.run?, if_neg hclosed]

/-- A run waits for the executor and has been superseded by one that waits too;
and the only run is cancelled before its first step. -/
theorem cancelled_run_leaves_waiting :
    let es : List Event := [.submit (some "db") "SELECT 1", .start 1,
      .submit (some "db") "SELECT 2", .start 2]
    let c := after (none : Option (Archive Unit)) (.fresh none ()) es
    let es' : List Event := [.submit (some "db") "SELECT 1", .cancel 1]
    let c' := after (none : Option (Archive Unit)) (.fresh none ()) es'
    (c.runs.get? 2 = some ⟨"db", "SELECT 2", .called⟩ ∧ c.latest = 2 ∧ c.state = .pending ∧
      (step none c (.cancel 2)).1.state = .idle ∧
      c.runs.get? 1 = some ⟨"db", "SELECT 1", .called⟩ ∧
      (step none c (.cancel 1)).1.state = c.state) ∧
    c'.state = .pending ∧ c'.runs.get? c'.latest = none ∧
      ∃ a, (Ledger.ofEvents es').account? c'.latest = some a ∧ a.dropped = true ∧
        a.started = false := by
  intro es c es' c'
  have h := cancelled_run_leaves (none : Option (Archive Unit)) none () es
  have hfirst : c.runs.get? 1 = some ⟨"db", "SELECT 1", .called⟩ := by decide
  have hsecond : c.runs.get? 2 = some ⟨"db", "SELECT 2", .called⟩ := by decide
  have hpending : c'.state = .pending := by decide
  have hnone : c'.runs.get? c'.latest = none := by decide
  obtain ⟨a, ha, hdropped, hstarted, -⟩ :=
    (cancelled_run_leaves (none : Option (Archive Unit)) none () es').2.2 hpending hnone
  exact ⟨⟨hsecond, rfl, (h.2.1 _ hsecond).1, ((h.1 2 _ hsecond).waiting rfl rfl).1, hfirst,
    ((h.1 1 _ hfirst).superseded (by decide)).1⟩, hpending, hnone, a, ha, hdropped, hstarted⟩

/-- **A run that is cancelled before its first step leaves the coordinator
pending**, with no run in flight. -/
theorem dropped_run_stays_pending :
    let c := after (none : Option (Archive Unit)) (.fresh none ())
      [.submit (some "db") "SELECT 1"]
    c.runs.get? c.latest = some ⟨"db", "SELECT 1", .accepted⟩ ∧
      (step none c (.cancel c.latest)).1.state = .pending ∧
      (step none c (.cancel c.latest)).1.runs = [] := by
  decide

end QueryDesk.Execution
