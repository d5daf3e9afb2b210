import Mathlib.Data.List.Chain
import QueryDesk.Proofs.Execution.Standing

/-!
# Transitions

A coordinator goes from state to state, and it may go to the state that it is in:
a run that is accepted while another one is pending is a transition too.  So the
transitions cannot be read from the states.  They are read from the events here,
with the help of the ledger, each with its cause: a run that was accepted, a run
that settled, or a reset.

`Path` is the automaton that the transitions go through.  Its states are those of
the coordinator together with the number of the latest run, and a run settles
only from the pending state.  What is said about the order of transitions is said
about paths, by induction on the path.

## Main results

* `acts_step` — what an event does to the state, and whom it tells.
* `path_transitions` — the transitions of all events go along a path.
* `Path.isChain`, `Path.accepted`, `Path.between` — which states follow each
  other, how often a run is accepted, and what lies between two acceptances.
-/

namespace QueryDesk.Execution

open Coordinator

variable {σ : Type}

/-- Why a coordinator goes to a state. -/
inductive Cause where
  | accepted (run : Nat)
  /-- A run succeeded, failed or was cancelled. -/
  | settled (run : Nat)
  | reset
  deriving DecidableEq, Repr

/-- A coordinator goes to a state. -/
structure Transition where
  state : State
  cause : Cause
  deriving DecidableEq, Repr

/-- The run that a transition accepts. -/
def Transition.accepted? (t : Transition) : Option Nat :=
  match t.cause with
  | .accepted run => some run
  | _ => none

/-- The run that a transition settles. -/
def Transition.settled? (t : Transition) : Option Nat :=
  match t.cause with
  | .settled run => some run
  | _ => none

/-- The states to which a cause leads. -/
def Cause.LeadsTo : Cause → State → Prop
  | .accepted _, s => s = .pending
  | .settled _, s => s ≠ .pending
  | .reset, s => s = .idle

/-- The states that can come next. -/
def State.successors : State → List State
  | .idle => [.pending]
  | .pending => [.pending, .succeeded, .failed, .idle]
  | .succeeded | .failed => [.pending, .idle]

/-! ## Transitions read from the events -/

namespace Ledger

/-- The transition that an event brings in a state. -/
def transition? (l : Ledger) (s : State) : Event → Option Transition
  | .submit connection sql =>
    (opened? connection sql).map fun _ => ⟨.pending, .accepted (l.length + 1)⟩
  | .settle run (.success _) => (l.worked? run).map fun _ => ⟨.succeeded, .settled run⟩
  | .settle run (.failure _) => (l.worked? run).map fun _ => ⟨.failed, .settled run⟩
  | .cancel run => (l.awaited? run).map fun _ => ⟨.idle, .settled run⟩
  | .reset => if s = .succeeded ∨ s = .failed then some ⟨.idle, .reset⟩ else none
  | .start .. | .call _ | .subscribe _ | .unsubscribe _ => none

/-- The transitions that events bring, one after another, from a state. -/
def transitionsFrom (l : Ledger) (s : State) : List Event → List Transition
  | [] => []
  | e :: es =>
    match l.transition? s e with
    | none => transitionsFrom (l.enter e) s es
    | some t => t :: transitionsFrom (l.enter e) t.state es

end Ledger

/-- The state in which transitions end. -/
def reached (s : State) (ts : List Transition) : State := ts.foldl (fun _ t => t.state) s

@[simp] theorem reached_concat (s : State) (ts : List Transition) (t : Transition) :
    reached s (ts ++ [t]) = t.state := by
  simp [reached]

/-- The transitions of a coordinator to which these events happen. -/
def transitions (es : List Event) : List Transition := Ledger.transitionsFrom [] .idle es

theorem transitions_concat (es : List Event) (e : Event) :
    transitions (es ++ [e]) = transitions es ++
      ((Ledger.ofEvents es).transition? (reached .idle (transitions es)) e).toList := by
  have hfrom : ∀ (es : List Event) (l : Ledger) (s : State),
      l.transitionsFrom s (es ++ [e]) = l.transitionsFrom s es ++
        ((es.foldl Ledger.enter l).transition? (reached s (l.transitionsFrom s es)) e).toList := by
    intro es
    induction es with
    | nil =>
        intro l s
        simp only [List.nil_append, Ledger.transitionsFrom, List.foldl_nil, reached]
        cases l.transition? s e <;> rfl
    | cons d ds ih =>
        intro l s
        simp only [List.cons_append, Ledger.transitionsFrom, List.foldl_cons]
        cases l.transition? s d with
        | none => exact ih _ _
        | some t => simp only [ih, List.cons_append, reached, List.foldl_cons]
  exact hfrom es [] .idle

/-! ## What an event does -/

/-- What is left of a coordinator, and whom it tells what, when an event brings a
transition or none. -/
structure Acts (c : Coordinator σ) (e : Event) (t? : Option Transition)
    (r : Coordinator σ × List (String × State)) : Prop where
  state : r.1.state = (t?.map Transition.state).getD c.state
  /-- Every listener that is there is told once, in order. -/
  notices : r.2 = t?.toList.flatMap fun t => c.listeners.map fun l => (l.name, t.state)
  listeners : r.1.listeners =
    match e with
    | .subscribe listener => (c.subscribe listener).listeners
    | .unsubscribe name => (c.unsubscribe name).listeners
    | _ => t?.elim c.listeners fun t => (c.transition t.state).1.listeners
  met : r.1.met =
    match e with
    | .subscribe listener => (c.subscribe listener).met
    | _ => c.met

/-- A move brings the transition of its event. -/
theorem acts_move (archive : Option (Archive σ)) (c : Coordinator σ) (l : Ledger) (e : Event) :
    Acts c e (l.transition? c.state e) (act archive c (l.move? e)) := by
  cases e with
  | submit connection sql =>
      simp only [Ledger.move?, Ledger.transition?]
      cases opened? connection sql <;> exact ⟨rfl, by simp [act, transition], rfl, rfl⟩
  | settle run outcome =>
      cases outcome <;> simp only [Ledger.move?, Ledger.transition?] <;>
        cases l.worked? run <;> exact ⟨rfl, by simp [act, transition], rfl, rfl⟩
  | cancel run =>
      simp only [Ledger.move?, Ledger.transition?]
      cases l.awaited? run <;> exact ⟨rfl, by simp [act, transition], rfl, rfl⟩
  | reset =>
      simp only [Ledger.move?, Ledger.transition?, act]
      split <;> exact ⟨rfl, by simp [transition], rfl, rfl⟩
  | start run queued => exact ⟨rfl, rfl, rfl, rfl⟩
  | call run => exact ⟨rfl, rfl, rfl, rfl⟩
  | subscribe listener => exact ⟨rfl, rfl, rfl, rfl⟩
  | unsubscribe name => exact ⟨rfl, rfl, rfl, rfl⟩

/-- **What an event does to the state, and whom it tells**: every listener that is
there, once and in order, if it brings a transition. -/
theorem acts_step {c : Coordinator σ} {l : Ledger} (h : Follows c l)
    (archive : Option (Archive σ)) (e : Event) :
    Acts c.front e (l.transition? c.state e)
      ((step archive c e).1.front, (step archive c e).2.notices) := by
  rw [h.step_eq archive e]
  exact acts_move archive c.front l e

/-- The answer of the executor accepts no run. -/
theorem reply_answer_ne (archive : Option (Archive σ)) (c : Coordinator σ) (run : Nat) (r : Run)
    (outcome : Outcome) (n : Nat) : (answer archive c run r outcome).2.reply ≠ .accepted n := by
  cases outcome with
  | success result =>
      simp only [answer, succeed]
      split
      · simp
      · simp only
        split <;> simp
  | failure f =>
      simp only [answer, fail]
      split <;> simp

/-- A run is accepted exactly by the transition that says so. -/
theorem reply_accepted_iff {c : Coordinator σ} {l : Ledger} (h : Follows c l)
    (archive : Option (Archive σ)) (s : State) (e : Event) (run : Nat) :
    (step archive c e).2.reply = .accepted run ↔
      l.transition? s e = some ⟨.pending, .accepted run⟩ := by
  cases e with
  | submit connection sql =>
      simp only [step, submit_eq, Ledger.transition?, ← h.latest]
      cases opened? connection sql <;> simp
  | start run' queued =>
      simp only [step, h.start_eq, Ledger.transition?]
      split
      · simp
      · split <;> simp [takeUp]
  | call run' =>
      simp only [step, h.call_eq, Ledger.transition?]
      split <;> simp [takeUp]
  | settle run' outcome =>
      have hno : (settle archive c run' outcome).2.reply ≠ .accepted run := by
        rw [h.settle_eq]
        split
        · simp
        · exact reply_answer_ne archive _ _ _ _ run
      simp only [step, hno, false_iff]
      cases outcome <;> simp [Ledger.transition?]
  | cancel run' =>
      have hno : (c.cancel run').2.reply ≠ .accepted run := by
        rw [h.cancel_eq]
        split
        · simp
        · simp only
          split <;> simp
      simp [step, hno, Ledger.transition?]
  | reset =>
      have hno : c.reset.2.reply ≠ .accepted run := by
        unfold Coordinator.reset
        split <;> simp
      simp [step, hno, Ledger.transition?]
  | subscribe listener => simp [step, Ledger.transition?]
  | unsubscribe name => simp [step, Ledger.transition?]

/-! ## The automaton -/

/-- What can come next in a state, when `n` runs have been accepted. -/
inductive Next (n : Nat) : State → Transition → Prop where
  | accept (s : State) : Next n s ⟨.pending, .accepted (n + 1)⟩
  | succeed : Next n .pending ⟨.succeeded, .settled n⟩
  | fail : Next n .pending ⟨.failed, .settled n⟩
  | cancel : Next n .pending ⟨.idle, .settled n⟩
  | reset {s : State} (h : s = .succeeded ∨ s = .failed) : Next n s ⟨.idle, .reset⟩

/-- The number of accepted runs after a transition. -/
def Transition.latest (n : Nat) (t : Transition) : Nat := t.accepted?.getD n

/-- Transitions from the start, one next to the other, that accept `n` runs and
end in a state. -/
inductive Path : List Transition → Nat → State → Prop where
  | start : Path [] 0 .idle
  | next {ts : List Transition} {n : Nat} {s : State} {t : Transition} (hpath : Path ts n s)
      (hnext : Next n s t) : Path (ts ++ [t]) (t.latest n) t.state

/-- The ledger has one account more after a transition that accepts a run. -/
theorem length_enter (l : Ledger) (s : State) (e : Event) :
    (l.enter e).length = ((l.transition? s e).map (Transition.latest l.length)).getD l.length := by
  cases e with
  | submit connection sql =>
      simp only [Ledger.enter, Ledger.transition?]
      cases opened? connection sql <;> simp [Transition.latest, Transition.accepted?]
  | start run queued => simp [Ledger.enter, Ledger.transition?]
  | call run => simp [Ledger.enter, Ledger.transition?]
  | settle run outcome =>
      cases outcome <;> simp only [Ledger.enter, Ledger.length_amend, Ledger.transition?] <;>
        cases l.worked? run <;> rfl
  | cancel run =>
      simp only [Ledger.enter, Ledger.length_amend, Ledger.transition?]
      cases l.awaited? run <;> rfl
  | reset =>
      simp only [Ledger.enter, Ledger.transition?]
      split <;> rfl
  | subscribe listener => rfl
  | unsubscribe name => rfl

/-- A run that settles is the latest one, and the state is pending until then. -/
theorem next_of_transition? {l : Ledger} {s : State} {e : Event} {t : Transition}
    (hpending : s = .pending ↔ l.standing? = some none) (h : l.transition? s e = some t) :
    Next l.length s t := by
  have hawaited : ∀ {run : Nat} {a : Account}, l.awaited? run = some a →
      s = .pending ∧ run = l.length := fun ha =>
    ⟨hpending.mpr (Ledger.standing?_of_awaited ha), (Ledger.awaited?_eq_some.mp ha).1⟩
  cases e with
  | submit connection sql =>
      obtain ⟨a, -, rfl⟩ := Option.map_eq_some_iff.mp h
      exact .accept s
  | settle run outcome =>
      cases outcome with
      | success result =>
          obtain ⟨a, ha, rfl⟩ := Option.map_eq_some_iff.mp h
          obtain ⟨rfl, rfl⟩ := hawaited (Ledger.awaited?_of_worked ha)
          exact .succeed
      | failure f =>
          obtain ⟨a, ha, rfl⟩ := Option.map_eq_some_iff.mp h
          obtain ⟨rfl, rfl⟩ := hawaited (Ledger.awaited?_of_worked ha)
          exact .fail
  | cancel run =>
      obtain ⟨a, ha, rfl⟩ := Option.map_eq_some_iff.mp h
      obtain ⟨rfl, rfl⟩ := hawaited ha
      exact .cancel
  | reset =>
      simp only [Ledger.transition?] at h
      split at h
      · rename_i hsettled
        cases h
        exact .reset hsettled
      · cases h
  | start run queued => cases h
  | call run => cases h
  | subscribe listener => cases h
  | unsubscribe name => cases h

/-- The state is pending exactly while the latest run has not settled. -/
theorem reached_eq_pending_iff (es : List Event) :
    reached .idle (transitions es) = .pending ↔ (Ledger.ofEvents es).standing? = some none := by
  induction es using List.reverseRecOn with
  | nil => exact ⟨nofun, nofun⟩
  | append_singleton es e ih =>
      have hl := (Ledger.ofEvents es).standing?_enter e
      rw [Ledger.ofEvents_concat, transitions_concat, hl]
      generalize Ledger.ofEvents es = l at ih hl ⊢
      cases e with
      | submit connection sql =>
          simp only [Ledger.transition?, Ledger.move?]
          cases opened? connection sql with
          | none => simpa using ih
          | some a => simp
      | settle run outcome =>
          cases outcome with
          | success result =>
              simp only [Ledger.transition?, Ledger.move?]
              cases l.worked? run with
              | none => simpa using ih
              | some a => simp
          | failure f =>
              simp only [Ledger.transition?, Ledger.move?]
              cases l.worked? run with
              | none => simpa using ih
              | some a => simp
      | cancel run =>
          simp only [Ledger.transition?, Ledger.move?]
          cases l.awaited? run with
          | none => simpa using ih
          | some a => simp
      | reset =>
          simp only [Ledger.transition?, Ledger.move?]
          split
          · rename_i hsettled
            have hne : ¬ reached .idle (transitions es) = .pending := by
              rintro hpending
              simp [hpending] at hsettled
            simpa using fun h => hne (ih.mpr h)
          · simpa using ih
      | start run queued => simpa [Ledger.transition?, Ledger.move?] using ih
      | call run => simpa [Ledger.transition?, Ledger.move?] using ih
      | subscribe listener => simpa [Ledger.transition?, Ledger.move?] using ih
      | unsubscribe name => simpa [Ledger.transition?, Ledger.move?] using ih

/-- **The transitions go along a path**, whatever happens. -/
theorem path_transitions (es : List Event) :
    Path (transitions es) (Ledger.ofEvents es).length (reached .idle (transitions es)) := by
  induction es using List.reverseRecOn with
  | nil => exact .start
  | append_singleton es e ih =>
      have hlength := length_enter (Ledger.ofEvents es) (reached .idle (transitions es)) e
      rw [Ledger.ofEvents_concat, transitions_concat, hlength]
      cases ht : (Ledger.ofEvents es).transition? (reached .idle (transitions es)) e with
      | none => simpa using ih
      | some t =>
          rw [Option.toList_some, reached_concat]
          exact .next ih (next_of_transition? (reached_eq_pending_iff es) ht)

namespace Path

variable {ts : List Transition} {n : Nat} {s : State}

/-- What comes first on a path is a path. -/
theorem of_append {ts' : List Transition} (h : Path (ts ++ ts') n s) : ∃ n s, Path ts n s := by
  induction ts' using List.reverseRecOn generalizing n s with
  | nil =>
      rw [List.append_nil] at h
      exact ⟨n, s, h⟩
  | append_singleton ts' t ih =>
      rw [← List.append_assoc] at h
      generalize hall : ts ++ ts' ++ [t] = all at h
      cases h with
      | start => simp at hall
      | next hpath hnext =>
          obtain ⟨rfl, -⟩ := List.append_inj' hall rfl
          exact ih hpath

/-- A transition on a path goes where its cause leads. -/
theorem leadsTo (h : Path ts n s) : ∀ t ∈ ts, t.cause.LeadsTo t.state := by
  induction h with
  | start => exact nofun
  | next hpath hnext ih =>
      intro t ht
      rcases List.mem_append.mp ht with ht | ht
      · exact ih t ht
      · obtain rfl := List.mem_singleton.mp ht
        cases hnext with
        | accept | reset => rfl
        | succeed | fail | cancel => exact nofun

/-- **Which states follow each other** on a path. -/
theorem isChain (h : Path ts n s) :
    List.IsChain (fun s s' => s' ∈ s.successors) (.idle :: ts.map Transition.state) := by
  induction h with
  | start => exact .singleton _
  | @next ts n s t hpath hnext ih =>
      have hlast : (.idle :: ts.map Transition.state).getLast? = some s := by
        cases hpath with
        | start => rfl
        | next hpath hnext =>
            rw [List.map_append, ← List.cons_append]
            exact List.getLast?_concat
      have hstep : t.state ∈ s.successors := by
        cases hnext with
        | accept s => cases s <;> simp [State.successors]
        | succeed => simp [State.successors]
        | fail => simp [State.successors]
        | cancel => simp [State.successors]
        | reset h => rcases h with rfl | rfl <;> simp [State.successors]
      rw [List.map_append, ← List.cons_append]
      refine ih.append (.singleton _) fun x hx y hy => ?_
      rw [hlast] at hx
      cases hx
      cases hy
      exact hstep

/-- **Every run is accepted once**, by one transition to the pending state, and
these transitions stand in the order of the runs. -/
theorem accepted (h : Path ts n s) :
    ts.filter (fun t => t.state = .pending) =
      (List.range' 1 n).map fun run => ⟨.pending, .accepted run⟩ := by
  induction h with
  | start => rfl
  | next hpath hnext ih =>
      rw [List.filter_append, ih]
      cases hnext with
      | accept s =>
          simp [Transition.latest, Transition.accepted?, List.range'_1_concat, Nat.add_comm]
      | succeed => simp [Transition.latest, Transition.accepted?]
      | fail => simp [Transition.latest, Transition.accepted?]
      | cancel => simp [Transition.latest, Transition.accepted?]
      | reset h => simp [Transition.latest, Transition.accepted?]

/-- **What lies between two acceptances**: the run of the first one settles once at
most, and no other run settles. -/
theorem between {before between : List Transition} {run : Nat}
    (h : Path (before ++ ⟨.pending, .accepted run⟩ :: between) n s)
    (hbetween : ∀ t ∈ between, t.state ≠ .pending) :
    between.filterMap Transition.settled? = [] ∧ s = .pending ∧ n = run ∨
      between.filterMap Transition.settled? = [run] ∧ s ≠ .pending ∧ n = run := by
  induction between using List.reverseRecOn generalizing n s with
  | nil =>
      generalize hall : before ++ [⟨.pending, .accepted run⟩] = all at h
      cases h with
      | start => simp at hall
      | next hpath hnext =>
          obtain ⟨rfl, hlast⟩ := List.append_inj' hall rfl
          obtain rfl := List.singleton_inj.mp hlast
          exact .inl ⟨rfl, rfl, rfl⟩
  | append_singleton between t ih =>
      generalize hall : before ++ ⟨.pending, .accepted run⟩ :: (between ++ [t]) = all at h
      cases h with
      | start => simp at hall
      | next hpath hnext =>
          rw [← List.cons_append, ← List.append_assoc] at hall
          obtain ⟨rfl, hlast⟩ := List.append_inj' hall rfl
          obtain rfl := List.singleton_inj.mp hlast
          have hearlier := ih hpath fun t ht => hbetween t (List.mem_append_left _ ht)
          have hne := hbetween t (List.mem_append_right _ (List.mem_singleton_self t))
          rw [List.filterMap_append]
          rcases hearlier with ⟨hnone, rfl, rfl⟩ | ⟨hone, hsettled, rfl⟩
          · -- The run has not settled, so it may do so now.
            cases hnext with
            | accept => exact absurd rfl hne
            | succeed => exact .inr ⟨by rw [hnone]; rfl, nofun, rfl⟩
            | fail => exact .inr ⟨by rw [hnone]; rfl, nofun, rfl⟩
            | cancel => exact .inr ⟨by rw [hnone]; rfl, nofun, rfl⟩
            | reset h => exact absurd h (by simp)
          · -- It has settled, and only a reset can come before the next acceptance.
            cases hnext with
            | accept => exact absurd rfl hne
            | reset h => exact .inr ⟨by rw [hone]; rfl, nofun, rfl⟩
            | _ => exact absurd rfl hsettled

end Path

end QueryDesk.Execution
