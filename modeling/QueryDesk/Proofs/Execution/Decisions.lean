import QueryDesk.Proofs.Execution.Moves

/-!
# Starts, calls and decisions

Three lists are read off the events with the help of the ledger: the runs that
take their first step, in the order of these steps; the runs that a thread calls
the executor for, in the order of the calls; and the *decisions*, that is the
answers of the executor that reach a run while it is the latest.  What the
coordinator does to the outside world, it does once for each entry of one of
these lists, so the lists must not repeat a run; the accounts see to that, since
an account that is marked stays marked.

A first step hands the call of the executor to the threads, and that need not
lead to a call: the run may be cancelled while it waits for a thread.  There is
no other way.

## Main results

* `account?_enter`, `account?_of_enter` — an account is altered as its event says,
  and comes from nowhere but an accepted request.
* `Marks.nodup`, `Marks.mem_iff` — what marks an account does so once, and to the
  accounts that are marked.
* `marks_starts`, `marks_calls` — every started run starts once, and every called
  run is called once.
* `called_or_uncalled` — a run that started is called, waits for a thread, or was
  cancelled while it did.
* `calls_eq_starts` — while there is always a thread free, every run that starts is
  called.
* `nodup_decisions`, `account?_of_decision` — a decision settles its run, and no
  run is decided twice.
-/

namespace QueryDesk.Execution

/-! ## What an account keeps -/

namespace Account

/-- A run that is still open has not settled. -/
theorem settlement_of_isOpen {a : Account} (h : a.isOpen = true) : a.settlement = none := by
  simpa using (Bool.and_eq_true_iff.mp h).2

theorem settlement_of_waits {a : Account} (h : a.waits = true) : a.settlement = none :=
  settlement_of_isOpen (Bool.and_eq_true_iff.mp h).2

end Account

/-- Whatever was known of a run is still known of it. -/
structure Account.Extends (a b : Account) : Prop where
  statement : b.statement = a.statement
  started : a.started = true → b.started = true
  called : a.phase = .called → b.phase = .called
  settlement : ∀ s, a.settlement = some s → b.settlement = some s

namespace Account.Extends

theorem refl (a : Account) : a.Extends a := ⟨rfl, id, id, fun _ => id⟩

theorem start (queued : Bool) (a : Account) : a.Extends (a.start queued) := by
  unfold Account.start
  split
  · rename_i hfirst
    have hstarted : ¬ a.started = true := by simpa using (Bool.and_eq_true_iff.mp hfirst).2
    refine ⟨rfl, fun h => absurd h hstarted, fun h => absurd ?_ hstarted, fun _ => id⟩
    rw [Account.started, h]
    rfl
  · exact refl a

theorem call (a : Account) : a.Extends a.call := by
  unfold Account.call
  split
  · exact ⟨rfl, fun _ => rfl, fun _ => rfl, fun _ => id⟩
  · exact refl a

theorem settle (outcome : Outcome) (a : Account) : a.Extends (a.settle outcome) := by
  unfold Account.settle
  split
  · rename_i hw
    refine ⟨rfl, id, id, fun s hs => ?_⟩
    rw [settlement_of_waits (waits_of_atWork hw)] at hs
    cases hs
  · exact refl a

theorem cancel (a : Account) : a.Extends a.cancel := by
  unfold Account.cancel
  split
  · rename_i hw
    refine ⟨rfl, id, id, fun s hs => ?_⟩
    rw [settlement_of_waits hw] at hs
    cases hs
  · split
    · exact ⟨rfl, id, id, fun _ => id⟩
    · exact refl a

end Account.Extends

@[simp] theorem Account.phase_settle (outcome : Outcome) (a : Account) :
    (a.settle outcome).phase = a.phase := by
  unfold Account.settle
  split <;> rfl

@[simp] theorem Account.phase_cancel (a : Account) : a.cancel.phase = a.phase := by
  unfold Account.cancel
  split
  · rfl
  · split <;> rfl

/-- What an event does to the account of a run. -/
def Event.alter (n : Nat) : Event → Account → Account
  | .start run queued => if n = run then Account.start queued else id
  | .call run => if n = run then Account.call else id
  | .settle run outcome => if n = run then Account.settle outcome else id
  | .cancel run => if n = run then Account.cancel else id
  | .submit .. | .reset | .subscribe _ | .unsubscribe _ => id

theorem Event.extends_alter (e : Event) (n : Nat) (a : Account) : a.Extends (e.alter n a) := by
  cases e with
  | start run queued =>
      simp only [alter]
      split
      · exact .start queued a
      · exact .refl a
  | call run =>
      simp only [alter]
      split
      · exact .call a
      · exact .refl a
  | settle run outcome =>
      simp only [alter]
      split
      · exact .settle outcome a
      · exact .refl a
  | cancel run =>
      simp only [alter]
      split
      · exact .cancel a
      · exact .refl a
  | _ => exact .refl a

/-- A run that is over is not altered any more. -/
theorem Event.alter_of_not_isOpen (e : Event) (n : Nat) {a : Account} (h : ¬ a.isOpen = true) :
    e.alter n a = a := by
  have hwaits : ¬ a.waits = true := fun hw => h (Bool.and_eq_true_iff.mp hw).2
  have hwork : ¬ a.atWork = true := fun hw => h (Bool.and_eq_true_iff.mp hw).2
  have hqueued : ¬ a.isQueued = true := fun hw => h (Bool.and_eq_true_iff.mp hw).2
  have hfirst : ¬ (a.isOpen && !a.started) = true := fun hf => h (Bool.and_eq_true_iff.mp hf).1
  cases e with
  | start run queued =>
      simp only [alter]
      split
      · rw [Account.start, if_neg hfirst]
      · rfl
  | call run =>
      simp only [alter]
      split
      · rw [Account.call, if_neg hqueued]
      · rfl
  | settle run outcome =>
      simp only [alter]
      split
      · rw [Account.settle, if_neg hwork]
      · rfl
  | cancel run =>
      simp only [alter]
      split
      · rw [Account.cancel, if_neg hwaits, if_neg h]
      · rfl
  | _ => rfl

namespace Ledger

theorem account?_amend_of_some {l : Ledger} {n : Nat} {a : Account} (ha : l.account? n = some a)
    (f : Account → Account) (run : Nat) :
    (l.amend f run).account? n = some ((if n = run then f else id) a) := by
  rw [account?_amend, ha]
  by_cases hn : n = run
  · rw [if_pos hn, if_pos hn]
    rfl
  · rw [if_neg hn, if_neg hn]
    rfl

/-- **What becomes of an account** is what its event makes of it. -/
theorem account?_enter {l : Ledger} {n : Nat} {a : Account} (ha : l.account? n = some a)
    (e : Event) : (l.enter e).account? n = some (e.alter n a) := by
  cases e with
  | submit connection sql =>
      simp only [enter, Event.alter, id]
      cases opened? connection sql with
      | none => simpa using ha
      | some new =>
          have hn : n ≠ l.length + 1 := by
            have := bounds_of_account? ha
            omega
          rw [Option.toList_some, account?_append, if_neg hn, ha]
  | start run queued => exact account?_amend_of_some ha _ run
  | call run => exact account?_amend_of_some ha _ run
  | settle run outcome => exact account?_amend_of_some ha _ run
  | cancel run => exact account?_amend_of_some ha _ run
  | reset => exact ha
  | subscribe listener => exact ha
  | unsubscribe name => exact ha

/-- **Where an account comes from.**  It was there before its event altered it, or
its request is accepted now. -/
theorem account?_of_enter {l : Ledger} {e : Event} {n : Nat} {b : Account}
    (hb : (l.enter e).account? n = some b) :
    (∃ a, l.account? n = some a ∧ b = e.alter n a) ∨
      ∃ connection sql, e = .submit connection sql ∧ opened? connection sql = some b := by
  cases ha : l.account? n with
  | some a => exact .inl ⟨a, rfl, Option.some.inj (hb.symm.trans (account?_enter ha e))⟩
  | none =>
      right
      have hamend : ∀ (f : Account → Account) (run : Nat),
          (l.amend f run).account? n ≠ some b := by
        intro f run h
        rw [account?_amend, ha] at h
        split at h <;> cases h
      cases e with
      | submit connection sql =>
          refine ⟨connection, sql, rfl, ?_⟩
          simp only [enter] at hb
          cases hopened : opened? connection sql with
          | none =>
              rw [hopened, Option.toList_none, List.append_nil, ha] at hb
              cases hb
          | some new =>
              rw [hopened, Option.toList_some, account?_append, ha] at hb
              split at hb
              · exact hb
              · cases hb
      | start run queued => exact absurd hb (hamend _ run)
      | call run => exact absurd hb (hamend _ run)
      | settle run outcome => exact absurd hb (hamend _ run)
      | cancel run => exact absurd hb (hamend _ run)
      | reset => exact absurd (ha.symm.trans hb) nofun
      | subscribe listener => exact absurd (ha.symm.trans hb) nofun
      | unsubscribe name => exact absurd (ha.symm.trans hb) nofun

/-- A run that was accepted has a connection. -/
theorem connection_ne_empty {es : List Event} {n : Nat} {a : Account}
    (ha : (ofEvents es).account? n = some a) : a.connection ≠ "" := by
  induction es using List.reverseRecOn generalizing a with
  | nil => cases n <;> cases ha
  | append_singleton es e ih =>
      rw [ofEvents_concat] at ha
      rcases account?_of_enter ha with ⟨b, hb, rfl⟩ | ⟨connection, sql, -, hopened⟩
      · have hconnection : (e.alter n b).connection = b.connection :=
          congrArg Prod.fst (e.extends_alter n b).statement
        rw [hconnection]
        exact ih hb
      · exact (opened?_eq_some hopened).1

end Ledger

/-! ## Accounts without a call -/

/-- What holds of every account. -/
structure Account.Sound (a : Account) : Prop where
  /-- A dropped run has taken no step and has not settled. -/
  dropped : a.dropped = true → a.started = false ∧ a.settlement = none
  /-- A run that the executor was not called for can only be cancelled. -/
  uncalled : a.phase ≠ .called → ∀ s, a.settlement = some s → s = .cancelled

/-- What is known of a run that is open. -/
theorem Account.Sound.of_isOpen {a b : Account} (hopen : a.isOpen = true)
    (hdropped : b.dropped = a.dropped) (hsettlement : b.settlement = a.settlement) : b.Sound := by
  have hnone : b.settlement = none := hsettlement.trans (settlement_of_isOpen hopen)
  have hnot : ¬ b.dropped = true := by
    intro h
    simp [isOpen, ← hdropped, h] at hopen
  refine ⟨fun h => absurd h hnot, fun _ s hs => ?_⟩
  rw [hnone] at hs
  cases hs

theorem Account.Sound.alter {a : Account} (h : a.Sound) (e : Event) (n : Nat) :
    (e.alter n a).Sound := by
  by_cases hopen : a.isOpen = true
  · have hnot : ¬ a.dropped = true := fun hd => by simp [Account.isOpen, hd] at hopen
    cases e with
    | start run queued =>
        simp only [Event.alter]
        split
        · refine of_isOpen hopen ?_ ?_ <;> (unfold Account.start; split <;> rfl)
        · exact h
    | call run =>
        simp only [Event.alter]
        split
        · refine of_isOpen hopen ?_ ?_ <;> (unfold Account.call; split <;> rfl)
        · exact h
    | settle run outcome =>
        simp only [Event.alter]
        split
        · unfold Account.settle
          split
          · rename_i hw
            have hcalled : a.phase = .called := of_decide_eq_true (Bool.and_eq_true_iff.mp hw).1
            exact ⟨fun hd => absurd hd hnot, fun hp => absurd hcalled hp⟩
          · exact h
        · exact h
    | cancel run =>
        simp only [Event.alter]
        split
        · unfold Account.cancel
          split
          · exact ⟨fun hd => absurd hd hnot, fun _ s hs => (Option.some.inj hs).symm⟩
          · rename_i hwaits
            have hstarted : a.started = false := by simpa [Account.waits, hopen] using hwaits
            have hsettlement : a.settlement = none := Account.settlement_of_isOpen hopen
            exact ⟨fun _ => ⟨hstarted, hsettlement⟩, h.uncalled⟩
        · exact h
    | _ => exact h
  · rw [e.alter_of_not_isOpen n hopen]
    exact h

namespace Ledger

/-- Whatever happens, every account is sound. -/
theorem sound_ofEvents (es : List Event) (n : Nat) (a : Account)
    (ha : (ofEvents es).account? n = some a) : a.Sound := by
  induction es using List.reverseRecOn generalizing a with
  | nil => cases n <;> cases ha
  | append_singleton es e ih =>
      rw [ofEvents_concat] at ha
      rcases account?_of_enter ha with ⟨b, hb, rfl⟩ | ⟨connection, sql, -, hopened⟩
      · exact (ih b hb).alter e n
      · rw [(opened?_eq_some hopened).2.2]
        exact ⟨nofun, fun _ => nofun⟩

/-- **A run that starts is called**, unless it still waits for a thread or was
cancelled while it did. -/
theorem called_or_uncalled {es : List Event} {n : Nat} {a : Account}
    (ha : (ofEvents es).account? n = some a) (hstarted : a.started = true) :
    a.phase = .called ∨ a.isQueued = true ∨
      a.phase = .queued ∧ a.settlement = some .cancelled := by
  have hsound := sound_ofEvents es n a ha
  cases hphase : a.phase with
  | accepted => simp [Account.started, hphase] at hstarted
  | called => exact .inl rfl
  | queued =>
      right
      have hnot : a.dropped = false := by
        by_contra hd
        simp [(hsound.dropped (by simpa using hd)).1] at hstarted
      cases hs : a.settlement with
      | none => exact .inl (by simp [Account.isQueued, Account.isOpen, hphase, hnot, hs])
      | some s => exact .inr ⟨rfl, by rw [hsound.uncalled (by simp [hphase]) s hs]⟩

end Ledger

/-! ## Lists read off the events -/

namespace Ledger

/-- What is found in events one by one, each with the ledger before it. -/
def collect {α : Type} (find : Ledger → Event → Option α) : Ledger → List Event → List α
  | _, [] => []
  | l, e :: es => (find l e).toList ++ collect find (l.enter e) es

theorem collect_concat {α : Type} (find : Ledger → Event → Option α) (l : Ledger)
    (es : List Event) (e : Event) :
    collect find l (es ++ [e]) = collect find l es ++ (find (es.foldl enter l) e).toList := by
  induction es generalizing l with
  | nil => simp [collect]
  | cons d ds ih => simp only [List.cons_append, collect, List.foldl_cons, ih, List.append_assoc]

/-- The run that takes its first step in an event. -/
def firstStep? (l : Ledger) : Event → Option (Nat × Account)
  | .start run _ =>
    ((l.account? run).filter fun a => a.isOpen && !a.started).map fun a => (run, a)
  | _ => none

/-- The run that a thread calls the executor for in an event. -/
def call? (l : Ledger) : Event → Option (Nat × Account)
  | .start run false =>
    ((l.account? run).filter fun a => a.isOpen && !a.started).map fun a => (run, a)
  | .call run => ((l.account? run).filter Account.isQueued).map fun a => (run, a)
  | _ => none

end Ledger

/-- An answer of the executor that reaches a run while it is the latest. -/
structure Decision where
  run : Nat
  /-- The account of the run up to then. -/
  account : Account
  outcome : Outcome

namespace Ledger

/-- The decision that an event brings. -/
def decision? (l : Ledger) : Event → Option Decision
  | .settle run outcome => (l.worked? run).map fun a => ⟨run, a, outcome⟩
  | _ => none

end Ledger

/-- The runs that take their first step in some events, with their accounts up to then. -/
def starts (es : List Event) : List (Nat × Account) := Ledger.collect Ledger.firstStep? [] es

/-- The runs that the executor is called for in some events, with their accounts
up to then. -/
def calls (es : List Event) : List (Nat × Account) := Ledger.collect Ledger.call? [] es

/-- The decisions in some events. -/
def decisions (es : List Event) : List Decision := Ledger.collect Ledger.decision? [] es

@[simp] theorem calls_concat (es : List Event) (e : Event) :
    calls (es ++ [e]) = calls es ++ ((Ledger.ofEvents es).call? e).toList :=
  Ledger.collect_concat ..

@[simp] theorem decisions_concat (es : List Event) (e : Event) :
    decisions (es ++ [e]) = decisions es ++ ((Ledger.ofEvents es).decision? e).toList :=
  Ledger.collect_concat ..

/-- A list read off the events repeats no run if each entry finds its run
unmarked and leaves it marked from then on. -/
theorem nodup_collect {α : Type} {find : Ledger → Event → Option α} {run : α → Nat}
    (mark : Account → Prop)
    (hmarked : ∀ es, ∀ x ∈ Ledger.collect find [] es,
      ∃ a, (Ledger.ofEvents es).account? (run x) = some a ∧ mark a)
    (hunmarked : ∀ l e x, find l e = some x → ∀ a, l.account? (run x) = some a → ¬ mark a)
    (es : List Event) : ((Ledger.collect find [] es).map run).Nodup := by
  induction es using List.reverseRecOn with
  | nil => exact List.nodup_nil
  | append_singleton es e ih =>
      rw [Ledger.collect_concat, List.map_append]
      cases hx : find (Ledger.ofEvents es) e with
      | none =>
          have hnone : find (es.foldl Ledger.enter []) e = none := hx
          simpa [hnone] using ih
      | some x =>
          have hsome : find (es.foldl Ledger.enter []) e = some x := hx
          rw [hsome]
          refine List.nodup_append.mpr ⟨ih, List.nodup_singleton _, ?_⟩
          intro n hn m hm heq
          obtain ⟨y, hy, rfl⟩ := List.mem_map.mp hn
          obtain rfl : m = run x := by simpa using hm
          obtain ⟨a, ha, hmark⟩ := hmarked es y hy
          exact hunmarked _ e x hx a (heq ▸ ha) hmark

/-! ## Every run starts once and is called once -/

/-- What is found in an event marks the account of its run, which was not marked
before; nothing else marks an account. -/
structure Marks (find : Ledger → Event → Option (Nat × Account)) (mark : Account → Prop) :
    Prop where
  keeps : ∀ {a b : Account}, a.Extends b → mark a → mark b
  opened : ∀ {connection : Option String} {sql : String} {a : Account},
    opened? connection sql = some a → ¬ mark a
  found : ∀ {l : Ledger} {e : Event} {p : Nat × Account}, find l e = some p →
    l.account? p.1 = some p.2 ∧ ¬ mark p.2 ∧ mark (e.alter p.1 p.2)
  only : ∀ {l : Ledger} {e : Event} {n : Nat} {a : Account}, l.account? n = some a →
    mark (e.alter n a) → mark a ∨ find l e = some (n, a)

namespace Marks

variable {find : Ledger → Event → Option (Nat × Account)} {mark : Account → Prop}

/-- What was found has marked its run, whose statement is still the same. -/
theorem account? (h : Marks find mark) {es : List Event} {p : Nat × Account}
    (hp : p ∈ Ledger.collect find [] es) :
    ∃ a, (Ledger.ofEvents es).account? p.1 = some a ∧ mark a ∧ a.statement = p.2.statement := by
  induction es using List.reverseRecOn with
  | nil => cases hp
  | append_singleton es e ih =>
      rw [Ledger.collect_concat, List.mem_append] at hp
      rw [Ledger.ofEvents_concat]
      rcases hp with hp | hp
      · obtain ⟨a, ha, hmark, hstatement⟩ := ih hp
        have hext := e.extends_alter p.1 a
        exact ⟨_, Ledger.account?_enter ha e, h.keeps hext hmark, hext.statement.trans hstatement⟩
      · obtain ⟨ha, -, hmark⟩ := h.found (Option.mem_toList.mp hp)
        exact ⟨_, Ledger.account?_enter ha e, hmark, (e.extends_alter p.1 p.2).statement⟩

/-- **No run is found twice.** -/
theorem nodup (h : Marks find mark) (es : List Event) :
    ((Ledger.collect find [] es).map (·.1)).Nodup := by
  refine nodup_collect mark (fun es p hp => ?_) ?_ es
  · obtain ⟨a, ha, hmark, -⟩ := h.account? hp
    exact ⟨a, ha, hmark⟩
  · intro l e p hp a ha hmark
    obtain ⟨hp, hnot, -⟩ := h.found hp
    rw [hp] at ha
    cases ha
    exact hnot hmark

/-- **The runs that are found are those that are marked.** -/
theorem mem_iff (h : Marks find mark) (es : List Event) (run : Nat) :
    run ∈ (Ledger.collect find [] es).map (·.1) ↔
      ∃ a, (Ledger.ofEvents es).account? run = some a ∧ mark a := by
  constructor
  · intro hrun
    obtain ⟨p, hp, rfl⟩ := List.mem_map.mp hrun
    obtain ⟨a, ha, hmark, -⟩ := h.account? hp
    exact ⟨a, ha, hmark⟩
  · induction es using List.reverseRecOn with
    | nil =>
        rintro ⟨a, ha, -⟩
        cases run <;> cases ha
    | append_singleton es e ih =>
        rintro ⟨b, hb, hmark⟩
        rw [Ledger.ofEvents_concat] at hb
        rw [Ledger.collect_concat, List.map_append, List.mem_append]
        rcases Ledger.account?_of_enter hb with ⟨a, ha, rfl⟩ | ⟨connection, sql, -, hopened⟩
        · rcases h.only ha hmark with hbefore | hfound
          · exact .inl (ih ⟨a, ha, hbefore⟩)
          · have hfound : find (es.foldl Ledger.enter []) e = some (run, a) := hfound
            exact .inr (by simp [hfound])
        · exact absurd hmark (h.opened hopened)

end Marks

/-- A new account is that of a run that was accepted and no more. -/
theorem phase_of_opened {connection : Option String} {sql : String} {a : Account}
    (h : opened? connection sql = some a) : a.phase = .accepted := by
  rw [(opened?_eq_some h).2.2]

/-- The first step of an account that has not taken it. -/
theorem Account.phase_start {a : Account} (h : (a.isOpen && !a.started) = true) (queued : Bool) :
    (a.start queued).phase = if queued then .queued else .called := by
  rw [Account.start, if_pos h]

/-- **What changes the phase of a run**: its first step, and the thread that takes up its
call. -/
inductive PhaseChange (n : Nat) (a : Account) : Event → Account → Prop where
  | none {e : Event} {b : Account} (h : b.phase = a.phase) : PhaseChange n a e b
  | start {queued : Bool} {b : Account} (hfirst : (a.isOpen && !a.started) = true)
      (h : b.phase = if queued then .queued else .called) : PhaseChange n a (.start n queued) b
  | call {b : Account} (hqueued : a.isQueued = true) (h : b.phase = .called) :
      PhaseChange n a (.call n) b

theorem phaseChange_alter (e : Event) (n : Nat) (a : Account) :
    PhaseChange n a e (e.alter n a) := by
  cases e with
  | start run queued =>
      rw [Event.alter]
      split
      · rename_i hn
        subst hn
        by_cases hfirst : (a.isOpen && !a.started) = true
        · exact .start hfirst (Account.phase_start hfirst queued)
        · exact .none (by rw [Account.start, if_neg hfirst])
      · exact .none rfl
  | call run =>
      rw [Event.alter]
      split
      · rename_i hn
        subst hn
        by_cases hqueued : a.isQueued = true
        · exact .call hqueued (by rw [Account.call, if_pos hqueued])
        · exact .none (by rw [Account.call, if_neg hqueued])
      · exact .none rfl
  | settle run outcome =>
      rw [Event.alter]
      split
      · exact .none (Account.phase_settle outcome a)
      · exact .none rfl
  | cancel run =>
      rw [Event.alter]
      split
      · exact .none (Account.phase_cancel a)
      · exact .none rfl
  | _ => exact .none rfl

/-- **Every run that starts does so once.** -/
theorem marks_starts : Marks Ledger.firstStep? fun a => a.started = true where
  keeps hext := hext.started
  opened hopened := by simp [Account.started, phase_of_opened hopened]
  found := by
    intro l e p hp
    cases e with
    | start run queued =>
        obtain ⟨a, ha, rfl⟩ := Option.map_eq_some_iff.mp hp
        obtain ⟨ha, hfirst⟩ := Option.filter_eq_some_iff.mp ha
        refine ⟨ha, by simpa using (Bool.and_eq_true_iff.mp hfirst).2, ?_⟩
        simp only [Event.alter, if_true, Account.started, Account.phase_start hfirst]
        cases queued <;> rfl
    | _ => cases hp
  only := by
    intro l e n a ha hstarted
    rcases phaseChange_alter e n a with h | ⟨hfirst, -⟩ | ⟨hqueued, -⟩
    · exact .inl (by simpa [Account.started, h] using hstarted)
    · exact .inr (by simp [Ledger.firstStep?, ha, Option.filter_some, hfirst])
    · have hphase : a.phase = .queued := of_decide_eq_true (Bool.and_eq_true_iff.mp hqueued).1
      exact .inl (by simp [Account.started, hphase])

/-- **Every run that the executor is called for is called for once.** -/
theorem marks_calls : Marks Ledger.call? fun a => a.phase = .called where
  keeps hext := hext.called
  opened hopened := by simp [phase_of_opened hopened]
  found := by
    intro l e p hp
    cases e with
    | start run queued =>
        cases queued with
        | true => cases hp
        | false =>
            obtain ⟨a, ha, rfl⟩ := Option.map_eq_some_iff.mp hp
            obtain ⟨ha, hfirst⟩ := Option.filter_eq_some_iff.mp ha
            have hphase : a.phase = .accepted := by
              simpa [Account.started] using (Bool.and_eq_true_iff.mp hfirst).2
            refine ⟨ha, by simp [hphase], ?_⟩
            simp [Event.alter, Account.phase_start hfirst]
    | call run =>
        obtain ⟨a, ha, rfl⟩ := Option.map_eq_some_iff.mp hp
        obtain ⟨ha, hqueued⟩ := Option.filter_eq_some_iff.mp ha
        have hphase : a.phase = .queued := of_decide_eq_true (Bool.and_eq_true_iff.mp hqueued).1
        refine ⟨ha, by simp [hphase], ?_⟩
        rw [Event.alter, if_pos rfl, Account.call, if_pos hqueued]
    | _ => cases hp
  only := by
    intro l e n a ha hcalled
    cases phaseChange_alter e n a with
    | none h => exact .inl (h ▸ hcalled)
    | @start queued _ hfirst h =>
        rw [h] at hcalled
        cases queued with
        | true => cases hcalled
        | false => exact .inr (by simp [Ledger.call?, ha, Option.filter_some, hfirst])
    | call hqueued h => exact .inr (by simp [Ledger.call?, ha, Option.filter_some, hqueued])

/-! ## Threads that are free -/

/-- A run waits for a thread only from its first step on. -/
theorem queued_of_alter {e : Event} {n : Nat} {a : Account}
    (h : (e.alter n a).phase = .queued) : a.phase = .queued ∨ e = .start n true := by
  cases phaseChange_alter e n a with
  | none hsame => exact .inl (hsame ▸ h)
  | @start queued _ hfirst hphase =>
      rw [hphase] at h
      cases queued with
      | false => cases h
      | true => exact .inr rfl
  | call hqueued hphase =>
      rw [hphase] at h
      cases h

/-- While there is always a thread free, no run waits for one. -/
theorem not_queued_of_free {es : List Event} (h : ∀ run, .start run true ∉ es) {n : Nat}
    {a : Account} (ha : (Ledger.ofEvents es).account? n = some a) : a.phase ≠ .queued := by
  induction es using List.reverseRecOn generalizing a with
  | nil => cases n <;> cases ha
  | append_singleton es e ih =>
      have hbefore : ∀ run, .start run true ∉ es := fun run hrun => h run (by simp [hrun])
      rw [Ledger.ofEvents_concat] at ha
      intro hqueued
      rcases Ledger.account?_of_enter ha with ⟨b, hb, rfl⟩ | ⟨connection, sql, -, hopened⟩
      · rcases queued_of_alter hqueued with hb' | rfl
        · exact ih hbefore hb hb'
        · exact h n (by simp)
      · simp [phase_of_opened hopened] at hqueued

/-- **While there is always a thread free, the first steps are the calls.** -/
theorem calls_eq_starts {es : List Event} (h : ∀ run, .start run true ∉ es) :
    calls es = starts es := by
  induction es using List.reverseRecOn with
  | nil => rfl
  | append_singleton es e ih =>
      have hbefore : ∀ run, .start run true ∉ es := fun run hrun => h run (by simp [hrun])
      rw [calls, starts, Ledger.collect_concat, Ledger.collect_concat]
      refine congrArg₂ _ (ih hbefore) (congrArg _ ?_)
      show (Ledger.ofEvents es).call? e = (Ledger.ofEvents es).firstStep? e
      cases e with
      | start run queued =>
          cases queued with
          | false => rfl
          | true => exact absurd (by simp) (h run)
      | call run =>
          have hnone : ((Ledger.ofEvents es).account? run).filter Account.isQueued = none := by
            rw [Option.filter_eq_none_iff]
            intro a ha hqueued
            exact not_queued_of_free hbefore ha
              (of_decide_eq_true (Bool.and_eq_true_iff.mp hqueued).1)
          simp only [Ledger.call?, hnone]
          rfl
      | _ => rfl

/-! ## No run is decided twice -/

theorem decision?_eq_some {l : Ledger} {e : Event} {d : Decision} (h : l.decision? e = some d) :
    e = .settle d.run d.outcome ∧ l.worked? d.run = some d.account := by
  cases e with
  | settle run outcome =>
      obtain ⟨a, ha, rfl⟩ := Option.map_eq_some_iff.mp h
      exact ⟨rfl, ha⟩
  | _ => cases h

/-- A decision settles its run for good. -/
theorem account?_of_decision {es : List Event} {d : Decision} (hd : d ∈ decisions es) :
    ∃ a, (Ledger.ofEvents es).account? d.run = some a ∧
      a.settlement = some d.outcome.settlement ∧ a.statement = d.account.statement := by
  induction es using List.reverseRecOn with
  | nil => cases hd
  | append_singleton es e ih =>
      rw [decisions_concat, List.mem_append] at hd
      rw [Ledger.ofEvents_concat]
      rcases hd with hd | hd
      · obtain ⟨a, ha, hsettlement, hstatement⟩ := ih hd
        have hext := e.extends_alter d.run a
        exact ⟨_, Ledger.account?_enter ha e, hext.settlement _ hsettlement,
          hext.statement.trans hstatement⟩
      · obtain ⟨rfl, hworked⟩ := decision?_eq_some (Option.mem_toList.mp hd)
        obtain ⟨-, ha, hw⟩ := Ledger.worked?_eq_some.mp hworked
        refine ⟨d.account.settle d.outcome, ?_, ?_,
          (Account.Extends.settle d.outcome d.account).statement⟩
        · simp only [Ledger.enter, Ledger.account?_amend, ha, if_true, Option.map_some]
        · rw [Account.settle, if_pos hw]

/-- **No run is decided twice.** -/
theorem nodup_decisions (es : List Event) : ((decisions es).map Decision.run).Nodup := by
  refine nodup_collect (fun a => a.settlement ≠ none) (fun es d hd => ?_) ?_ es
  · obtain ⟨a, ha, hsettlement, -⟩ := account?_of_decision hd
    exact ⟨a, ha, by rw [hsettlement]; exact Option.some_ne_none _⟩
  · intro l e d hd a ha hsettled
    obtain ⟨-, hworked⟩ := decision?_eq_some hd
    obtain ⟨-, hd, hw⟩ := Ledger.worked?_eq_some.mp hworked
    rw [hd] at ha
    cases ha
    exact hsettled (Account.settlement_of_waits (Account.waits_of_atWork hw))

end QueryDesk.Execution
