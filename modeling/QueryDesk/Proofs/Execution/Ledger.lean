import QueryDesk.Execution.Coordinator

/-!
# The ledger of the runs

The coordinator keeps the number of the latest accepted run and a table of the
runs that have not settled; it forgets a run as soon as that is over.  What it
promises is about the runs themselves, so the theorems on it need the whole
life of every run.  The ledger is that record: it is written from the events
alone, one account for each accepted run in the order of acceptance, and it
never looks at a state, a result or the number of the latest run.

Run `n` of the coordinator is the `n`-th account, counted from one.

## Main results

* `Follows.step` — the table of the coordinator holds exactly the open accounts,
  and the latest number is the number of accounts.
-/

namespace QueryDesk.Execution

/-! ## Accounts -/

/-- How a run settles. -/
inductive Settlement where
  | succeeded (result : Result)
  | failed (failure : Failure)
  /-- It was cancelled while it waited for the executor, or for a thread to call it. -/
  | cancelled
  deriving Repr

/-- The settlement that an answer of the executor brings. -/
def Outcome.settlement : Outcome → Settlement
  | .success result => .succeeded result
  | .failure f => .failed f

/-- An accepted run and what has become of it. -/
structure Account where
  connection : String
  sql : String
  phase : Phase := .accepted
  /-- Whether it was cancelled before its first step, which it then never takes. -/
  dropped : Bool := false
  settlement : Option Settlement := none
  deriving Repr

namespace Account

/-- Whether the run has taken its first step. -/
def started (a : Account) : Bool := a.phase ≠ .accepted

/-- Whether the run may still take a step. -/
def isOpen (a : Account) : Bool := !a.dropped && a.settlement.isNone

/-- Whether the run waits for the executor, or for a thread to call it. -/
def waits (a : Account) : Bool := a.started && a.isOpen

/-- Whether the run waits for a thread. -/
def isQueued (a : Account) : Bool := a.phase = .queued && a.isOpen

/-- Whether the executor is at work for the run. -/
def atWork (a : Account) : Bool := a.phase = .called && a.isOpen

/-- The account after the first step of its run. -/
def start (queued : Bool) (a : Account) : Account :=
  if a.isOpen && !a.started then { a with phase := if queued then .queued else .called } else a

/-- The account after a thread becomes free for its run. -/
def call (a : Account) : Account := if a.isQueued then { a with phase := .called } else a

/-- The account after the executor's answer. -/
def settle (outcome : Outcome) (a : Account) : Account :=
  if a.atWork then { a with settlement := some outcome.settlement } else a

/-- The account after its run is cancelled. -/
def cancel (a : Account) : Account :=
  if a.waits then { a with settlement := some .cancelled }
  else if a.isOpen then { a with dropped := true }
  else a

/-- The entry for the run in a table of runs that have not settled. -/
def run? (a : Account) : Option Run :=
  if a.isOpen then some ⟨a.connection, a.sql, a.phase⟩ else none

/-- What the executor is asked for the run. -/
def statement (a : Account) : String × String := (a.connection, a.sql)

/-- The executor is at work only for a run that waits for it. -/
theorem waits_of_atWork {a : Account} (h : a.atWork = true) : a.waits = true := by
  obtain ⟨hphase, hopen⟩ := Bool.and_eq_true_iff.mp h
  have hcalled : a.phase = .called := of_decide_eq_true hphase
  simp [waits, started, hcalled, hopen]

/-- A run that waits for the executor waits for a thread, or the executor is at
work for it. -/
theorem waits_iff {a : Account} : a.waits = true ↔ a.isQueued = true ∨ a.atWork = true := by
  cases hphase : a.phase <;> simp [waits, started, isQueued, atWork, hphase]

theorem run?_settle (outcome : Outcome) (a : Account) :
    (a.settle outcome).run? = if a.atWork then none else a.run? := by
  unfold settle
  split
  · simp [run?, isOpen]
  · rfl

/-- A cancelled run is over, however far it had come. -/
theorem run?_cancel (a : Account) : a.cancel.run? = none := by
  unfold cancel
  split
  · simp [run?, isOpen]
  · split
    · simp [run?, isOpen]
    · rename_i hopen
      simp [run?, hopen]

end Account

/-- The account that a request opens; one without a connection opens none. -/
def opened? : Option String → String → Option Account
  | none, _ | some "", _ => none
  | some connection, sql => some { connection, sql }

/-- A new account is one of a run that has not taken a step. -/
theorem opened?_eq_some {connection : Option String} {sql : String} {a : Account}
    (h : opened? connection sql = some a) :
    a.connection ≠ "" ∧ connection = some a.connection ∧
      a = { connection := a.connection, sql } := by
  unfold opened? at h
  split at h
  · cases h
  · cases h
  · rename_i connection hne
    cases h
    exact ⟨hne, rfl, rfl⟩

/-! ## The ledger -/

/-- The accounts of the accepted runs, in the order of acceptance. -/
abbrev Ledger := List Account

namespace Ledger

/-- The account of a run. -/
def account? (l : Ledger) : Nat → Option Account
  | 0 => none
  | n + 1 => l[n]?

/-- Changes the account of a run, if it has one. -/
def amend (l : Ledger) (f : Account → Account) : Nat → Ledger
  | 0 => l
  | n + 1 => l.modify n f

/-- Enters an event. -/
def enter (l : Ledger) : Event → Ledger
  | .submit connection sql => l ++ (opened? connection sql).toList
  | .start run queued => l.amend (Account.start queued) run
  | .call run => l.amend Account.call run
  | .settle run outcome => l.amend (Account.settle outcome) run
  | .cancel run => l.amend Account.cancel run
  | .reset | .subscribe _ | .unsubscribe _ => l

/-- The ledger of some events. -/
def ofEvents (es : List Event) : Ledger := es.foldl enter []

@[simp] theorem ofEvents_concat (es : List Event) (e : Event) :
    ofEvents (es ++ [e]) = (ofEvents es).enter e := by
  simp [ofEvents]

@[simp] theorem length_amend (l : Ledger) (f : Account → Account) (run : Nat) :
    (l.amend f run).length = l.length := by
  cases run with
  | zero => rfl
  | succ n => exact List.length_modify ..

theorem account?_amend (l : Ledger) (f : Account → Account) (run n : Nat) :
    (l.amend f run).account? n =
      if n = run then (l.account? n).map f else l.account? n := by
  cases run with
  | zero =>
      cases n with
      | zero => rfl
      | succ n => rfl
  | succ m =>
      cases n with
      | zero => rfl
      | succ n =>
          simp only [amend, account?, List.getElem?_modify, Nat.add_right_cancel_iff]
          by_cases h : n = m
          · subst h
            simp
          · simp [h, Ne.symm h]

/-- A new account is that of the next run, and the others stay. -/
theorem account?_append (l : Ledger) (a : Account) (n : Nat) :
    (l ++ [a]).account? n = if n = l.length + 1 then some a else l.account? n := by
  cases n with
  | zero => rfl
  | succ n =>
      simp only [account?, Nat.add_right_cancel_iff]
      by_cases h : n = l.length
      · rw [if_pos h, h, List.getElem?_concat_length]
      · rw [if_neg h]
        rcases Nat.lt_or_gt_of_ne h with hlt | hgt
        · exact List.getElem?_append_left hlt
        · rw [List.getElem?_eq_none (by simp; omega), List.getElem?_eq_none (by omega)]

/-- Only accepted runs have an account. -/
theorem bounds_of_account? {l : Ledger} {n : Nat} {a : Account} (h : l.account? n = some a) :
    0 < n ∧ n ≤ l.length := by
  cases n with
  | zero => simp [account?] at h
  | succ n =>
      obtain ⟨hn, -⟩ := List.getElem?_eq_some_iff.mp h
      omega

/-- The account of the latest run. -/
theorem account?_length (l : Ledger) : l.account? l.length = l.getLast? := by
  cases h : l.length with
  | zero =>
      rw [List.length_eq_zero_iff.mp h]
      rfl
  | succ n => rw [List.getLast?_eq_getElem?, h]; rfl

end Ledger

/-! ## The coordinator follows the ledger -/

variable {σ : Type}

/-- The table of a coordinator holds the open accounts of a ledger. -/
structure Follows (c : Coordinator σ) (l : Ledger) : Prop where
  latest : c.latest = l.length
  runs : ∀ n, c.runs.get? n = (l.account? n).bind Account.run?

namespace Coordinator

/-- A coordinator to which nothing has happened yet. -/
def fresh (ring : Option History.Ring) (store : σ) : Coordinator σ := { ring, store }

@[simp] theorem transition_runs (c : Coordinator σ) (s : State) :
    (c.transition s).1.runs = c.runs := rfl

@[simp] theorem transition_latest (c : Coordinator σ) (s : State) :
    (c.transition s).1.latest = c.latest := rfl

/-- What becomes of the store when a query is recorded. -/
def archived (archive : Option (Archive σ)) (store : σ) (connection sql : String) : σ :=
  match archive with
  | none => store
  | some archive =>
    if Text.isBlankText sql then store else (archive.save store connection sql).1

/-- Recording a query touches the ring and the store alone, whatever the store
answers. -/
theorem record_fst (archive : Option (Archive σ)) (c : Coordinator σ)
    (connection sql : String) :
    (c.record archive connection sql).1 =
      { c with ring := c.ring.map fun r => (r.submit sql).1
               store := archived archive c.store connection sql } := by
  unfold record archived
  cases archive with
  | none => rfl
  | some archive =>
      simp only
      by_cases hblank : Text.isBlankText sql = true
      · simp only [hblank, if_true]
      · simp only [hblank]
        cases (archive.save c.store connection sql).2.1 with
        | ok => rfl
        | error f =>
            by_cases hsystem : f.kind = .system
            · simp [hsystem]
            · simp [hsystem]

/-- A request is accepted exactly if it opens an account. -/
theorem submit_eq (c : Coordinator σ) (connection : Option String) (sql : String) :
    c.submit connection sql =
      match opened? connection sql with
      | none =>
        (c, { reply := .rejected
              logs := [⟨.debug, logSource, "Rejected run: no connection selected", none⟩] })
      | some a =>
        let runs := c.runs.put (c.latest + 1) ⟨a.connection, a.sql, .accepted⟩
        let r := { c with latest := c.latest + 1, error := none, runs }.transition .pending
        (r.1, { reply := .accepted (c.latest + 1), notices := r.2 }) := by
  cases connection with
  | none => rfl
  | some connection =>
      by_cases hempty : connection = ""
      · subst hempty
        rfl
      · simp [submit, opened?]

/-- What the executor's answer does once its run is out of the table. -/
def answer (archive : Option (Archive σ)) (c : Coordinator σ) (run : Nat) (r : Run) :
    Outcome → Coordinator σ × Report
  | .success result => succeed archive c run r result
  | .failure f => c.fail run r f

theorem answer_runs (archive : Option (Archive σ)) (c : Coordinator σ) (run : Nat) (r : Run)
    (outcome : Outcome) : (answer archive c run r outcome).1.runs = c.runs := by
  cases outcome with
  | success result =>
      simp only [answer, succeed]
      split
      · rfl
      · simp only [record_fst]
        rfl
  | failure f =>
      simp only [answer, fail]
      split <;> rfl

theorem answer_latest (archive : Option (Archive σ)) (c : Coordinator σ) (run : Nat) (r : Run)
    (outcome : Outcome) : (answer archive c run r outcome).1.latest = c.latest := by
  cases outcome with
  | success result =>
      simp only [answer, succeed]
      split
      · rfl
      · simp only [record_fst]
        rfl
  | failure f =>
      simp only [answer, fail]
      split <;> rfl

end Coordinator

namespace Follows

open Coordinator

variable {c : Coordinator σ} {l : Ledger}

theorem fresh (ring : Option History.Ring) (store : σ) :
    Follows (Coordinator.fresh ring store) [] where
  latest := rfl
  runs n := by cases n <;> rfl

/-- The executor's answer reaches a run that it is at work for, and no other. -/
theorem settle_eq (h : Follows c l) (archive : Option (Archive σ)) (run : Nat)
    (outcome : Outcome) :
    settle archive c run outcome =
      match (l.account? run).filter Account.atWork with
      | none => (c, {})
      | some a =>
        answer archive { c with runs := c.runs.remove run } run
          ⟨a.connection, a.sql, .called⟩ outcome := by
  unfold settle
  rw [h.runs]
  cases ha : l.account? run with
  | none => rfl
  | some a =>
      by_cases hopen : a.isOpen = true
      · by_cases hcalled : a.phase = .called
        · simp only [Option.bind_some, Account.run?, Option.filter_some, Account.atWork, hopen,
            hcalled, if_true, Bool.and_self, decide_true, ne_eq, not_true_eq_false, if_false]
          cases outcome <;> rfl
        · simp [Account.run?, Account.atWork, Option.filter_some, hopen, hcalled]
      · simp [Account.run?, Account.atWork, Option.filter_some, hopen]

/-- A cancellation takes an open run out of the table; only one that waits for
the executor and is the latest is noticed. -/
theorem cancel_eq (h : Follows c l) (run : Nat) :
    c.cancel run =
      match (l.account? run).filter Account.isOpen with
      | none => (c, {})
      | some a =>
        let c := { c with runs := c.runs.remove run }
        if a.waits ∧ run = l.length then
          ((c.transition .idle).1,
            { reply := .cancelled, notices := (c.transition .idle).2 })
        else (c, { reply := .cancelled }) := by
  unfold Coordinator.cancel
  rw [h.runs]
  cases ha : l.account? run with
  | none => rfl
  | some a =>
      by_cases hopen : a.isOpen = true
      · have hstarted : Run.started ⟨a.connection, a.sql, a.phase⟩ = a.started := rfl
        simp [Account.run?, Account.waits, Option.filter_some, hopen, h.latest, hstarted]
      · simp [Account.run?, Option.filter_some, hopen]

/-- The first step of an open run calls the executor if a thread is free; there is
no second one. -/
theorem start_eq (h : Follows c l) (run : Nat) (queued : Bool) :
    c.start run queued =
      match (l.account? run).filter fun a => a.isOpen && !a.started with
      | none => (c, {})
      | some a =>
        if queued then
          ({ c with runs := c.runs.put run ⟨a.connection, a.sql, .queued⟩ }, {})
        else c.takeUp run ⟨a.connection, a.sql, .called⟩ := by
  unfold Coordinator.start
  rw [h.runs]
  cases ha : l.account? run with
  | none => rfl
  | some a =>
      by_cases hopen : a.isOpen = true
      · by_cases hstarted : a.started = true
        · have hrun : Run.started ⟨a.connection, a.sql, a.phase⟩ = true := hstarted
          simp [Account.run?, Option.filter_some, hopen, hstarted, hrun]
        · have hrun : ¬ Run.started ⟨a.connection, a.sql, a.phase⟩ = true := hstarted
          simp [Account.run?, Option.filter_some, hopen, hstarted, hrun, takeUp]
      · simp [Account.run?, Option.filter_some, hopen]

/-- A thread takes up the call of a run that has waited for one. -/
theorem call_eq (h : Follows c l) (run : Nat) :
    c.call run =
      match (l.account? run).filter Account.isQueued with
      | none => (c, {})
      | some a => c.takeUp run ⟨a.connection, a.sql, .called⟩ := by
  unfold Coordinator.call
  rw [h.runs]
  cases ha : l.account? run with
  | none => rfl
  | some a =>
      by_cases hopen : a.isOpen = true
      · by_cases hqueued : a.phase = .queued
        · simp [Account.run?, Account.isQueued, Option.filter_some, hopen, hqueued, takeUp]
        · simp [Account.run?, Account.isQueued, Option.filter_some, hopen, hqueued]
      · simp [Account.run?, Account.isQueued, Option.filter_some, hopen]

/-- A change of an account that leaves the entry of its run as it is. -/
theorem amend_of_run? (h : Follows c l) {run : Nat} {f : Account → Account}
    (hf : ∀ a, l.account? run = some a → (f a).run? = a.run?) : Follows c (l.amend f run) := by
  refine ⟨by rw [Ledger.length_amend, h.latest], fun n => ?_⟩
  rw [Ledger.account?_amend, h.runs]
  by_cases hn : n = run
  · subst hn
    rw [if_pos rfl]
    cases ha : l.account? n with
    | none => rfl
    | some a => exact (hf a ha).symm
  · rw [if_neg hn]

/-- A change of an account that ends its run. -/
theorem amend_remove (h : Follows c l) {c' : Coordinator σ} {run : Nat} {f : Account → Account}
    (hlatest : c'.latest = c.latest) (hruns : c'.runs = c.runs.remove run)
    (hf : ∀ a, l.account? run = some a → (f a).run? = none) : Follows c' (l.amend f run) := by
  refine ⟨by rw [Ledger.length_amend, hlatest, h.latest], fun n => ?_⟩
  rw [Ledger.account?_amend, hruns]
  by_cases hn : n = run
  · subst hn
    rw [if_pos rfl, OrderedMap.get?_remove_self]
    cases ha : l.account? n with
    | none => rfl
    | some a => exact (hf a ha).symm
  · rw [if_neg hn, OrderedMap.get?_remove_ne _ hn, h.runs]

/-- A change of an account that changes the entry of its run. -/
theorem amend_put (h : Follows c l) {c' : Coordinator σ} {run : Nat} {f : Account → Account}
    {r : Run} (hlatest : c'.latest = c.latest) (hruns : c'.runs = c.runs.put run r)
    {a : Account} (ha : l.account? run = some a) (hf : (f a).run? = some r) :
    Follows c' (l.amend f run) := by
  refine ⟨by rw [Ledger.length_amend, hlatest, h.latest], fun n => ?_⟩
  rw [Ledger.account?_amend, hruns]
  by_cases hn : n = run
  · subst hn
    rw [if_pos rfl, ha, OrderedMap.get?_put_self]
    exact hf.symm
  · rw [if_neg hn, OrderedMap.get?_put_ne _ _ hn, h.runs]

theorem submit (h : Follows c l) (connection : Option String) (sql : String) :
    Follows (c.submit connection sql).1 (l.enter (.submit connection sql)) := by
  show Follows (c.submit connection sql).1 (l ++ (opened? connection sql).toList)
  rw [submit_eq]
  cases hopened : opened? connection sql with
  | none => simpa using h
  | some a =>
      obtain ⟨-, -, ha⟩ := opened?_eq_some hopened
      refine ⟨by simp [h.latest], fun n => ?_⟩
      simp only [transition_runs, Option.toList_some, Ledger.account?_append, h.latest]
      by_cases hn : n = l.length + 1
      · rw [if_pos hn, hn, OrderedMap.get?_put_self, ha]
        rfl
      · rw [if_neg hn, OrderedMap.get?_put_ne _ _ hn, h.runs]

theorem start (h : Follows c l) (run : Nat) (queued : Bool) :
    Follows (c.start run queued).1 (l.enter (.start run queued)) := by
  show Follows (c.start run queued).1 (l.amend (Account.start queued) run)
  rw [h.start_eq]
  cases hfirst : (l.account? run).filter fun a => a.isOpen && !a.started with
  | none =>
      refine h.amend_of_run? fun a ha => ?_
      rw [Account.start, if_neg (Option.filter_eq_none_iff.mp hfirst a ha)]
  | some a =>
      obtain ⟨ha, hfilter⟩ := Option.filter_eq_some_iff.mp hfirst
      have hopen : a.isOpen = true := (Bool.and_eq_true_iff.mp hfilter).1
      have hrun : (a.start queued).run? =
          some ⟨a.connection, a.sql, if queued then .queued else .called⟩ := by
        rw [Account.start, if_pos hfilter, Account.run?]
        exact if_pos hopen
      cases queued with
      | false => exact h.amend_put rfl rfl ha hrun
      | true => exact h.amend_put rfl rfl ha hrun

theorem call (h : Follows c l) (run : Nat) : Follows (c.call run).1 (l.enter (.call run)) := by
  show Follows (c.call run).1 (l.amend Account.call run)
  rw [h.call_eq]
  cases hqueued : (l.account? run).filter Account.isQueued with
  | none =>
      refine h.amend_of_run? fun a ha => ?_
      rw [Account.call, if_neg (Option.filter_eq_none_iff.mp hqueued a ha)]
  | some a =>
      obtain ⟨ha, hfilter⟩ := Option.filter_eq_some_iff.mp hqueued
      have hopen : a.isOpen = true := (Bool.and_eq_true_iff.mp hfilter).2
      have hrun : a.call.run? = some ⟨a.connection, a.sql, .called⟩ := by
        rw [Account.call, if_pos hfilter, Account.run?]
        exact if_pos hopen
      exact h.amend_put rfl rfl ha hrun

theorem settle (h : Follows c l) (archive : Option (Archive σ)) (run : Nat) (outcome : Outcome) :
    Follows (Coordinator.settle archive c run outcome).1 (l.enter (.settle run outcome)) := by
  show Follows _ (l.amend (Account.settle outcome) run)
  rw [h.settle_eq]
  cases hwork : (l.account? run).filter Account.atWork with
  | none =>
      refine h.amend_of_run? fun a ha => ?_
      rw [Account.run?_settle, if_neg (Option.filter_eq_none_iff.mp hwork a ha)]
  | some a =>
      obtain ⟨ha, hw⟩ := Option.filter_eq_some_iff.mp hwork
      refine h.amend_remove (answer_latest ..) (answer_runs ..) fun b hb => ?_
      obtain rfl : a = b := Option.some.inj (ha.symm.trans hb)
      rw [Account.run?_settle, if_pos hw]

theorem cancel (h : Follows c l) (run : Nat) :
    Follows (c.cancel run).1 (l.enter (.cancel run)) := by
  show Follows (c.cancel run).1 (l.amend Account.cancel run)
  rw [h.cancel_eq]
  cases hopen : (l.account? run).filter Account.isOpen with
  | none =>
      refine h.amend_of_run? fun a ha => ?_
      rw [Account.run?_cancel, Account.run?, if_neg (Option.filter_eq_none_iff.mp hopen a ha)]
  | some a =>
      have hcancelled : ∀ b, l.account? run = some b → b.cancel.run? = none :=
        fun b _ => b.run?_cancel
      simp only
      split
      · exact h.amend_remove rfl rfl hcancelled
      · exact h.amend_remove rfl rfl hcancelled

theorem reset (h : Follows c l) : Follows c.reset.1 l := by
  unfold Coordinator.reset
  split
  · exact ⟨h.latest, h.runs⟩
  · exact h

/-- **The table follows the ledger**, whatever happens. -/
theorem step (h : Follows c l) (archive : Option (Archive σ)) (e : Event) :
    Follows (Coordinator.step archive c e).1 (l.enter e) := by
  cases e with
  | submit connection sql => exact h.submit connection sql
  | start run queued => exact h.start run queued
  | call run => exact h.call run
  | settle run outcome => exact h.settle archive run outcome
  | cancel run => exact h.cancel run
  | reset => exact h.reset
  | subscribe listener => exact ⟨h.latest, h.runs⟩
  | unsubscribe name => exact ⟨h.latest, h.runs⟩

end Follows

end QueryDesk.Execution
