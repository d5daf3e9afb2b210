import Mathlib.Data.List.Sigma
import QueryDesk.Proofs.Execution.Notices

/-!
# Subscriptions and their own unsubscribings

Every subscription is answered with an unsubscribing of its own, but a
coordinator knows its subscriptions by their listeners only: calling an
unsubscribing ends the first subscription of the listener that is still there,
whichever it is.  What should be told is therefore kept in a book of the calls,
which numbers the subscriptions and never looks at the coordinator, and the
subscriptions that stand are compared with it.

Of each listener the latest subscriptions stand, and as many of them as are left
when every call ends one while there is one.  So a call that is made twice can
end the subscription of somebody else, and a listener that has several can lose
its place among the others.  Neither happens as long as every listener has one
subscription at most, and the count is right as long as no unsubscribing is
called twice.

## Main results

* `latest_unsubscribed` — ending the first subscription that stands leaves the
  latest ones.
* `Kept.enter` — the subscriptions that stand are those that the book says.
* `notified_subscriptions` — whom the next transition tells, after any calls.
* `unsubscribing_ends_another` — an unsubscribing that is called again ends the
  subscription of another call.
-/

namespace QueryDesk.Execution

open Coordinator

variable {σ : Type}

/-! ## The book of the calls -/

/-- Whether an event adds or ends a subscription. -/
def Event.isSubscribing : Event → Bool
  | .subscribe _ | .unsubscribe _ => true
  | _ => false

/-- What is done with a coordinator.  The subscriptions are numbered from zero in
the order in which they are made. -/
inductive Call where
  | subscribe (name : String)
  /-- The unsubscribing that a subscription was answered with is called. -/
  | unsubscribe (subscription : Nat)
  /-- Something happens that concerns no subscription. -/
  | other (e : Event) (h : e.isSubscribing = false)

/-- What is known of some calls. -/
structure Book where
  /-- The listeners of the subscriptions, by the numbers of these. -/
  names : List String := []
  /-- The subscriptions whose own unsubscribing was called, once for each call. -/
  ended : List Nat := []
  /-- How many subscriptions a listener has left if every call of one of its
  unsubscribings ends one, while there is one. -/
  left : String → Nat := fun _ => 0
  /-- What the calls amount to for the coordinator. -/
  events : List Event := []

namespace Book

/-- Enters a call.  An unsubscribing that was not handed out cannot be called. -/
def enter (b : Book) : Call → Book
  | .subscribe name =>
    { b with names := b.names ++ [name]
             left := Function.update b.left name (b.left name + 1)
             events := b.events ++ [.subscribe ⟨name, false⟩] }
  | .unsubscribe subscription =>
    match b.names[subscription]? with
    | none => b
    | some name =>
      { b with ended := b.ended ++ [subscription]
               left := Function.update b.left name (b.left name - 1)
               events := b.events ++ [.unsubscribe name] }
  | .other e _ => { b with events := b.events ++ [e] }

/-- The book of some calls. -/
def ofCalls (calls : List Call) : Book := calls.foldl enter {}

@[simp] theorem ofCalls_concat (calls : List Call) (call : Call) :
    ofCalls (calls ++ [call]) = (ofCalls calls).enter call := by
  simp [ofCalls]

/-- The listeners of the subscriptions whose own unsubscribing was not called. -/
def owned (b : Book) : List String :=
  (b.names.zipIdx.filter fun p => !b.ended.contains p.2).map (·.1)

end Book

/-! ## The latest subscriptions -/

/-- Of each name the last occurrences, as many as are left of it, in their order. -/
def latest (left : String → Nat) : List String → List String
  | [] => []
  | name :: names =>
    if names.count name < left name then name :: latest left names else latest left names

/-- The listeners that should be told: of each one the latest subscriptions. -/
def Book.told (b : Book) : List String := latest b.left b.names

section Latest

variable {left left' : String → Nat} {names : List String} {name : String}

theorem count_latest (left : String → Nat) (names : List String) (name : String) :
    (latest left names).count name = min (left name) (names.count name) := by
  induction names with
  | nil => simp [latest]
  | cons n names ih =>
      unfold latest
      by_cases hn : n = name
      · subst hn
        split
        · rw [List.count_cons_self, List.count_cons_self, ih]
          omega
        · rw [List.count_cons_self, ih]
          omega
      · split
        · rw [List.count_cons_of_ne hn, List.count_cons_of_ne hn, ih]
        · rw [List.count_cons_of_ne hn, ih]

/-- What is left beyond the occurrences does not count. -/
theorem latest_congr
    (h : ∀ name, min (left name) (names.count name) = min (left' name) (names.count name)) :
    latest left names = latest left' names := by
  induction names with
  | nil => rfl
  | cons n names ih =>
      have htail : latest left names = latest left' names := by
        refine ih fun name => ?_
        have hname := h name
        rw [List.count_cons] at hname
        split at hname <;> omega
      have hhead : names.count n < left n ↔ names.count n < left' n := by
        have hn := h n
        rw [List.count_cons_self] at hn
        omega
      simp only [latest, htail, hhead]

/-- A new subscription stands, behind the others. -/
theorem latest_subscribed (left : String → Nat) (names : List String) (name : String) :
    latest (Function.update left name (left name + 1)) (names ++ [name]) =
      latest left names ++ [name] := by
  induction names with
  | nil => simp [latest]
  | cons n names ih =>
      rw [List.cons_append, latest, latest, ih, List.count_append]
      by_cases hn : n = name
      · subst hn
        simp only [List.count_singleton_self, Function.update_self, Nat.add_lt_add_iff_right]
        split <;> rfl
      · have hzero : [name].count n = 0 := List.count_eq_zero.mpr (by simpa using hn)
        rw [hzero, Nat.add_zero, Function.update_of_ne hn]
        split <;> rfl

/-- **Ending the first subscription that stands leaves the latest ones**, one less
than before. -/
theorem latest_unsubscribed (h : left name ≤ names.count name) :
    latest (Function.update left name (left name - 1)) names = (latest left names).erase name := by
  induction names with
  | nil => rfl
  | cons n names ih =>
      by_cases hn : n = name
      · subst hn
        rw [List.count_cons_self] at h
        rw [latest, latest, Function.update_self]
        have hnot : ¬ names.count n < left n - 1 := by omega
        rw [if_neg hnot]
        split
        · -- The first one stands, so all that come after it do.
          rename_i hstands
          rw [List.erase_cons_head]
          refine latest_congr fun name => ?_
          by_cases hname : name = n
          · subst hname
            rw [Function.update_self]
            omega
          · rw [Function.update_of_ne hname]
        · exact ih (by omega)
      · rw [List.count_cons_of_ne hn] at h
        rw [latest, latest, Function.update_of_ne hn, ih h]
        split
        · rw [List.erase_cons_tail (by simpa using hn)]
        · rfl

/-- Where no name occurs twice, those stand of which something is left. -/
theorem latest_of_nodup (hnames : names.Nodup) :
    latest left names = names.filter fun name => 0 < left name := by
  induction names with
  | nil => rfl
  | cons n names ih =>
      obtain ⟨hn, hnames⟩ := List.nodup_cons.mp hnames
      rw [latest, List.count_eq_zero.mpr hn, ih hnames, List.filter_cons]
      simp only [decide_eq_true_eq]

end Latest

/-! ## What the book says of the calls -/

/-- The counts of a book agree with its lists. -/
structure Book.Sound (b : Book) : Prop where
  ended_lt : ∀ subscription ∈ b.ended, subscription < b.names.length
  left_le : ∀ name, b.left name ≤ b.names.count name
  /-- Calls that are made once each end as many subscriptions as there are calls. -/
  once : b.ended.Nodup → ∀ name, b.left name = b.owned.count name
  /-- The only subscription of a listener is its own. -/
  single : b.names.Nodup → ∀ (subscription : Nat) (name : String),
    b.names[subscription]? = some name →
      b.left name = if subscription ∈ b.ended then 0 else 1

namespace Book

variable {b : Book}

/-- A subscription that is made has not been ended. -/
theorem owned_subscribe (h : b.Sound) (name : String) :
    (b.enter (.subscribe name)).owned = b.owned ++ [name] := by
  have hnew : b.names.length ∉ b.ended := fun hmem =>
    absurd (h.ended_lt _ hmem) (Nat.lt_irrefl _)
  simp [owned, enter, List.zipIdx_append, List.filter_append, hnew]

/-- The first call of an unsubscribing ends the subscription that it belongs to. -/
theorem owned_unsubscribe {subscription : Nat} {name : String}
    (hname : b.names[subscription]? = some name) (hnew : subscription ∉ b.ended) :
    b.owned.Perm (name :: (b.enter (.unsubscribe subscription)).owned) := by
  have hmem : (name, subscription) ∈ b.names.zipIdx.filter fun p => !b.ended.contains p.2 :=
    List.mem_filter.mpr ⟨List.mk_mem_zipIdx_iff_getElem?.mpr hname, by simpa using hnew⟩
  have hnodup : (b.names.zipIdx.filter fun p => !b.ended.contains p.2).Nodup :=
    ((List.nodup_zipIdx_map_snd b.names).of_map _).filter _
  have herase : (b.names.zipIdx.filter fun p => !b.ended.contains p.2).erase (name, subscription) =
      b.names.zipIdx.filter fun p => !(b.ended ++ [subscription]).contains p.2 := by
    rw [hnodup.erase_eq_filter, List.filter_filter]
    refine List.filter_congr fun p hp => ?_
    -- The number tells the subscriptions apart.
    have hsame : p.2 = subscription → p = (name, subscription) := by
      intro hp2
      have hp1 := List.mem_zipIdx_iff_getElem?.mp hp
      rw [hp2, hname] at hp1
      exact Prod.ext (Option.some.inj hp1).symm hp2
    by_cases hp2 : p.2 = subscription
    · simp [hsame hp2]
    · have hne : p ≠ (name, subscription) := fun h => hp2 (congrArg Prod.snd h)
      simp [hp2, hne]
  have hperm := (List.perm_cons_erase hmem).map Prod.fst
  rw [herase] at hperm
  simpa [owned, enter, hname] using hperm

theorem Sound.subscribe (h : b.Sound) (name : String) : (b.enter (.subscribe name)).Sound where
  ended_lt subscription hmem := by
    have hlt := h.ended_lt subscription hmem
    simp only [enter, List.length_append, List.length_singleton]
    omega
  left_le name' := by
    have hle := h.left_le name'
    show Function.update b.left name _ name' ≤ (b.names ++ [name]).count name'
    rw [List.count_append]
    by_cases hname : name' = name
    · subst hname
      rw [Function.update_self, List.count_singleton_self]
      omega
    · rw [Function.update_of_ne hname]
      omega
  once hended name' := by
    rw [owned_subscribe h, List.count_append, ← h.once hended]
    show Function.update b.left name _ name' = _
    by_cases hname : name' = name
    · subst hname
      rw [Function.update_self, List.count_singleton_self]
    · rw [Function.update_of_ne hname, List.count_eq_zero.mpr (by simpa using hname), Nat.add_zero]
  single hnames subscription name' hname' := by
    obtain ⟨hnodup, -, hapart⟩ := List.nodup_append.mp hnames
    have hnew : name ∉ b.names := fun hmem => hapart name hmem name (List.mem_singleton_self _) rfl
    show Function.update b.left name _ name' = if subscription ∈ b.ended then 0 else 1
    by_cases hlt : subscription < b.names.length
    · have hold : b.names[subscription]? = some name' := by
        have hbefore : (b.names ++ [name])[subscription]? = b.names[subscription]? :=
          List.getElem?_append_left hlt
        rwa [← hbefore]
      have hne : name' ≠ name := by
        rintro rfl
        exact hnew (List.mem_of_getElem? hold)
      rw [Function.update_of_ne hne]
      exact h.single hnodup subscription name' hold
    · have hname : name' = name := by
        have hmem : (b.names ++ [name])[subscription]? = some name' := hname'
        rw [List.getElem?_append_right (Nat.not_lt.mp hlt)] at hmem
        exact List.mem_singleton.mp (List.mem_of_getElem? hmem)
      have hzero : b.left name = 0 := by
        have hle := h.left_le name
        rw [List.count_eq_zero.mpr hnew] at hle
        omega
      rw [hname, Function.update_self, hzero, if_neg fun hmem => hlt (h.ended_lt _ hmem)]

theorem Sound.unsubscribe (h : b.Sound) {subscription : Nat} {name : String}
    (hname : b.names[subscription]? = some name) : (b.enter (.unsubscribe subscription)).Sound := by
  have henter : b.enter (.unsubscribe subscription) =
      { b with ended := b.ended ++ [subscription]
               left := Function.update b.left name (b.left name - 1)
               events := b.events ++ [.unsubscribe name] } := by
    simp [enter, hname]
  have hlt : subscription < b.names.length := (List.getElem?_eq_some_iff.mp hname).1
  refine ⟨?_, ?_, ?_, ?_⟩
  · rw [henter]
    exact List.forall_mem_append.mpr ⟨h.ended_lt, List.forall_mem_singleton.mpr hlt⟩
  · intro name'
    have hle := h.left_le name'
    rw [henter]
    show Function.update b.left name _ name' ≤ b.names.count name'
    by_cases hsame : name' = name
    · subst hsame
      rw [Function.update_self]
      omega
    · rwa [Function.update_of_ne hsame]
  · intro hended name'
    have hnodup : b.ended.Nodup ∧ subscription ∉ b.ended := by
      rw [henter] at hended
      obtain ⟨hended, -, hapart⟩ := List.nodup_append.mp hended
      exact ⟨hended, fun hmem => hapart _ hmem _ (List.mem_singleton_self _) rfl⟩
    have hcount := (owned_unsubscribe hname hnodup.2).count_eq name'
    rw [← h.once hnodup.1 name'] at hcount
    rw [henter] at hcount ⊢
    show Function.update b.left name _ name' = _
    by_cases hsame : name' = name
    · subst hsame
      rw [List.count_cons_self] at hcount
      rw [Function.update_self]
      omega
    · rw [List.count_cons_of_ne (Ne.symm hsame)] at hcount
      rwa [Function.update_of_ne hsame]
  · intro hnames subscription' name' hname'
    rw [henter] at hnames hname' ⊢
    have hbefore := h.single hnames subscription' name' hname'
    show Function.update b.left name _ name' =
      if subscription' ∈ b.ended ++ [subscription] then 0 else 1
    by_cases hsame : subscription' = subscription
    · subst hsame
      obtain rfl : name = name' := Option.some.inj (hname.symm.trans hname')
      rw [Function.update_self, if_pos (by simp), hbefore]
      split <;> rfl
    · have hne : name' ≠ name := by
        rintro rfl
        have hlt' : subscription' < b.names.length := (List.getElem?_eq_some_iff.mp hname').1
        exact hsame ((List.getElem?_inj hlt' hnames).mp (hname'.trans hname.symm))
      rw [Function.update_of_ne hne, hbefore]
      simp [hsame]

/-- **The counts of a book agree with its lists**, whatever is called. -/
theorem Sound.enter (h : b.Sound) (call : Call) : (b.enter call).Sound := by
  cases call with
  | subscribe name => exact h.subscribe name
  | unsubscribe subscription =>
      cases hname : b.names[subscription]? with
      | none => simpa [Book.enter, hname] using h
      | some name => exact h.unsubscribe hname
  | other e he => exact ⟨h.ended_lt, h.left_le, h.once, h.single⟩

theorem sound_ofCalls (calls : List Call) : (ofCalls calls).Sound := by
  induction calls using List.reverseRecOn with
  | nil => exact ⟨nofun, fun _ => Nat.zero_le _, fun _ _ => rfl, nofun⟩
  | append_singleton calls call ih =>
      rw [ofCalls_concat]
      exact ih.enter call

theorem Sound.count_told (h : b.Sound) (name : String) : b.told.count name = b.left name := by
  rw [told, count_latest]
  exact Nat.min_eq_left (h.left_le name)

/-- **Where every listener has one subscription, the ones that stand are those
whose own unsubscribing was not called.** -/
theorem Sound.told_of_nodup (h : b.Sound) (hnames : b.names.Nodup) : b.told = b.owned := by
  have hstands : b.names.zipIdx.filter (fun p => !b.ended.contains p.2) =
      b.names.zipIdx.filter (fun p => 0 < b.left p.1) := by
    refine List.filter_congr fun p hp => ?_
    rw [h.single hnames p.2 p.1 (List.mem_zipIdx_iff_getElem?.mp hp)]
    by_cases hended : p.2 ∈ b.ended <;> simp [hended]
  rw [owned, hstands, told, latest_of_nodup hnames]
  conv_lhs => rw [← List.zipIdx_map_fst 0 b.names, List.filter_map]
  rfl

end Book

/-! ## The subscriptions that stand -/

theorem map_name_removeListener (name : String) (ls : List Listener) :
    (removeListener name ls).map (·.name) = (ls.map (·.name)).erase name := by
  induction ls with
  | nil => rfl
  | cons l ls ih =>
      unfold removeListener
      by_cases hname : l.name = name
      · rw [if_pos hname, List.map_cons, hname, List.erase_cons_head]
      · rw [if_neg hname, List.map_cons, List.map_cons, ih,
          List.erase_cons_tail (by simpa using hname)]

/-- A coordinator has the subscriptions that a book says. -/
structure Kept (c : Coordinator σ) (b : Book) : Prop where
  listeners : c.listeners.map (·.name) = b.told
  /-- No listener ends its subscription by itself. -/
  lasting : ∀ l ∈ c.listeners, l.once = false
  met : ∀ l ∈ c.met, l.once = false

namespace Kept

variable {c : Coordinator σ} {b : Book}

theorem fresh (ring : Option History.Ring) (store : σ) : Kept (Coordinator.fresh ring store) {} :=
  ⟨rfl, nofun, nofun⟩

theorem subscribe (h : Kept c b) (name : String) :
    Kept (c.subscribe ⟨name, false⟩) (b.enter (.subscribe name)) := by
  -- The name may have been met before, and then its first listener is subscribed again.
  have hlistener : ((c.met.find? (·.name = name)).getD ⟨name, false⟩).name = name ∧
      ((c.met.find? (·.name = name)).getD ⟨name, false⟩).once = false := by
    cases hfind : c.met.find? (·.name = name) with
    | none => exact ⟨rfl, rfl⟩
    | some l =>
        have hname : l.name = name := by simpa using List.find?_some hfind
        exact ⟨hname, h.met l (List.mem_of_find?_eq_some hfind)⟩
  refine ⟨?_, ?_, ?_⟩
  · show (c.listeners ++ [_]).map _ = latest _ _
    rw [List.map_append, List.map_singleton, hlistener.1, h.listeners]
    exact (latest_subscribed b.left b.names name).symm
  · exact List.forall_mem_append.mpr ⟨h.lasting, List.forall_mem_singleton.mpr hlistener.2⟩
  · exact List.forall_mem_append.mpr ⟨h.met, List.forall_mem_singleton.mpr hlistener.2⟩

theorem unsubscribe (h : Kept c b) (hb : b.Sound) {subscription : Nat} {name : String}
    (hname : b.names[subscription]? = some name) :
    Kept (c.unsubscribe name) (b.enter (.unsubscribe subscription)) := by
  simp only [Book.enter, hname]
  refine ⟨?_, fun l hl => h.lasting l (mem_of_mem_removeListener hl), h.met⟩
  show (removeListener name c.listeners).map _ = latest _ _
  rw [map_name_removeListener, h.listeners, latest_unsubscribed (hb.left_le name)]
  rfl

/-- What concerns no subscription leaves those that are there. -/
theorem other (h : Kept c b) (hknown : Known c) {l : Ledger} (hfollows : Follows c l)
    (archive : Option (Archive σ)) {e : Event} (he : e.isSubscribing = false) :
    Kept (step archive c e).1 (b.enter (.other e he)) := by
  have hseen := seen_step hfollows hknown archive e
  have hlisteners : (step archive c e).1.listeners = c.listeners := by
    have hlasting : c.listeners.filter (fun l => !l.once) = c.listeners :=
      List.filter_eq_self.mpr fun l hl => by rw [h.lasting l hl]; rfl
    rw [hseen.listeners]
    cases e with
    | subscribe listener => cases he
    | unsubscribe name => cases he
    | _ =>
        simp only [subscriptions, hlasting]
        split <;> rfl
  have hmet : (step archive c e).1.met = c.met := by
    have hacts := (acts_step hfollows archive e).met
    cases e with
    | subscribe listener => cases he
    | _ => exact hacts
  exact ⟨by rw [hlisteners]; exact h.listeners, by rw [hlisteners]; exact h.lasting,
    by rw [hmet]; exact h.met⟩

/-- **The subscriptions that stand are those that the book says**, whatever is
called. -/
theorem enter (h : Kept c b) (hb : b.Sound) (hknown : Known c) {l : Ledger}
    (hfollows : Follows c l) (archive : Option (Archive σ)) (call : Call) :
    ∃ e? : Option Event, (b.enter call).events = b.events ++ e?.toList ∧
      Kept (e?.elim c fun e => (step archive c e).1) (b.enter call) := by
  cases call with
  | subscribe name => exact ⟨some (.subscribe ⟨name, false⟩), rfl, h.subscribe name⟩
  | unsubscribe subscription =>
      cases hname : b.names[subscription]? with
      | none =>
          refine ⟨none, ?_, ?_⟩
          · simp [Book.enter, hname]
          · simpa [Book.enter, hname] using h
      | some name =>
          refine ⟨some (.unsubscribe name), ?_, h.unsubscribe hb hname⟩
          simp [Book.enter, hname]
  | other e he => exact ⟨some e, rfl, h.other hknown hfollows archive he⟩

end Kept

/-- The subscriptions that stand after some calls. -/
theorem kept_after (archive : Option (Archive σ)) (ring : Option History.Ring) (store : σ)
    (calls : List Call) :
    Kept (after archive (.fresh ring store) (Book.ofCalls calls).events) (Book.ofCalls calls) := by
  induction calls using List.reverseRecOn with
  | nil => exact Kept.fresh ring store
  | append_singleton calls call ih =>
      obtain ⟨e?, hevents, hkept⟩ := ih.enter (Book.sound_ofCalls calls)
        (Known.after archive ring store _)
        (Follows.after archive ring store _) archive call
      rw [Book.ofCalls_concat, hevents]
      cases e? with
      | none => simpa using hkept
      | some e =>
          rw [Option.toList_some, after_concat]
          exact hkept

/-! ## Whom the next transition tells -/

/-- **Whom the next transition tells.**  Take any subscriptions and any calls of
their unsubscribings, several times and in any order, with anything else between
them, from a coordinator to which nothing has happened.  What happens next tells
nobody, or brings a transition, of which the subscriptions that stand are told
once each, in the order in which they were made.  Of each listener the latest of
its subscriptions stand, as many as are left if each call of one of its
unsubscribings ends one while there is one.  If no unsubscribing is called twice,
that is as many as have not ended by their own; and if no listener subscribes
twice, it is these very subscriptions. -/
theorem notified_subscriptions (archive : Option (Archive σ)) (ring : Option History.Ring)
    (store : σ) (calls : List Call) :
    let b := Book.ofCalls calls
    let c := after archive (.fresh ring store) b.events
    (∀ e, ∃ t? : Option Transition, Seen c e (step archive c e) t? ∧
      (step archive c e).2.notices =
        t?.toList.flatMap fun t => b.told.map fun name => (name, t.state)) ∧
    (∀ name, b.told.count name = b.left name) ∧
    (b.ended.Nodup → ∀ name, b.told.count name = b.owned.count name) ∧
    (b.names.Nodup → b.told = b.owned) := by
  intro b c
  have hsound : b.Sound := Book.sound_ofCalls calls
  have hkept : Kept c b := kept_after archive ring store calls
  refine ⟨?_, hsound.count_told, ?_, hsound.told_of_nodup⟩
  · intro e
    have hseen := seen_step (Follows.after archive ring store b.events)
      (Known.after archive ring store b.events) archive e
    refine ⟨_, hseen, ?_⟩
    have htold : b.told = c.listeners.map (·.name) := hkept.listeners.symm
    rw [hseen.notices, htold]
    simp only [List.map_map]
    rfl
  · intro hended name
    rw [← hsound.once hended name]
    exact hsound.count_told name

/-- A listener that subscribes three times and ends two of its subscriptions, and
two listeners with one subscription each, one of which is ended twice. -/
theorem notified_subscriptions_single :
    let thrice := Book.ofCalls [.subscribe "grid", .subscribe "grid", .subscribe "grid",
      .unsubscribe 1, .unsubscribe 2]
    let single := Book.ofCalls
      [.subscribe "grid", .subscribe "hint", .unsubscribe 0, .unsubscribe 0]
    (thrice.ended.Nodup ∧
      thrice.told.count "grid" = thrice.owned.count "grid" ∧
      thrice.owned = ["grid"]) ∧
    single.names.Nodup ∧ single.told = single.owned ∧
      single.owned = ["hint"] := by
  intro thrice single
  have hended : thrice.ended.Nodup := by decide
  have hnames : single.names.Nodup := by decide
  have hcount := (notified_subscriptions (none : Option (Archive Unit)) none () _).2.2.1 hended
  exact ⟨⟨hended, hcount "grid", by decide⟩, hnames,
    (notified_subscriptions (none : Option (Archive Unit)) none () _).2.2.2 hnames, by decide⟩

/-- **An unsubscribing that is called again ends another subscription**: the
listener has one left of which nobody called the unsubscribing, and is told
nothing.  Calling one even once can cost another subscription its place, so that
the listeners are told in another order. -/
theorem unsubscribing_ends_another :
    let again := Book.ofCalls [.subscribe "grid", .subscribe "grid", .unsubscribe 1, .unsubscribe 1]
    let order := Book.ofCalls
      [.subscribe "grid", .subscribe "hint", .subscribe "grid", .unsubscribe 2]
    let start : Coordinator Unit := .fresh none ()
    let request : Event := .submit (some "db") "SELECT 1"
    again.owned = ["grid"] ∧ (step none (after none start again.events) request).2.notices = [] ∧
      order.owned = ["grid", "hint"] ∧
      (step none (after none start order.events) request).2.notices =
        [("hint", .pending), ("grid", .pending)] := by
  decide +kernel

end QueryDesk.Execution
