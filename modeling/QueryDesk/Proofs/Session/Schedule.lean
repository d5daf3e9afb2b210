import Mathlib.Data.List.Induction
import QueryDesk.Session

/-!
# Schedules of a session

A session goes on while its refreshes wait for their loads, so what it does
depends on the order in which things happen.  A schedule is a list of what
happens: events of the schema, each with what the sources would answer at that
moment, and events of the runs.  Which connection is selected can be read from
the schedule alone, and so can, for each refresh, the load that it waits for.

## Main results

* `connection_after` — the session has the connection that was selected last.
* `waits_iff` — the refreshes under way are those that wait for a load.
-/

namespace QueryDesk.Session

open Execution

/-! ## What happens -/

/-- What happens to a session. -/
inductive Happening where
  /-- An event of the schema, at which the sources answer in this way. -/
  | schema (sources : Schema.Sources) (event : Session.Event)
  | execution (event : Execution.Event)

variable {σ : Type} {archive : Option (Archive σ)} {s : Session σ}

/-- The session after something happens. -/
def Happening.perform (archive : Option (Archive σ)) (s : Session σ) : Happening → Session σ
  | schema sources event => (s.step archive sources event).1
  | execution event => (s.execute archive event).1

/-- The session after a schedule. -/
def after (archive : Option (Archive σ)) (s : Session σ) (hs : List Happening) : Session σ :=
  hs.foldl (Happening.perform archive) s

@[simp] theorem after_nil (archive : Option (Archive σ)) (s : Session σ) :
    after archive s [] = s := rfl

@[simp] theorem after_concat (archive : Option (Archive σ)) (s : Session σ)
    (hs : List Happening) (h : Happening) :
    after archive s (hs ++ [h]) = h.perform archive (after archive s hs) := by
  simp [after]

/-- The connection that is selected after something happens. -/
def Happening.choose (connection : Option String) : Happening → Option String
  | schema _ (.select connection) => connection
  | _ => connection

/-- The connection that a schedule selects last. -/
def selected (hs : List Happening) : Option String := hs.foldl Happening.choose none

@[simp] theorem selected_concat (hs : List Happening) (h : Happening) :
    selected (hs ++ [h]) = h.choose (selected hs) := by
  simp [selected]

/-- The history of a connection can be loaded, or there is no archive to load it from. -/
def Loads (archive : Option (Archive σ)) (s : Session σ) (c : String) : Prop :=
  ∀ a ∈ archive, ∃ loaded, a.load s.coordinator.store c = .ok loaded

/-- What happens starts a refresh of a connection: the connection is selected and
its history is loaded, or it is selected already and the user asks for the schema. -/
def Begins (archive : Option (Archive σ)) (s : Session σ) (h : Happening) (c : String) : Prop :=
  (∃ sources, h = .schema sources (.select (some c)) ∧ Loads archive s c) ∨
    ∃ sources, h = .schema sources .refresh ∧ s.connection = some c

/-- What happens ends the load that refresh `n` waits for: the first one as long
as nothing is listed, and then the second one. -/
def Happening.EndsLoad (n : Nat) (listed : Option (List String)) (h : Happening) : Prop :=
  match listed with
  | none => ∃ sources, h = .schema sources (.list n)
  | some _ => ∃ sources, h = .schema sources (.report n)

/-! ## What starts a refresh, and what ends a load -/

/-- Something that happens starts one refresh at most. -/
theorem Begins.unique {h : Happening} {c c' : String} (hc : Begins archive s h c)
    (hc' : Begins archive s h c') : c = c' := by
  rcases hc with ⟨_, rfl, -⟩ | ⟨_, rfl, hc⟩
  · rcases hc' with ⟨_, h, -⟩ | ⟨_, h, -⟩
    · cases h
      rfl
    · cases h
  · rcases hc' with ⟨_, h, -⟩ | ⟨_, h, hc'⟩
    · cases h
    · exact Option.some.inj (hc.symm.trans hc')

section Events

variable {sources : Schema.Sources} {n m : Nat} {c : String} {listed : Option (List String)}

@[simp] theorem begins_execution (event : Execution.Event) :
    ¬ Begins archive s (.execution event) c := by
  simp [Begins]

@[simp] theorem begins_select_none : ¬ Begins archive s (.schema sources (.select none)) c := by
  simp [Begins]

@[simp] theorem begins_refresh :
    Begins archive s (.schema sources .refresh) c ↔ s.connection = some c := by
  simp [Begins]

@[simp] theorem begins_list : ¬ Begins archive s (.schema sources (.list m)) c := by
  simp [Begins]

@[simp] theorem begins_report : ¬ Begins archive s (.schema sources (.report m)) c := by
  simp [Begins]

@[simp] theorem endsLoad_execution (event : Execution.Event) :
    ¬ (Happening.execution event).EndsLoad n listed := by
  cases listed <;> simp [Happening.EndsLoad]

@[simp] theorem endsLoad_select (connection : Option String) :
    ¬ (Happening.schema sources (.select connection)).EndsLoad n listed := by
  cases listed <;> simp [Happening.EndsLoad]

@[simp] theorem endsLoad_refresh : ¬ (Happening.schema sources .refresh).EndsLoad n listed := by
  cases listed <;> simp [Happening.EndsLoad]

@[simp] theorem endsLoad_list :
    (Happening.schema sources (.list m)).EndsLoad n listed ↔ m = n ∧ listed = none := by
  cases listed <;> simp [Happening.EndsLoad]

@[simp] theorem endsLoad_report :
    (Happening.schema sources (.report m)).EndsLoad n listed ↔ m = n ∧ listed ≠ none := by
  cases listed <;> simp [Happening.EndsLoad]

/-- What starts a refresh ends no load. -/
theorem Begins.not_endsLoad {h : Happening} (hbegins : Begins archive s h c) (n : Nat)
    (listed : Option (List String)) : ¬ h.EndsLoad n listed := by
  rcases hbegins with ⟨_, rfl, -⟩ | ⟨_, rfl, -⟩
  · exact endsLoad_select _
  · exact endsLoad_refresh

end Events

/-! ## What can happen to the schema -/

/-- All that something can do to the schema of a session. -/
inductive Move (archive : Option (Archive σ)) (s : Session σ) (h : Happening)
    (after : Session σ) : Prop where
  /-- Nothing changes, since no refresh is started and none ends a load. -/
  | idle (hbegins : ∀ c, ¬ Begins archive s h c)
      (hgoes : ∀ n c listed, s.refreshes.get? n = some ⟨c, listed⟩ → ¬ h.EndsLoad n listed)
      (hrefreshes : after.refreshes = s.refreshes) (hnext : after.nextRefresh = s.nextRefresh)
      (hsnapshot : after.snapshot = s.snapshot)
  /-- The snapshot is cleared, as no connection is selected any more. -/
  | cleared (sources : Schema.Sources) (hh : h = .schema sources (.select none))
      (hrefreshes : after.refreshes = s.refreshes) (hnext : after.nextRefresh = s.nextRefresh)
      (hsnapshot : after.snapshot = .empty (s.snapshot.version + 1))
  /-- A refresh is started. -/
  | begun (c : String) (hbegins : Begins archive s h c)
      (hrefreshes : after.refreshes = s.refreshes.put s.nextRefresh ⟨c, none⟩)
      (hnext : after.nextRefresh = s.nextRefresh + 1) (hsnapshot : after.snapshot = s.snapshot)
  /-- A refresh ends its first load. -/
  | listed (sources : Schema.Sources) (n : Nat) (c : String)
      (hh : h = .schema sources (.list n)) (hwaits : s.refreshes.get? n = some ⟨c, none⟩)
      (hrefreshes : after.refreshes = s.refreshes.put n ⟨c, some (sources.listed c).1⟩)
      (hnext : after.nextRefresh = s.nextRefresh) (hsnapshot : after.snapshot = s.snapshot)
  /-- A refresh ends its second load, and publishes if its connection is selected. -/
  | reported (sources : Schema.Sources) (n : Nat) (c : String) (names : List String)
      (hh : h = .schema sources (.report n)) (hwaits : s.refreshes.get? n = some ⟨c, some names⟩)
      (hrefreshes : after.refreshes = s.refreshes.remove n)
      (hnext : after.nextRefresh = s.nextRefresh)
      (hsnapshot : after.snapshot =
        if s.connection = some c then
          .build (sources.reported c).1 names (s.snapshot.version + 1)
        else s.snapshot)

/-- Selecting a connection reports no failure exactly if its history can be loaded. -/
theorem loads_iff {c : String} : Loads archive s c ↔ (s.select archive (some c)).2.1 = none := by
  cases archive with
  | none => simp [Loads, select]
  | some archive =>
      have hloads : Loads (some archive) s c ↔
          ∃ loaded, archive.load s.coordinator.store c = .ok loaded := by
        simp only [Loads, Option.mem_some_iff, forall_eq']
      rw [hloads]
      cases hload : archive.load s.coordinator.store c <;> simp only [select, hload] <;> simp

/-- Selecting a connection starts a refresh of it, unless its history cannot be
loaded. -/
theorem move_select (archive : Option (Archive σ)) (s : Session σ) (sources : Schema.Sources)
    (c : String) :
    Move archive s (.schema sources (.select (some c))) (s.select archive (some c)).1 := by
  cases archive with
  | none => exact .begun c (.inl ⟨sources, rfl, nofun⟩) rfl rfl rfl
  | some archive =>
      cases hload : archive.load s.coordinator.store c with
      | ok loaded =>
          have hloads : Loads (some archive) s c := by
            rintro _ ⟨⟩
            exact ⟨loaded, hload⟩
          refine .begun c (.inl ⟨sources, rfl, hloads⟩) ?_ ?_ ?_ <;> simp only [select, hload] <;>
            rfl
      | error f =>
          refine .idle ?_ (fun _ _ _ _ => endsLoad_select _) ?_ ?_ ?_
          · rintro c' (⟨_, h, hloads⟩ | ⟨_, h, -⟩)
            · cases h
              obtain ⟨loaded, hloaded⟩ := hloads archive rfl
              rw [hload] at hloaded
              cases hloaded
            · cases h
          all_goals simp only [select, hload]

/-- A request starts a refresh of the connection that is selected. -/
theorem move_refresh (archive : Option (Archive σ)) (s : Session σ) (sources : Schema.Sources) :
    Move archive s (.schema sources .refresh) (s.step archive sources .refresh).1 := by
  cases hconnection : s.connection with
  | some c =>
      refine .begun c (begins_refresh.mpr hconnection) ?_ ?_ ?_ <;>
        simp only [step, hconnection] <;> rfl
  | none =>
      have hsame : (s.step archive sources .refresh).1 = s := by simp only [step, hconnection]
      rw [hsame]
      refine .idle ?_ (fun _ _ _ _ => endsLoad_refresh) rfl rfl rfl
      intro c hbegins
      rw [begins_refresh, hconnection] at hbegins
      cases hbegins

/-- A refresh that waits for its first load ends it. -/
theorem move_list (archive : Option (Archive σ)) (s : Session σ) (sources : Schema.Sources)
    (n : Nat) :
    Move archive s (.schema sources (.list n)) (s.step archive sources (.list n)).1 := by
  rcases hwaits : s.refreshes.get? n with _ | ⟨c, _ | names⟩
  case some.none =>
    refine .listed sources n c rfl hwaits ?_ ?_ ?_ <;> simp only [step, hwaits]
  -- Otherwise refresh `n` is over, or waits for its second load.
  all_goals
    have hsame : (s.step archive sources (.list n)).1 = s := by simp only [step, hwaits]
    rw [hsame]
    refine .idle (fun _ => begins_list) ?_ rfl rfl rfl
    intro m c listed hm hends
    obtain ⟨rfl, rfl⟩ := endsLoad_list.mp hends
    rw [hwaits] at hm
    cases hm

/-- A refresh that waits for its second load ends it, and publishes if its
connection is selected. -/
theorem move_report (archive : Option (Archive σ)) (s : Session σ) (sources : Schema.Sources)
    (n : Nat) :
    Move archive s (.schema sources (.report n)) (s.step archive sources (.report n)).1 := by
  have hover : (∀ c names, s.refreshes.get? n ≠ some ⟨c, some names⟩) →
      (s.step archive sources (.report n)).1 = s →
      Move archive s (.schema sources (.report n)) (s.step archive sources (.report n)).1 := by
    intro hnot hsame
    rw [hsame]
    refine .idle (fun _ => begins_report) ?_ rfl rfl rfl
    intro m c listed hm hends
    obtain ⟨rfl, hlisted⟩ := endsLoad_report.mp hends
    obtain ⟨names, rfl⟩ := Option.ne_none_iff_exists'.mp hlisted
    exact hnot c names hm
  rcases hwaits : s.refreshes.get? n with _ | ⟨c, _ | names⟩
  · exact hover (by simp [hwaits]) (by simp only [step, hwaits])
  · exact hover (by simp [hwaits]) (by simp only [step, hwaits])
  · refine .reported sources n c names rfl hwaits ?_ ?_ ?_
    · simp only [step, hwaits]
    · simp only [step, hwaits]
    · simp only [step, hwaits, Schema.publish]
      by_cases hselected : s.connection = some c
      · simp [hselected]
      · simp [hselected]

/-- **Whatever happens is one of these moves.** -/
theorem move_perform (archive : Option (Archive σ)) (s : Session σ) (h : Happening) :
    Move archive s h (h.perform archive s) := by
  cases h with
  | execution event =>
      exact .idle (fun _ => begins_execution event) (fun _ _ _ _ => endsLoad_execution event)
        rfl rfl rfl
  | schema sources event =>
      cases event with
      | select connection =>
          cases connection with
          | none => exact .cleared sources rfl rfl rfl rfl
          | some c => exact move_select archive s sources c
      | refresh => exact move_refresh archive s sources
      | list n => exact move_list archive s sources n
      | report n => exact move_report archive s sources n

/-- What happens leaves the session with the connection it selects, if it
selects one. -/
theorem connection_perform (archive : Option (Archive σ)) (s : Session σ) (h : Happening) :
    (h.perform archive s).connection = h.choose s.connection := by
  cases h with
  | execution event => rfl
  | schema sources event =>
      show (s.step archive sources event).1.connection = _
      cases event with
      | select connection =>
          simp only [step, select]
          split
          · rfl
          · split
            · rfl
            · split <;> rfl
      | refresh =>
          simp only [step]
          split
          · rfl
          · rfl
      | list n =>
          simp only [step]
          split <;> rfl
      | report n =>
          simp only [step]
          split <;> rfl

/-- **A session has the connection that was selected last.** -/
theorem connection_after (archive : Option (Archive σ)) (settings : Settings) (store : σ)
    (hs : List Happening) : (after archive (.new settings store) hs).connection = selected hs := by
  induction hs using List.reverseRecOn with
  | nil => rfl
  | append_singleton hs h ih => rw [after_concat, connection_perform, ih, selected_concat]

/-! ## Refreshes that wait -/

/-- After a schedule, refresh `n` of a connection waits for its first load, or
for the second one with the names that its own first one gave. -/
inductive Waits (archive : Option (Archive σ)) (s : Session σ) :
    List Happening → Nat → String → Option (List String) → Prop where
  | begun {hs : List Happening} {h : Happening} {c : String}
      (hbegins : Begins archive (after archive s hs) h c) :
      Waits archive s (hs ++ [h]) (after archive s hs).nextRefresh c none
  | listed {hs : List Happening} {n : Nat} {c : String} (hwaits : Waits archive s hs n c none)
      (sources : Schema.Sources) :
      Waits archive s (hs ++ [.schema sources (.list n)]) n c (some (sources.listed c).1)
  | later {hs : List Happening} {n : Nat} {c : String} {listed : Option (List String)}
      (hwaits : Waits archive s hs n c listed) {h : Happening} (hgoes : ¬ h.EndsLoad n listed) :
      Waits archive s (hs ++ [h]) n c listed

/-- A refresh waits until its load ends. -/
theorem Waits.stays {hs hs' : List Happening} {n : Nat} {c : String}
    {listed : Option (List String)} (hwaits : Waits archive s hs n c listed)
    (hgoes : ∀ h ∈ hs', ¬ h.EndsLoad n listed) : Waits archive s (hs ++ hs') n c listed := by
  induction hs' using List.reverseRecOn with
  | nil =>
      rw [List.append_nil]
      exact hwaits
  | append_singleton hs' h ih =>
      rw [← List.append_assoc]
      refine .later (ih fun h' hmem => hgoes h' (List.mem_append_left _ hmem)) ?_
      exact hgoes h (List.mem_append_right _ (List.mem_singleton_self h))

/-- Nothing waits at the start. -/
theorem not_waits_nil {n : Nat} {c : String} {listed : Option (List String)} :
    ¬ Waits archive s [] n c listed := by
  intro h
  generalize hnil : ([] : List Happening) = hs at h
  cases h <;> simp at hnil

/-- Why a refresh waits after something happened. -/
theorem waits_concat {hs : List Happening} {h : Happening} {n : Nat} {c : String}
    {listed : Option (List String)} :
    Waits archive s (hs ++ [h]) n c listed ↔
      n = (after archive s hs).nextRefresh ∧ Begins archive (after archive s hs) h c ∧
          listed = none ∨
        (∃ sources, h = .schema sources (.list n) ∧ Waits archive s hs n c none ∧
          listed = some (sources.listed c).1) ∨
        Waits archive s hs n c listed ∧ ¬ h.EndsLoad n listed := by
  constructor
  · intro hwaits
    generalize hall : hs ++ [h] = all at hwaits
    cases hwaits with
    | begun hbegins =>
        obtain ⟨rfl, hlast⟩ := List.append_inj' hall rfl
        obtain rfl := List.singleton_inj.mp hlast
        exact .inl ⟨rfl, hbegins, rfl⟩
    | listed hbefore sources =>
        obtain ⟨rfl, hlast⟩ := List.append_inj' hall rfl
        exact .inr (.inl ⟨sources, List.singleton_inj.mp hlast, hbefore, rfl⟩)
    | later hbefore hgoes =>
        obtain ⟨rfl, hlast⟩ := List.append_inj' hall rfl
        obtain rfl := List.singleton_inj.mp hlast
        exact .inr (.inr ⟨hbefore, hgoes⟩)
  · rintro (⟨rfl, hbegins, rfl⟩ | ⟨sources, rfl, hwaits, rfl⟩ | ⟨hwaits, hgoes⟩)
    · exact .begun hbegins
    · exact .listed hwaits sources
    · exact .later hwaits hgoes

/-! ## The refreshes under way -/

/-- No refresh under way has a number that is still to be given. -/
def Numbered (s : Session σ) : Prop := ∀ n, s.nextRefresh ≤ n → s.refreshes.get? n = none

theorem Numbered.perform (hs : s.Numbered) (archive : Option (Archive σ)) (h : Happening) :
    (h.perform archive s).Numbered := by
  intro m hm
  cases move_perform archive s h with
  | idle hbegins hgoes hrefreshes hnext hsnapshot =>
      rw [hnext] at hm
      rw [hrefreshes]
      exact hs m hm
  | cleared sources hh hrefreshes hnext hsnapshot =>
      rw [hnext] at hm
      rw [hrefreshes]
      exact hs m hm
  | begun c hbegins hrefreshes hnext hsnapshot =>
      rw [hnext] at hm
      rw [hrefreshes, OrderedMap.get?_put_ne _ _ (by omega)]
      exact hs m (by omega)
  | listed sources n c hh hwaits hrefreshes hnext hsnapshot =>
      rw [hnext] at hm
      have hne : m ≠ n := by
        rintro rfl
        rw [hs m hm] at hwaits
        cases hwaits
      rw [hrefreshes, OrderedMap.get?_put_ne _ _ hne]
      exact hs m hm
  | reported sources n c names hh hwaits hrefreshes hnext hsnapshot =>
      rw [hnext] at hm
      rw [hrefreshes]
      by_cases hne : m = n
      · rw [hne, OrderedMap.get?_remove_self]
      · rw [OrderedMap.get?_remove_ne _ hne]
        exact hs m hm

/-- **A refresh is under way after something happened** if it was started by that,
or was under way before and did not end its last load. -/
theorem get?_refreshes_perform (hs : s.Numbered) (archive : Option (Archive σ)) (h : Happening)
    (n : Nat) (c : String) (listed : Option (List String)) :
    (h.perform archive s).refreshes.get? n = some ⟨c, listed⟩ ↔
      n = s.nextRefresh ∧ Begins archive s h c ∧ listed = none ∨
        (∃ sources, h = .schema sources (.list n) ∧ s.refreshes.get? n = some ⟨c, none⟩ ∧
          listed = some (sources.listed c).1) ∨
        s.refreshes.get? n = some ⟨c, listed⟩ ∧ ¬ h.EndsLoad n listed := by
  cases move_perform archive s h with
  | idle hbegins hgoes hrefreshes hnext hsnapshot =>
      rw [hrefreshes]
      constructor
      · exact fun hn => .inr (.inr ⟨hn, hgoes n c listed hn⟩)
      · rintro (⟨-, hc, -⟩ | ⟨sources, rfl, hn, -⟩ | ⟨hn, -⟩)
        · exact absurd hc (hbegins c)
        · exact absurd (endsLoad_list.mpr ⟨rfl, rfl⟩) (hgoes n c none hn)
        · exact hn
  | cleared sources hh hrefreshes hnext hsnapshot =>
      subst hh
      simp [hrefreshes]
  | begun c' hbegins hrefreshes hnext hsnapshot =>
      rw [hrefreshes]
      by_cases hn : n = s.nextRefresh
      · subst hn
        rw [OrderedMap.get?_put_self]
        have hnone := hs s.nextRefresh (Nat.le_refl _)
        constructor
        · intro hnew
          cases hnew
          exact .inl ⟨rfl, hbegins, rfl⟩
        · rintro (⟨-, hc, rfl⟩ | ⟨_, -, hwaits, -⟩ | ⟨hwaits, -⟩)
          · rw [hbegins.unique hc]
          · rw [hnone] at hwaits
            cases hwaits
          · rw [hnone] at hwaits
            cases hwaits
      · rw [OrderedMap.get?_put_ne _ _ hn]
        constructor
        · exact fun hwaits => .inr (.inr ⟨hwaits, hbegins.not_endsLoad n listed⟩)
        · rintro (⟨hn', -, -⟩ | ⟨sources, rfl, -, -⟩ | ⟨hwaits, -⟩)
          · exact absurd hn' hn
          · exact absurd hbegins begins_list
          · exact hwaits
  | listed sources m c' hh hwaits hrefreshes hnext hsnapshot =>
      subst hh
      rw [hrefreshes]
      by_cases hn : n = m
      · subst hn
        simp only [OrderedMap.get?_put_self, hwaits, begins_list, endsLoad_list, Option.some.injEq,
          Refresh.mk.injEq]
        grind
      · have hother : m ≠ n := fun h => hn h.symm
        simp [OrderedMap.get?_put_ne _ _ hn, hother]
  | reported sources m c' names hh hwaits hrefreshes hnext hsnapshot =>
      subst hh
      rw [hrefreshes]
      by_cases hn : n = m
      · subst hn
        simp only [OrderedMap.get?_remove_self, hwaits, begins_report, endsLoad_report]
        grind
      · have hother : m ≠ n := fun h => hn h.symm
        simp [OrderedMap.get?_remove_ne _ hn, hother]

theorem numbered_after (hs : s.Numbered) (archive : Option (Archive σ)) (hs' : List Happening) :
    (after archive s hs').Numbered := by
  induction hs' using List.reverseRecOn with
  | nil => exact hs
  | append_singleton hs' h ih =>
      rw [after_concat]
      exact ih.perform archive h

/-- **The refreshes under way are those that wait for a load**, each with what its
own first load gave. -/
theorem waits_iff (hstart : s.refreshes = []) {hs : List Happening} {n : Nat} {c : String}
    {listed : Option (List String)} :
    Waits archive s hs n c listed ↔
      (after archive s hs).refreshes.get? n = some ⟨c, listed⟩ := by
  have hnumbered : s.Numbered := by
    intro m _
    rw [hstart]
    rfl
  induction hs using List.reverseRecOn generalizing n c listed with
  | nil =>
      rw [after_nil, hstart]
      constructor
      · exact fun h => absurd h not_waits_nil
      · intro h
        cases h
  | append_singleton hs h ih =>
      have hperform := get?_refreshes_perform (numbered_after hnumbered archive hs) archive h n c
        listed
      rw [waits_concat, after_concat, hperform]
      simp only [ih]

end QueryDesk.Session
