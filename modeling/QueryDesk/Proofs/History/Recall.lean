import Mathlib.Data.List.Induction
import Mathlib.Data.List.Infix
import QueryDesk.History.Keys

/-!
# Walking through the history

The history keys move a cursor back and forth, and the text that was being
written has to come back when the cursor leaves the entries again.  Where the
cursor is can be said without the ring: it is a walk on the integers from `-1`
on, held between `-1` and the oldest entry, and only the presses that reach the
history make a step.  Which text comes back can be said by the presses too: it is
the one that was shown at the last departure from `-1`.

The draft follows the departures because a press that keeps the cursor among the
entries leaves the draft alone, at either end too.

## Main results

* `effect_give` — what a press does is one of five things.
* `Departure.of_concat` — a departure stays the last one until the walk is back.
* `recall_follows_walk` — the cursor and the text after any presses.
-/

namespace QueryDesk.History

/-! ## Presses and the walk -/

/-- A key that is pressed, with the popup showing or not, and the text of the
buffer then. -/
structure Press where
  key : String
  popup : Bool
  text : String
  deriving DecidableEq, Repr

/-- One step of the walk over `n` entries. -/
def stride (keys : Keys) (n : Nat) (i : Int) (p : Press) : Int :=
  if p.popup then i
  else if p.key = keys.older then if n = 0 then i else min (i + 1) (n - 1)
  else if p.key = keys.newer then max (i - 1) (-1)
  else i

/-- The walk: where the presses lead from `-1`. -/
def walk (keys : Keys) (n : Nat) (ps : List Press) : Int := ps.foldl (stride keys n) (-1)

/-- A press that is the last one to leave `-1`: it goes back from there, and the
walk has not returned since. -/
def Departure (keys : Keys) (n : Nat) (ps : List Press) (d : Press) : Prop :=
  ∃ before after, ps = before ++ d :: after ∧ d.popup = false ∧ d.key = keys.older ∧
    walk keys n before = -1 ∧ ∀ since, since <+: after → 0 ≤ walk keys n (before ++ d :: since)

section Walk

variable (keys : Keys) (n : Nat)

@[simp] theorem walk_nil : walk keys n [] = -1 := rfl

@[simp] theorem walk_concat (ps : List Press) (p : Press) :
    walk keys n (ps ++ [p]) = stride keys n (walk keys n ps) p := by
  simp [walk]

/-- **The walk stays among the entries** and `-1`. -/
theorem walk_mem (ps : List Press) : -1 ≤ walk keys n ps ∧ walk keys n ps ≤ (n : Int) - 1 := by
  induction ps using List.reverseRecOn with
  | nil => rw [walk_nil]; omega
  | append_singleton ps p ih =>
      rw [walk_concat]
      unfold stride
      split
      · exact ih
      · split
        · split
          · exact ih
          · omega
        · split
          · omega
          · exact ih

variable {keys n} {ps : List Press} {p d : Press}

/-- **A departure stays the last one** until the walk is back at `-1`. -/
theorem Departure.concat (h : Departure keys n ps d) (hp : 0 ≤ walk keys n (ps ++ [p])) :
    Departure keys n (ps ++ [p]) d := by
  obtain ⟨before, after, rfl, hpopup, hkey, hbefore, hsince⟩ := h
  refine ⟨before, after ++ [p], by simp, hpopup, hkey, hbefore, fun since hstarts => ?_⟩
  rcases List.prefix_concat_iff.mp hstarts with rfl | hstarts
  · simpa using hp
  · exact hsince since hstarts

/-- A press that leads from `-1` to an entry is a departure. -/
theorem departure_of_leave (hps : walk keys n ps = -1) (hp : 0 ≤ walk keys n (ps ++ [p])) :
    Departure keys n (ps ++ [p]) p := by
  have hstride : 0 ≤ stride keys n (-1) p := by rwa [walk_concat, hps] at hp
  have hgoes : p.popup = false ∧ p.key = keys.older := by
    unfold stride at hstride
    split at hstride
    · omega
    · rename_i hpopup
      split at hstride
      · rename_i hkey
        exact ⟨by simpa using hpopup, hkey⟩
      · split at hstride
        · omega
        · omega
  refine ⟨ps, [], rfl, hgoes.1, hgoes.2, hps, fun since hstarts => ?_⟩
  rw [List.prefix_nil.mp hstarts]
  exact hp

/-- The walk is among the entries only after a departure. -/
theorem exists_departure (h : 0 ≤ walk keys n ps) : ∃ d, Departure keys n ps d := by
  induction ps using List.reverseRecOn with
  | nil => simp at h
  | append_singleton ps p ih =>
      by_cases hps : 0 ≤ walk keys n ps
      · obtain ⟨d, hd⟩ := ih hps
        exact ⟨d, hd.concat h⟩
      · have hmem := (walk_mem keys n ps).1
        exact ⟨p, departure_of_leave (by omega) h⟩

/-- After one more press the last departure is the press itself, or the one
before it if the walk was among the entries. -/
theorem Departure.of_concat (h : Departure keys n (ps ++ [p]) d) :
    d = p ∧ walk keys n ps = -1 ∧ p.popup = false ∧ p.key = keys.older ∨
      Departure keys n ps d ∧ 0 ≤ walk keys n ps := by
  obtain ⟨before, after, hsplit, hpopup, hkey, hbefore, hsince⟩ := h
  rcases List.eq_nil_or_concat after with rfl | ⟨after', p', rfl⟩
  · obtain ⟨rfl, hp⟩ := List.append_inj' hsplit rfl
    obtain rfl : p = d := by simpa using hp
    exact .inl ⟨rfl, hbefore, hpopup, hkey⟩
  · rw [List.concat_eq_append] at hsplit hsince
    rw [← List.cons_append, ← List.append_assoc] at hsplit
    obtain ⟨rfl, -⟩ := List.append_inj' hsplit rfl
    exact .inr ⟨⟨before, after', rfl, hpopup, hkey, hbefore,
      fun since hstarts => hsince since (hstarts.trans (List.prefix_append _ _))⟩,
      hsince after' (List.prefix_append _ _)⟩

end Walk

/-! ## What a press does to a ring -/

namespace Ring

/-- Where the cursor is, `-1` standing for no entry. -/
def index (r : Ring) : Int :=
  match r.position with
  | none => -1
  | some i => i

theorem index_eq_neg_one {r : Ring} : r.index = -1 ↔ r.position = none := by
  unfold index
  cases r.position with
  | none => simp
  | some i => simp

theorem index_eq_natCast {r : Ring} {i : Nat} : r.index = i ↔ r.position = some i := by
  unfold index
  cases r.position with
  | none => simp
  | some j => simp only [Int.natCast_inj, Option.some.injEq]

/-- Counted from the newest entry. -/
theorem back?_eq {r : Ring} {i : Nat} (h : i < r.entries.length) :
    r.back? i = r.entries[r.entries.length - 1 - i]? := by
  rw [back?, List.getElem?_reverse h]

theorem older_of_nil {r : Ring} (h : r.entries = []) (text : String) :
    r.older text = (r, none) := by
  rw [older, h]
  rfl

theorem older_of_none {r : Ring} (h : r.entries ≠ []) (hposition : r.position = none)
    (text : String) :
    r.older text = ({ r with position := some 0, draft := text }, r.back? 0) := by
  rw [older, if_neg (by rwa [List.isEmpty_iff]), hposition]

theorem older_of_some {r : Ring} {i : Nat} (h : r.entries ≠ []) (hposition : r.position = some i)
    (text : String) :
    r.older text = ({ r with position := some (min (i + 1) (r.entries.length - 1)) },
      r.back? (min (i + 1) (r.entries.length - 1))) := by
  rw [older, if_neg (by rwa [List.isEmpty_iff]), hposition]

theorem newer_of_none {r : Ring} (h : r.position = none) : r.newer = (r, none) := by
  rw [newer, h]

theorem newer_of_zero {r : Ring} (h : r.position = some 0) :
    r.newer = (r.settle, some r.draft) := by
  rw [newer, h]

theorem newer_of_succ {r : Ring} {i : Nat} (h : r.position = some (i + 1)) :
    r.newer = ({ r with position := some i }, r.back? i) := by
  rw [newer, h]

end Ring

/-- What a press can do to a ring, and what becomes of it. -/
inductive Effect (keys : Keys) (r : Ring) (p : Press) : Ring × KeyOutcome → Prop where
  /-- The press is left to others. -/
  | passed (h : p.popup = true ∨ p.key ≠ keys.older ∧ p.key ≠ keys.newer) :
      Effect keys r p (r, .passed)
  /-- There is no entry to go to. -/
  | nowhere (free : p.popup = false)
      (h : p.key = keys.older ∧ r.entries = [] ∨
        p.key ≠ keys.older ∧ p.key = keys.newer ∧ r.position = none) :
      Effect keys r p (r, .taken none)
  /-- The cursor goes to the newest entry, and what was being written is kept. -/
  | depart (free : p.popup = false) (back : p.key = keys.older) (live : r.position = none)
      (room : 0 < r.entries.length) :
      Effect keys r p ({ r with position := some 0, draft := p.text }, .taken (r.back? 0))
  /-- The cursor goes from entry to entry. -/
  | wander {i j : Nat} (free : p.popup = false) (key : p.key = keys.older ∨ p.key = keys.newer)
      (at_ : r.position = some i) (room : j < r.entries.length)
      (next : stride keys r.entries.length i p = j) :
      Effect keys r p ({ r with position := some j }, .taken (r.back? j))
  /-- The cursor leaves the entries, and the draft comes back. -/
  | restore (free : p.popup = false) (forth : p.key ≠ keys.older ∧ p.key = keys.newer)
      (newest : r.position = some 0) :
      Effect keys r p (r.settle, .taken (some r.draft))

/-- The cursor of a ring is at one of its entries, if at any. -/
def Ring.Sound (r : Ring) : Prop := ∀ i ∈ r.position, i < r.entries.length

/-- Gives a press to the history. -/
def Keys.give (keys : Keys) (r : Ring) (p : Press) : Ring × KeyOutcome :=
  keys.press r p.key p.popup p.text

section Effects

variable {keys : Keys} {r : Ring} {p : Press}

theorem give_of_passed (h : p.popup = true ∨ p.key ≠ keys.older ∧ p.key ≠ keys.newer) :
    keys.give r p = (r, .passed) := by
  unfold Keys.give Keys.press
  rcases h with hpopup | ⟨holder, hnewer⟩
  · rw [if_pos hpopup]
  · rw [if_neg holder, if_neg hnewer, ite_self]

/-- **What a press does is one of five things.** -/
theorem effect_give (h : r.Sound) : Effect keys r p (keys.give r p) := by
  by_cases hpopup : p.popup = true
  · rw [give_of_passed (.inl hpopup)]
    exact .passed (.inl hpopup)
  · unfold Keys.give Keys.press
    have hfree : p.popup = false := by simpa using hpopup
    rw [if_neg hpopup]
    by_cases holder : p.key = keys.older
    · rw [if_pos holder]
      by_cases hnil : r.entries = []
      · rw [Ring.older_of_nil hnil]
        exact .nowhere hfree (.inl ⟨holder, hnil⟩)
      · have hroom : 0 < r.entries.length := List.length_pos_iff.mpr hnil
        cases hposition : r.position with
        | none =>
            rw [Ring.older_of_none hnil hposition]
            exact .depart hfree holder hposition hroom
        | some i =>
            rw [Ring.older_of_some hnil hposition]
            refine .wander hfree (.inl holder) hposition (by omega) ?_
            rw [stride, if_neg hpopup, if_pos holder, if_neg (by omega)]
            omega
    · rw [if_neg holder]
      by_cases hnewer : p.key = keys.newer
      · rw [if_pos hnewer]
        cases hposition : r.position with
        | none =>
            rw [Ring.newer_of_none hposition]
            exact .nowhere hfree (.inr ⟨holder, hnewer, hposition⟩)
        | some i =>
            cases i with
            | zero =>
                rw [Ring.newer_of_zero hposition]
                exact .restore hfree ⟨holder, hnewer⟩ hposition
            | succ i =>
                rw [Ring.newer_of_succ hposition]
                have hlt := h (i + 1) (by rw [hposition]; rfl)
                refine .wander hfree (.inr hnewer) hposition (by omega) ?_
                rw [stride, if_neg hpopup, if_neg holder, if_pos hnewer]
                omega
      · rw [if_neg hnewer]
        exact .passed (.inr ⟨holder, hnewer⟩)

theorem Effect.entries {result : Ring × KeyOutcome} (h : Effect keys r p result) :
    result.1.entries = r.entries := by
  cases h with
  | passed _ => rfl
  | nowhere _ _ => rfl
  | depart _ _ _ _ => rfl
  | wander _ _ _ _ _ => rfl
  | restore _ _ _ => rfl

theorem Effect.sound {result : Ring × KeyOutcome} (h : Effect keys r p result) (hr : r.Sound) :
    result.1.Sound := by
  cases h with
  | passed _ => exact hr
  | nowhere _ _ => exact hr
  | depart _ _ _ room =>
      intro i hi
      obtain rfl := Option.some.inj hi
      exact room
  | wander _ _ _ room _ =>
      intro i hi
      obtain rfl := Option.some.inj hi
      exact room
  | restore _ _ _ =>
      intro i hi
      cases hi

/-- **A press moves the cursor by one step of the walk.** -/
theorem Effect.index {result : Ring × KeyOutcome} (h : Effect keys r p result) :
    result.1.index = stride keys r.entries.length r.index p := by
  cases h with
  | passed h =>
      unfold stride
      rcases h with hpopup | ⟨holder, hnewer⟩
      · rw [if_pos hpopup]
      · rw [if_neg holder, if_neg hnewer, ite_self]
  | nowhere free h =>
      rw [stride, if_neg (by simp [free])]
      rcases h with ⟨holder, hnil⟩ | ⟨holder, hnewer, hlive⟩
      · rw [if_pos holder, if_pos (by rw [hnil]; rfl)]
      · rw [if_neg holder, if_pos hnewer, Ring.index_eq_neg_one.mpr hlive]
        rfl
  | depart free back live room =>
      have hindex : r.index = -1 := Ring.index_eq_neg_one.mpr live
      rw [stride, if_neg (by simp [free]), if_pos back, if_neg (by omega), hindex]
      show (0 : Int) = _
      omega
  | wander _ _ at_ _ next =>
      rw [Ring.index_eq_natCast.mpr at_, next]
      rfl
  | restore free forth newest =>
      have hindex : r.index = (0 : Nat) := Ring.index_eq_natCast.mpr newest
      rw [stride, if_neg (by simp [free]), if_neg forth.1, if_pos forth.2, hindex]
      rfl

/-- A cursor that leaves `-1` keeps what was being written. -/
theorem Effect.draft_of_live {result : Ring × KeyOutcome} (h : Effect keys r p result)
    (hlive : r.index = -1) (hindex : 0 ≤ result.1.index) : result.1.draft = p.text := by
  cases h with
  | passed _ =>
      rw [hlive] at hindex
      omega
  | nowhere _ _ =>
      rw [hlive] at hindex
      omega
  | depart _ _ _ _ => rfl
  | wander _ _ at_ _ _ =>
      rw [Ring.index_eq_natCast.mpr at_] at hlive
      omega
  | restore _ _ newest =>
      rw [Ring.index_eq_natCast.mpr newest] at hlive
      omega

/-- A cursor that stays among the entries leaves the draft. -/
theorem Effect.draft_of_on {result : Ring × KeyOutcome} (h : Effect keys r p result)
    (hon : 0 ≤ r.index) (hindex : 0 ≤ result.1.index) : result.1.draft = r.draft := by
  cases h with
  | passed _ => rfl
  | nowhere _ _ => rfl
  | depart _ _ live _ =>
      rw [Ring.index_eq_neg_one.mpr live] at hon
      omega
  | wander _ _ _ _ _ => rfl
  | restore _ _ _ =>
      have hsettled : (-1 : Int) = r.settle.index := rfl
      rw [← hsettled] at hindex
      omega

/-- **What a press shows** that reaches the history. -/
theorem Effect.shown {result : Ring × KeyOutcome} (h : Effect keys r p result) (hr : r.Sound)
    (hfree : p.popup = false) (hkey : p.key = keys.older ∨ p.key = keys.newer) :
    ∃ text, result.2 = .taken text ∧
      (∀ i : Nat, result.1.index = i →
        ∃ entry, r.entries[r.entries.length - 1 - i]? = some entry ∧ text = some entry) ∧
      (r.entries = [] → text = none) ∧
      (p.key ≠ keys.older → r.index = -1 → text = none) ∧
      (r.index = 0 → result.1.index = -1 → text = some r.draft) := by
  have hback : ∀ i, i < r.entries.length →
      ∃ entry, r.entries[r.entries.length - 1 - i]? = some entry ∧ r.back? i = some entry := by
    intro i hi
    refine ⟨_, List.getElem?_eq_getElem (by omega), ?_⟩
    rw [Ring.back?_eq hi]
    exact List.getElem?_eq_getElem _
  cases h with
  | passed h =>
      rcases h with hpopup | ⟨holder, hnewer⟩
      · rw [hfree] at hpopup
        cases hpopup
      · exact absurd hkey (by simp [holder, hnewer])
  | nowhere _ h =>
      have hindex : r.index = -1 := by
        rcases h with ⟨-, hnil⟩ | ⟨-, -, hlive⟩
        · rw [Ring.index_eq_neg_one, Option.eq_none_iff_forall_ne_some]
          intro i hi
          have hlt := hr i hi
          rw [hnil] at hlt
          exact Nat.not_lt_zero i hlt
        · exact Ring.index_eq_neg_one.mpr hlive
      refine ⟨none, rfl, fun i hi => ?_, fun _ => rfl, fun _ _ => rfl, fun hzero => ?_⟩
      · have hi' : r.index = i := hi
        omega
      · omega
  | depart _ back live room =>
      refine ⟨_, rfl, fun i hi => ?_, fun hnil => ?_, fun holder => absurd back holder,
        fun hzero => ?_⟩
      · obtain rfl : i = 0 := by
          have hi' : ((0 : Nat) : Int) = i := hi
          omega
        exact hback 0 room
      · rw [hnil] at room
        exact absurd room (Nat.lt_irrefl 0)
      · rw [Ring.index_eq_neg_one.mpr live] at hzero
        omega
  | @wander i j _ _ at_ room _ =>
      refine ⟨_, rfl, fun i' hi' => ?_, fun hnil => ?_, fun _ hlive => ?_, fun _ hleft => ?_⟩
      · obtain rfl : i' = j := by
          have hj : (j : Int) = i' := hi'
          omega
        exact hback i' room
      · rw [hnil] at room
        exact absurd room (Nat.not_lt_zero j)
      · rw [Ring.index_eq_natCast.mpr at_] at hlive
        omega
      · have hj : (j : Int) = -1 := hleft
        omega
  | restore _ _ newest =>
      refine ⟨_, rfl, fun i hi => ?_, fun hnil => ?_, fun _ hlive => ?_, fun _ _ => rfl⟩
      · have hi' : (-1 : Int) = i := hi
        omega
      · have hlt := hr 0 (by rw [newest]; rfl)
        rw [hnil] at hlt
        exact absurd hlt (Nat.lt_irrefl 0)
      · rw [Ring.index_eq_natCast.mpr newest] at hlive
        omega

end Effects

/-! ## Runs of presses -/

/-- The ring after some presses. -/
def Keys.after (keys : Keys) (r : Ring) (ps : List Press) : Ring :=
  ps.foldl (fun r p => (keys.give r p).1) r

@[simp] theorem Keys.after_concat (keys : Keys) (r : Ring) (ps : List Press) (p : Press) :
    keys.after r (ps ++ [p]) = (keys.give (keys.after r ps) p).1 := by
  simp [Keys.after]

/-- A ring follows the presses: the entries stay, the cursor is where the walk
is, and the draft is the text of the last departure. -/
structure Follows (keys : Keys) (start : Ring) (ps : List Press) (r : Ring) : Prop where
  entries : r.entries = start.entries
  sound : r.Sound
  index : r.index = walk keys start.entries.length ps
  draft : ∀ d, Departure keys start.entries.length ps d → r.draft = d.text

namespace Follows

variable {keys : Keys} {start r : Ring} {ps : List Press}

theorem fresh (h : start.isBrowsing = false) : Follows keys start [] start := by
  have hposition : start.position = none := by simpa [Ring.isBrowsing] using h
  refine ⟨rfl, fun i hi => ?_, Ring.index_eq_neg_one.mpr hposition, ?_⟩
  · rw [hposition] at hi
    cases hi
  · rintro d ⟨before, after, hsplit, -⟩
    simp at hsplit

/-- **Every press keeps the ring with the walk.** -/
theorem step (h : Follows keys start ps r) (p : Press) :
    Follows keys start (ps ++ [p]) (keys.give r p).1 := by
  have heffect : Effect keys r p (keys.give r p) := effect_give h.sound
  refine ⟨heffect.entries.trans h.entries, heffect.sound h.sound, ?_, fun d hd => ?_⟩
  · rw [heffect.index, h.entries, h.index, walk_concat]
  · -- The departure is this press or an earlier one; a draft is lost only on the
    -- way back to `-1`, and then no departure is left.
    have hwalk : 0 ≤ (keys.give r p).1.index := by
      obtain ⟨before, after, hsplit, -, -, -, hsince⟩ := hd
      rw [heffect.index, h.entries, h.index, ← walk_concat, hsplit]
      exact hsince after (List.prefix_refl _)
    rcases hd.of_concat with ⟨rfl, hlive, -⟩ | ⟨hd, hon⟩
    · exact heffect.draft_of_live (h.index.trans hlive) hwalk
    · rw [heffect.draft_of_on (h.index ▸ hon) hwalk]
      exact h.draft d hd

theorem after (h : start.isBrowsing = false) (ps : List Press) :
    Follows keys start ps (keys.after start ps) := by
  induction ps using List.reverseRecOn with
  | nil => exact fresh h
  | append_singleton ps p ih =>
      rw [Keys.after_concat]
      exact ih.step p

end Follows

/-- **Recalling follows the walk.**  Take a ring of `n` entries that is not
browsing, two different keys, any presses and one more press.  The cursor is where
the walk leads, which is always between `-1` and `n - 1`, and the entries stay.  A
press with the popup showing, or of another key, is left to others and changes
nothing.  Any other press is taken.  If it leads to an entry, that entry is
shown; on an empty ring, and for the newer key at `-1`, nothing is; and on the way
from the newest entry back to `-1` it is the text of the press that was the last
one to leave `-1`, of which there is always one. -/
theorem recall_follows_walk (keys : Keys) (hkeys : keys.older ≠ keys.newer) (start : Ring)
    (hstart : start.isBrowsing = false) (ps : List Press) (p : Press) :
    let n := start.entries.length
    let r := keys.after start ps
    let given := keys.press r p.key p.popup p.text
    let i := walk keys n ps
    let j := walk keys n (ps ++ [p])
    r.index = i ∧ given.1.index = j ∧ given.1.entries = start.entries ∧
      (-1 ≤ j ∧ j ≤ (n : Int) - 1) ∧
      (p.popup = true ∨ p.key ≠ keys.older ∧ p.key ≠ keys.newer → given = (r, .passed)) ∧
      (p.popup = false → p.key = keys.older ∨ p.key = keys.newer →
        ∃ text, given.2 = .taken text ∧
          (∀ m : Nat, j = m →
            ∃ entry, start.entries[n - 1 - m]? = some entry ∧ text = some entry) ∧
          (n = 0 → text = none) ∧
          (p.key = keys.newer → i = -1 → text = none) ∧
          (i = 0 → j = -1 →
            ∃ d, Departure keys n ps d ∧ text = some d.text ∧
              ∀ d', Departure keys n ps d' → text = some d'.text)) := by
  intro n r given i j
  have hfollows : Follows keys start ps r := .after hstart ps
  have heffect : Effect keys r p given := effect_give hfollows.sound
  have hentries : r.entries = start.entries := hfollows.entries
  have hindex : given.1.index = j := by
    rw [heffect.index, hentries, hfollows.index]
    exact (walk_concat keys n ps p).symm
  refine ⟨hfollows.index, hindex, heffect.entries.trans hentries, walk_mem keys n _, ?_, ?_⟩
  · exact give_of_passed
  · intro hfree hkey
    obtain ⟨text, htaken, hentry, hnil, hnewer, hdraft⟩ :=
      heffect.shown hfollows.sound hfree hkey
    rw [hentries] at hentry hnil
    refine ⟨text, htaken, fun m hm => hentry m (hindex.trans hm), fun hn => ?_, fun hkey hi => ?_,
      fun hi hj => ?_⟩
    · exact hnil (List.length_eq_zero_iff.mp hn)
    · exact hnewer (hkey ▸ hkeys.symm) (hfollows.index.trans hi)
    · have htext := hdraft (hfollows.index.trans hi) (hindex.trans hj)
      obtain ⟨d, hd⟩ : ∃ d, Departure keys n ps d := exists_departure (Int.le_of_eq hi.symm)
      refine ⟨d, hd, ?_, fun d' hd' => ?_⟩
      · rw [htext, hfollows.draft d hd]
      · rw [htext, hfollows.draft d' hd']

/-- Two entries and a walk that leaves `-1` twice: the draft of the second
departure comes back, past a press with the popup showing and one at the oldest
entry. -/
theorem recall_follows_walk_twice :
    let keys : Keys := {}
    let start : Ring := { entries := ["SELECT 1", "SELECT 2"] }
    let ps : List Press :=
      [⟨"up", false, "SEL"⟩, ⟨"down", false, "SELECT 2"⟩, ⟨"up", false, "FROM"⟩,
        ⟨"up", true, "SELECT 2"⟩, ⟨"up", false, "SELECT 2"⟩, ⟨"up", false, "SELECT 1"⟩,
        ⟨"down", false, "SELECT 1"⟩]
    let p : Press := ⟨"down", false, "SELECT 2"⟩
    keys.older ≠ keys.newer ∧ start.isBrowsing = false ∧
      (keys.press (keys.after start ps) p.key p.popup p.text).2 = .taken (some "FROM") ∧
      (keys.press (keys.after start ps) p.key p.popup p.text).1.index = -1 := by
  intro keys start ps p
  have hkeys : keys.older ≠ keys.newer := by decide
  have hstart : start.isBrowsing = false := rfl
  have h := recall_follows_walk keys hkeys start hstart ps p
  obtain ⟨-, hindex, -, -, -, hshown⟩ := h
  refine ⟨hkeys, hstart, ?_, hindex.trans (by decide)⟩
  obtain ⟨text, htaken, -, -, -, hdraft⟩ := hshown rfl (.inr rfl)
  have hlast : Departure keys 2 ps ⟨"up", false, "FROM"⟩ := by
    have hsince : ∀ since ∈ (ps.drop 3).inits,
        0 ≤ walk keys 2 (ps.take 2 ++ ⟨"up", false, "FROM"⟩ :: since) := by decide
    exact ⟨ps.take 2, ps.drop 3, rfl, rfl, rfl, by decide, fun since hstarts =>
      hsince since ((List.mem_inits _ _).mpr hstarts)⟩
  obtain ⟨d, -, -, hevery⟩ := hdraft (by decide) (by decide)
  rw [htaken, hevery _ hlast]

end QueryDesk.History
