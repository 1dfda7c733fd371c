import TacticalMicrogrid.Common.Selector.Overflow
import TacticalMicrogrid.Common.Selector.Timely

/-!
# Exact ages on a 64-bit clock

Most results about a selector are about exact ages. After the epoch, 64-bit ages are exact but for
that of `TimePoint::min()`, which is negative. So a selector with 64-bit time points does what one
with exact time points does, unless a controller that was never heard from is the first recent one
of `select_controller`, or the only kind of recent one that MissedHeartbeat finds. In runs in which
neither happens, what is known of exact ages holds on the clock of the source.

## Main definitions

* `ControllerSelector.mapTime`: a selector with its time points in another representation.
* `ControllerSelector.FindsSame`: the handler of an input finds the same in both.
* `ControllerSelector.Config.exact`: a selector with 64-bit time points, seen with exact ones.
* `ControllerSelector.FindsHeard`: the condition on the table and the reading.

## Main results

* `ControllerSelector.Outcome.mapTime`: the handlers commute with a change of the representation.
* `ControllerSelector.exact_run_iff`: when a run on the 64-bit clock is one with exact ages.
* `ControllerSelector.drops_silent_of_run`: a silent controller is given up in time on the 64-bit
  clock.
-/

namespace TacticalMicrogrid

open TransitionSystem

namespace ControllerSelector

/-! ### Another representation of the time points -/

section MapTime

variable {τ τ' : Type} {f : τ → τ'} {s s' : ControllerSelector τ} {now : ℤ} {i : Input}
  {effects : List Effect}

/-- The selector with its time points in another representation. -/
def mapTime (f : τ → τ') (s : ControllerSelector τ) : ControllerSelector τ' :=
  { s with allControllers := s.allControllers.map f }

theorem mem_mapTime {id : Identity} :
    id ∈ (s.mapTime f).allControllers ↔ id ∈ s.allControllers := by
  rw [AList.mem_keys, AList.mem_keys, mapTime, Table.keys_map]

theorem find?_mapTime (id : Identity) :
    (s.mapTime f).allControllers.find? id = (s.allControllers.find? id).map f :=
  Table.find?_map ..

theorem expiry_mapTime (k : TimerKind) : (s.mapTime f).expiry k = s.expiry k := by
  cases k <;> rfl

theorem WellFormed.mapTime (h : s.WellFormed) : (s.mapTime f).WellFormed where
  period_newController := h.period_newController
  period_missedHeartbeat := h.period_missedHeartbeat
  period_lostController := h.period_lostController
  period_noControllers := h.period_noControllers
  perm_ids := h.perm_ids.trans (.of_eq (Table.keys_map ..).symm)
  id_ne_empty id hid := h.id_ne_empty id (mem_mapTime.mp hid)
  trigger_mem hactive := mem_mapTime.mpr (h.trigger_mem hactive)

variable [TimePoint τ] [TimePoint τ']

/-- The age of a controller is the same in both representations. -/
def SameAge (f : τ → τ') (s : ControllerSelector τ) (now : ℤ) (id : Identity) : Prop :=
  ∀ t ∈ s.allControllers.find? id, TimePoint.age now (f t) = TimePoint.age now t

/-- The loop in the handler of an input finds the same in both representations: that of
`select_controller` computes the same ages, and that of MissedHeartbeat decides the same. -/
def FindsSame (f : τ → τ') (s : ControllerSelector τ) (now : ℤ) : Input → Prop
  | .timeout .newController | .timeout .lostController =>
    ∀ pc ∈ s.selectReads now, s.SameAge f now pc.id
  | .timeout .missedHeartbeat => (s.mapTime f).SomeRecent now ↔ s.SomeRecent now
  | .timeout .noControllers | .deviceInfo _ | .heartbeat _ => True

theorem available_mapTime {pc : PrioritizedController} (h : s.SameAge f now pc.id) :
    (s.mapTime f).available now pc = s.available now pc := by
  rw [available, available, find?_mapTime]
  cases ht : s.allControllers.find? pc.id with
  | none => rfl
  | some t =>
    change isRecent now (f t) = isRecent now t
    rw [isRecent, isRecent, h t ht]

theorem ageOf_mapTime {id : Identity} (h : s.SameAge f now id) :
    (s.mapTime f).ageOf now id = s.ageOf now id := by
  rw [ageOf, ageOf, find?_mapTime]
  cases ht : s.allControllers.find? id with
  | none => rfl
  | some t => exact congrArg (·.getD 0) (h t ht)

theorem heard_mapTime (hnow : f (TimePoint.now now) = TimePoint.now now) (id : Identity) :
    (s.mapTime f).heard now id = (s.heard now id).mapTime f := by
  rw [heard, heard, mapTime, mapTime, Table.map_set, hnow]

theorem selecting_mapTime {id : Identity} (h : s.SameAge f now id) :
    (s.mapTime f).selecting now id = (s.selecting now id).mapTime f := by
  rw [selecting, selecting, ageOf_mapTime h]
  rfl

/-- `select_controller` finds the same controller. -/
theorem first?_available_mapTime (h : ∀ pc ∈ s.selectReads now, s.SameAge f now pc.id) :
    (s.mapTime f).prioritizedControllers.first? ((s.mapTime f).available now) =
      s.prioritizedControllers.first? (s.available now) :=
  OrderedSet.first?_congr fun pc hpc => available_mapTime (h pc hpc)

/-- The handlers commute with another representation of the time points, if they find the same. -/
theorem Outcome.mapTime (hwf : s.WellFormed) (hnow : f (TimePoint.now now) = TimePoint.now now)
    (hmin : f TimePoint.min = TimePoint.min) (hsame : s.FindsSame f now i)
    (h : Outcome s now i s' effects) :
    Outcome (s.mapTime f) now i (s'.mapTime f) effects := by
  cases h with
  | deviceInfoIgnored di hold =>
    exact .deviceInfoIgnored di fun hnew => hold ⟨hnew.1, mt mem_mapTime.mpr hnew.2⟩
  | deviceInfoNew di hrole hnew =>
    have hset : (s.mapTime f).allControllers.set di.deviceId TimePoint.min =
        (s.allControllers.set di.deviceId TimePoint.min).map f := by
      rw [Table.map_set, hmin, ControllerSelector.mapTime]
    have hout : Outcome (s.mapTime f) now (.deviceInfo di) _ _ :=
      .deviceInfoNew di hrole (mt mem_mapTime.mp hnew)
    rwa [hset] at hout
  | heartbeatUnknown hb hunknown => exact .heartbeatUnknown hb (mt mem_mapTime.mp hunknown)
  | heartbeatWaiting hb hknown hsel hactive =>
    rw [← heard_mapTime hnow]
    exact .heartbeatWaiting hb (mem_mapTime.mpr hknown) hsel hactive
  | heartbeatFirst hb hknown hsel hactive =>
    have hout : Outcome (s.mapTime f) now (.heartbeat hb) _ _ :=
      .heartbeatFirst hb (mem_mapTime.mpr hknown) hsel hactive
    rwa [heard_mapTime hnow] at hout
  | heartbeatOther hb hknown hsel hother =>
    rw [← heard_mapTime hnow]
    exact .heartbeatOther hb (mem_mapTime.mpr hknown) hsel hother
  | heartbeatSelected hb hknown hsel hself hactive =>
    have hout : Outcome (s.mapTime f) now (.heartbeat hb) _ _ :=
      .heartbeatSelected hb (mem_mapTime.mpr hknown) hsel hself hactive
    rwa [heard_mapTime hnow] at hout
  | heartbeatResumed hb hknown hsel hself hactive =>
    have hout : Outcome (s.mapTime f) now (.heartbeat hb) _ _ :=
      .heartbeatResumed hb (mem_mapTime.mpr hknown) hsel hself hactive
    rwa [heard_mapTime hnow] at hout
  | newControllerNone hnone =>
    rw [← first?_available_eq_none_iff hwf, ← first?_available_mapTime hsame,
      first?_available_eq_none_iff hwf.mapTime] at hnone
    exact .newControllerNone hnone
  | newControllerSelect pc hpc hactive =>
    have hout : Outcome (s.mapTime f) now (.timeout .newController) _ _ :=
      .newControllerSelect pc ((first?_available_mapTime hsame).trans hpc) hactive
    rwa [selecting_mapTime (hsame pc (OrderedSet.mem_walk_of_first? hpc))] at hout
  | missedHeartbeatAvailable hactive havail =>
    have hiff : (s.mapTime f).SomeRecent now ↔ s.SomeRecent now := hsame
    rw [← not_someRecent_iff, ← hiff, not_someRecent_iff] at havail
    exact .missedHeartbeatAvailable hactive havail
  | missedHeartbeatNone hactive hno hnone =>
    have hiff : (s.mapTime f).SomeRecent now ↔ s.SomeRecent now := hsame
    rw [← not_someRecent_iff, ← hiff, not_someRecent_iff] at hnone
    exact .missedHeartbeatNone hactive hno hnone
  | lostControllerNone hnone =>
    rw [← first?_available_eq_none_iff hwf, ← first?_available_mapTime hsame,
      first?_available_eq_none_iff hwf.mapTime] at hnone
    exact .lostControllerNone hnone
  | lostControllerSelect pc hpc hactive =>
    have hout : Outcome (s.mapTime f) now (.timeout .lostController) _ _ :=
      .lostControllerSelect pc ((first?_available_mapTime hsame).trans hpc) hactive
    rwa [selecting_mapTime (hsame pc (OrderedSet.mem_walk_of_first? hpc))] at hout
  | noControllers => exact .noControllers

omit [TimePoint τ] [TimePoint τ'] in
/-- What can be handled in one representation can be handled in the other. -/
theorem admissible_mapTime_iff : (s.mapTime f).Admissible now i ↔ s.Admissible now i := by
  cases i with
  | deviceInfo | heartbeat => exact Iff.rfl
  | timeout k => rw [Admissible, Admissible, expiry_mapTime]

/-- A step is a step in the other representation. -/
theorem Step.mapTime {c c' : Config τ} {l : Label} (hwf : c.selector.WellFormed)
    (hnow : f (TimePoint.now l.event.now) = TimePoint.now l.event.now)
    (hmin : f TimePoint.min = TimePoint.min)
    (hsame : c.selector.FindsSame f l.event.now l.event.input) (h : Step c l c') :
    Step ⟨c.selector.mapTime f, c.clock⟩ l ⟨c'.selector.mapTime f, c'.clock⟩ := by
  obtain ⟨⟨hclock, hadm⟩, hhandle, htime⟩ := h
  have hadm' : (c.selector.mapTime f).Admissible l.event.now l.event.input :=
    admissible_mapTime_iff.mpr hadm
  have hout := (Outcome.of_handle hwf hadm hhandle).mapTime hwf hnow hmin hsame
  exact ⟨⟨hclock, hadm'⟩, Outcome.handle_eq hwf.mapTime hadm' hout, htime⟩

end MapTime

/-! ### 64-bit time points -/

/-- A 64-bit time point as an exact one. -/
def exactTime (t : Int64) : ExactTime := if t = TimePoint.min then none else some t.toInt

/-- A selector with 64-bit time points, seen with exact ones. -/
abbrev exact (s : ControllerSelector Int64) : ControllerSelector ExactTime := s.mapTime exactTime

/-- A selector with 64-bit time points and the last reading, seen with exact time points. -/
def Config.exact (c : Config Int64) : Config ExactTime := ⟨c.selector.exact, c.clock⟩

/-- What the handler of an input looks for it finds among the controllers that were heard from:
`select_controller` before it gets to one that was never heard from, and MissedHeartbeat at all if
it finds something. -/
def FindsHeard (s : ControllerSelector Int64) (now : ℤ) : Input → Prop
  | .timeout .newController | .timeout .lostController =>
    ∀ pc ∈ s.prioritizedControllers.toList, s.NeverHeard pc.id →
      ∃ pc' ∈ s.prioritizedControllers.toList, pc' < pc ∧ s.HasRecentHeartbeat now pc'.id
  | .timeout .missedHeartbeat => ∀ id ∈ s.allControllers.keys, s.NeverHeard id →
      ∃ id' ∈ s.allControllers.keys, s.HasRecentHeartbeat now id'
  | .timeout .noControllers | .deviceInfo _ | .heartbeat _ => True

instance (s : ControllerSelector Int64) (now : ℤ) : (i : Input) → Decidable (s.FindsHeard now i)
  | .timeout .newController | .timeout .lostController =>
    inferInstanceAs (Decidable (∀ pc ∈ s.prioritizedControllers.toList, s.NeverHeard pc.id → _))
  | .timeout .missedHeartbeat =>
    inferInstanceAs (Decidable (∀ id ∈ s.allControllers.keys, s.NeverHeard id → _))
  | .timeout .noControllers | .deviceInfo _ | .heartbeat _ => isTrue trivial

theorem exactTime_min : exactTime TimePoint.min = TimePoint.min := if_pos rfl

theorem exactTime_now {now : ℤ} (hepoch : 0 ≤ now) (hnow : now < 2 ^ 63) :
    exactTime (TimePoint.now now) = TimePoint.now now := by
  have hne : (TimePoint.now now : Int64) ≠ TimePoint.min := fun heq => by
    have hint := congrArg Int64.toInt heq
    rw [toInt_now hepoch hnow] at hint
    change now = Int64.minValue.toInt at hint
    rw [Int64.toInt_minValue] at hint
    linarith
  rw [exactTime, if_neg hne, toInt_now hepoch hnow]
  rfl

section Exact

variable {c c' : Config Int64} {l : Label} {now : ℤ} {i : Input}

/-- The age of a controller that was heard from is exact. -/
theorem sameAge_exactTime (h : HeardInRange c) (hclock : c.clock ≤ now) (hnow : now < 2 ^ 63)
    {id : Identity} (hheard : ¬c.selector.NeverHeard id) :
    c.selector.SameAge exactTime now id := by
  intro t ht
  rcases h id t ht with rfl | ⟨h0, hle⟩
  · exact absurd ht hheard
  · have hne : t ≠ TimePoint.min := fun heq => hheard (ht.trans (congrArg some heq))
    rw [exactTime, if_neg hne, age_eq_of_heard h0 (hle.trans hclock) hnow]
    rfl

/-- With exact ages the controllers with a recent heartbeat are the recent ones. -/
theorem recent_exact_iff {id : Identity} :
    c.selector.exact.recent now id = true ↔ c.selector.HasRecentHeartbeat now id := by
  rw [recent, find?_mapTime, Option.any_map, Option.any_eq_true]
  refine exists_congr fun t => and_congr_right fun ht => ?_
  rw [exactTime]
  split_ifs with hmin
  · exact iff_of_false Bool.false_ne_true fun h => h.1 hmin
  · simp [isRecent, hmin]

theorem someRecent_iff {τ : Type} [TimePoint τ] {s : ControllerSelector τ} :
    s.SomeRecent now ↔ ∃ id, s.recent now id = true := by
  simp only [SomeRecent, recent_iff]

/-- MissedHeartbeat decides as with exact ages exactly if it does not depend on a controller that
was never heard from. -/
theorem someRecent_exact_iff (h : HeardInRange c) (hclock : c.clock ≤ now) (hepoch : 0 ≤ now)
    (hnow : now < 2 ^ 63) : (c.selector.exact.SomeRecent now ↔ c.selector.SomeRecent now) ↔
      c.selector.FindsHeard now (.timeout .missedHeartbeat) := by
  simp only [someRecent_iff, recent_exact_iff, recent_iff_heard h hclock hepoch hnow, FindsHeard]
  constructor
  · intro hiff id _ hnever
    obtain ⟨id', t, ht, hrecent⟩ := hiff.mpr ⟨id, Or.inl hnever⟩
    exact ⟨id', AList.mem_keys.mp (Table.mem_of_find? ht), t, ht, hrecent⟩
  · intro hheard
    refine ⟨fun ⟨id, hrecent⟩ => ⟨id, Or.inr hrecent⟩, ?_⟩
    rintro ⟨id, hnever | hrecent⟩
    · obtain ⟨id', -, hrecent⟩ :=
        hheard id (AList.mem_keys.mp (Table.mem_of_find? hnever)) hnever
      exact ⟨id', hrecent⟩
    · exact ⟨id, hrecent⟩

/-- A step whose handler finds what it looks for among the controllers that were heard from is a
step with exact ages. -/
theorem Step.exact (hwf : c.selector.WellFormed) (hrange : HeardInRange c)
    (hepoch : 0 ≤ l.event.now) (hnow : l.event.now < 2 ^ 63) (h : Step c l c')
    (hheard : c.selector.FindsHeard l.event.now l.event.input) : Step c.exact l c'.exact := by
  refine h.mapTime hwf (exactTime_now hepoch hnow) exactTime_min ?_
  cases hi : l.event.input with
  | deviceInfo | heartbeat => trivial
  | timeout k =>
    rw [hi] at hheard
    cases k with
    | newController | lostController =>
      exact fun pc hpc => sameAge_exactTime hrange h.1.1 hnow
        ((forall_selectReads_iff hrange h.1.1 hepoch hnow).mpr hheard pc hpc)
    | missedHeartbeat => exact (someRecent_exact_iff hrange h.1.1 hepoch hnow).mpr hheard
    | noControllers => trivial

/-- If `select_controller` gets to a controller that was never heard from, it selects it, and with
exact ages it does not. -/
theorem findsHeard_of_selected (hwf : c.selector.WellFormed) (hrange : HeardInRange c)
    (hclock : c.clock ≤ now) (hepoch : 0 ≤ now) (hnow : now < 2 ^ 63) {sel : Identity}
    (hsel : sel = "") (h : ((c.selector.exact.prioritizedControllers.first?
        (c.selector.exact.available now)).map (·.id)).getD sel =
      ((c.selector.prioritizedControllers.first? (c.selector.available now)).map (·.id)).getD sel) :
    ∀ pc ∈ c.selector.prioritizedControllers, c.selector.NeverHeard pc.id →
      ∃ pc' ∈ c.selector.prioritizedControllers,
        pc' < pc ∧ c.selector.HasRecentHeartbeat now pc'.id := by
  rw [← forall_selectReads_iff hrange hclock hepoch hnow]
  intro pc hpc hnever
  have havailable : c.selector.available now pc = true := by
    rw [available_eq_recent, recent_iff_heard hrange hclock hepoch hnow]
    exact Or.inl hnever
  have hfirst := OrderedSet.first?_of_mem_walk hpc havailable
  rw [hfirst, Option.map_some, Option.getD_some] at h
  cases hexact : c.selector.exact.prioritizedControllers.first?
      (c.selector.exact.available now) with
  | none =>
    rw [hexact, Option.map_none, Option.getD_none, hsel] at h
    exact hwf.id_ne_of_first? hfirst h.symm
  | some pc' =>
    rw [hexact, Option.map_some, Option.getD_some] at h
    have hrecent := available_of_first? hexact
    rw [available_eq_recent, recent_exact_iff, h] at hrecent
    obtain ⟨t, ht, hne, -⟩ := hrecent
    exact hne (Option.some.inj (ht.symm.trans hnever))

/-- If MissedHeartbeat finds no controller that was heard from recently, but one that was never
heard from, it does not start NoControllers, and with exact ages it does. -/
theorem someRecent_of_missedHeartbeat {s' : ControllerSelector Int64} {effects : List Effect}
    (hout : Outcome c.selector now (.timeout .missedHeartbeat) s' effects)
    (hout' : Outcome c.selector.exact now (.timeout .missedHeartbeat) s'.exact effects)
    (h : c.selector.SomeRecent now) : c.selector.exact.SomeRecent now := by
  by_contra hnot
  have hsame : s'.noControllers = c.selector.noControllers := by
    cases hout with
    | missedHeartbeatAvailable => rfl
    | missedHeartbeatNone _ _ hnone => exact absurd h (not_someRecent_iff.mpr hnone)
  generalize hs : s'.exact = s'' at hout'
  cases hout' with
  | missedHeartbeatAvailable _ havail => exact absurd (not_someRecent_iff.mp hnot) havail
  | missedHeartbeatNone _ hno =>
    have hactive : s'.noControllers.active = true :=
      congrArg (fun s : ControllerSelector ExactTime => s.noControllers.active) hs
    rw [hsame] at hactive
    exact Bool.false_ne_true (hno.symm.trans hactive)

/-- A step that is one with exact ages finds what it looks for among the controllers that were heard
from. -/
theorem Step.findsHeard_of_exact (hwf : c.selector.WellFormed) (hrange : HeardInRange c)
    (hepoch : 0 ≤ l.event.now) (hnow : l.event.now < 2 ^ 63) (htimers : TimersConsistent c.exact)
    (h : Step c l c') (hexact : Step c.exact l c'.exact) :
    c.selector.FindsHeard l.event.now l.event.input := by
  have hout := Outcome.of_handle hwf h.1.2 h.2.1
  have hout' := Outcome.of_handle hwf.mapTime hexact.1.2 hexact.2.1
  have hafter := hout.selected_eq hwf
  have hselected := (hout'.selected_eq hwf.mapTime).symm.trans hafter
  have hactive := hexact.1.2
  cases hi : l.event.input with
  | deviceInfo | heartbeat => trivial
  | timeout k =>
    rw [hi] at hout hout' hselected hactive
    cases k with
    | newController =>
      have hempty := htimers.selected_of_newController (active_of_expiry hactive)
      exact findsHeard_of_selected hwf hrange h.1.1 hepoch hnow hempty hselected
    | lostController => exact findsHeard_of_selected hwf hrange h.1.1 hepoch hnow rfl hselected
    | missedHeartbeat =>
      refine (someRecent_exact_iff hrange h.1.1 hepoch hnow).mp
        ⟨fun hrecent => ?_, someRecent_of_missedHeartbeat hout hout'⟩
      simp only [someRecent_iff, recent_exact_iff] at hrecent
      obtain ⟨id, hrecent⟩ := hrecent
      exact someRecent_iff.mpr
        ⟨id, (recent_iff_heard hrange h.1.1 hepoch hnow).mpr (Or.inr hrecent)⟩
    | noControllers => trivial

end Exact

/-! ### Runs -/

/-- No reading of a run is after its end. -/
theorem IsSelectorRun.now_le {τ : Type} [TimePoint τ] {tr : Trace τ} {c : Config τ}
    (h : IsSelectorRun tr c) : ∀ t ∈ tr, t.label.event.now ≤ c.clock := by
  refine h.traceInvariant (P := fun tr c => ∀ t ∈ tr, t.label.event.now ≤ c.clock)
    (fun _ _ _ t ht => absurd ht List.not_mem_nil) ?_
  intro tr c e s' effects _ hle henabled _ t ht
  rcases List.mem_append.mp ht with ht | ht
  · exact (hle t ht).trans henabled.1
  · rw [List.mem_singleton.mp ht]

section Runs

variable {tr : Trace Int64} {c : Config Int64}

/-- What holds before a step of a run on the 64-bit clock. -/
theorem IsSelectorRun.of_prefix_inRange (h : IsSelectorRun tr c) (hepoch : AfterEpoch tr)
    (hclock : c.clock < 2 ^ 63) {pre : Trace Int64} {t : Transition (Config Int64) Label}
    (hpre : pre ++ [t] <+: tr) : t.source.selector.WellFormed ∧ HeardInRange t.source ∧
      0 ≤ t.label.event.now ∧ t.label.event.now < 2 ^ 63 ∧ Step t.source t.label t.target := by
  have ht : t ∈ tr := hpre.subset (List.mem_append_right _ List.mem_cons_self)
  have hnow := (h.now_le t ht).trans_lt hclock
  obtain ⟨deviceId, callbacks, clock, hrun⟩ := h
  obtain ⟨hbefore, hstep⟩ := hrun.of_prefix_snoc hpre
  have hbefore : IsSelectorRun pre t.source := ⟨deviceId, callbacks, clock, hbefore⟩
  have hrange := hbefore.heardInRange
    (fun u hu => hepoch u (hpre.subset (List.mem_append_left _ hu))) (hstep.1.1.trans_lt hnow)
  exact ⟨hbefore.wellFormed, hrange, hepoch t ht, hnow, hstep⟩

/-- A run whose handlers find what they look for among the controllers that were heard from is a run
with exact ages. -/
theorem IsSelectorRun.exact (h : IsSelectorRun tr c) (hepoch : AfterEpoch tr)
    (hclock : c.clock < 2 ^ 63)
    (hheard : ∀ t ∈ tr, t.source.selector.FindsHeard t.label.event.now t.label.event.input) :
    IsSelectorRun (tr.map (Transition.map Config.exact)) c.exact := by
  have hsteps : ∀ t ∈ tr, Step t.source.exact t.label t.target.exact := fun t ht => by
    obtain ⟨pre, hpre⟩ := exists_prefix_snoc_of_mem ht
    obtain ⟨hwf, hrange, hpos, hnow, hstep⟩ := h.of_prefix_inRange hepoch hclock hpre
    exact hstep.exact hwf hrange hpos hnow (hheard t ht)
  obtain ⟨deviceId, callbacks, clock, hrun⟩ := h
  exact ⟨deviceId, callbacks, clock, hrun.map hsteps⟩

/-- In a run that is one with exact ages too, all handlers find what they look for among the
controllers that were heard from. -/
theorem IsSelectorRun.findsHeard_of_exact (h : IsSelectorRun tr c) (hepoch : AfterEpoch tr)
    (hclock : c.clock < 2 ^ 63)
    (hexact : IsSelectorRun (tr.map (Transition.map Config.exact)) c.exact) :
    ∀ t ∈ tr, t.source.selector.FindsHeard t.label.event.now t.label.event.input := by
  intro t ht
  obtain ⟨pre, hpre⟩ := exists_prefix_snoc_of_mem ht
  obtain ⟨hwf, hrange, hpos, hnow, hstep⟩ := h.of_prefix_inRange hepoch hclock hpre
  have hpre' := hpre.map (Transition.map Config.exact)
  rw [List.map_append, List.map_singleton] at hpre'
  obtain ⟨deviceId, callbacks, clock, hrun⟩ := hexact
  obtain ⟨hbefore, hstep'⟩ := hrun.of_prefix_snoc hpre'
  have hbefore : IsSelectorRun (pre.map (Transition.map Config.exact)) t.source.exact :=
    ⟨deviceId, callbacks, clock, hbefore⟩
  exact Step.findsHeard_of_exact hwf hrange hpos hnow hbefore.timersConsistent hstep hstep'

/-- **Exact ages on a 64-bit clock.** A run whose readings are after the epoch and fit into 64 bits
is, with the same events and the same calls, a run with exact ages, if and only if all its handlers
find what they look for among the controllers that were heard from. -/
theorem exact_run_iff (h : IsSelectorRun tr c) (hepoch : AfterEpoch tr)
    (hclock : c.clock < 2 ^ 63) : IsSelectorRun (tr.map (Transition.map Config.exact)) c.exact ↔
      ∀ t ∈ tr, t.source.selector.FindsHeard t.label.event.now t.label.event.input :=
  ⟨h.findsHeard_of_exact hepoch hclock, h.exact hepoch hclock⟩

end Runs

/-- A device that knows a second controller from its `DeviceInfo` only, and whose first one comes
before it. -/
theorem exact_run_of_two : ∃ (tr : Trace Int64) (c : Config Int64),
    IsSelectorRun tr c ∧ c.selector.NeverHeard "mc2" ∧ c.selector.selected = "mc1" ∧
      IsSelectorRun (tr.map (Transition.map Config.exact)) c.exact :=
  have hrun := isSelectorRun_of_follow "dev" {} 0
    [⟨0, .deviceInfo ⟨"mc1", .microgridController, none⟩⟩,
      ⟨0, .deviceInfo ⟨"mc2", .microgridController, none⟩⟩, ⟨Sec 1, .heartbeat ⟨"mc1", 0⟩⟩,
      ⟨Sec 3, .heartbeat ⟨"mc1", 1⟩⟩, ⟨Sec 4, .timeout .newController⟩] rfl
  ⟨_, _, hrun, by decide, by decide,
    (exact_run_iff hrun (by decide) (by decide)).mpr (by decide)⟩

/-! ### Silent controllers -/

/-- The heartbeats of a run are the same in both representations. -/
theorem lastHeartbeat_map {σ σ' : Type} (f : Config σ → Config σ') (x : Identity) (tr : Trace σ) :
    lastHeartbeat x (tr.map (Transition.map f)) = lastHeartbeat x tr := by
  rw [lastHeartbeat, List.filterMap_map]
  rfl

/-- **A silent controller is given up in time.** In every run on the 64-bit clock in which the
handlers find what they look for among the controllers that were heard from, and in which nothing is
handled while a timer is overdue by more than the lag, whatever is handled while a controller is
selected is handled at most nine seconds and two lags after the last heartbeat of that
controller. -/
theorem drops_silent_of_run {lag : Duration} (hlag : 0 ≤ lag) {tr : Trace Int64} {c : Config Int64}
    (h : IsSelectorRun tr c) (hepoch : AfterEpoch tr) (hclock : c.clock < 2 ^ 63)
    (hheard : ∀ t ∈ tr, t.source.selector.FindsHeard t.label.event.now t.label.event.input)
    (hpunctual : ∀ t ∈ tr, t.source.selector.Punctual lag t.label.event.now) :
    ∀ pre t, pre ++ [t] <+: tr → t.source.selector.selected ≠ "" →
      ∃ last ∈ lastHeartbeat t.source.selector.selected pre,
        t.label.event.now - last ≤ Sec 9 + 2 * lag := by
  intro pre t hpre hsel
  have hpunctual' : ∀ u ∈ tr.map (Transition.map Config.exact),
      u.source.selector.Punctual lag u.label.event.now := by
    rw [List.forall_mem_map]
    intro u hu k d hd
    change d ∈ u.source.selector.exact.expiry k at hd
    rw [expiry_mapTime] at hd
    exact hpunctual u hu k d hd
  have hpre' := hpre.map (Transition.map Config.exact)
  rw [List.map_append, List.map_singleton] at hpre'
  have hlast := (h.exact hepoch hclock hheard).drops_silent hlag hpunctual' _ _ hpre' hsel
  rwa [lastHeartbeat_map] at hlast

/-- A controller is silent from the third second on, each timeout comes half a second late, and the
device still has the controller thirteen seconds after its last heartbeat, but not later. -/
theorem drops_silent_of_late_timers : ∃ (tr : Trace Int64) (c : Config Int64),
    IsSelectorRun tr c ∧ c.selector.selected = "" ∧
      (∃ t ∈ tr, t.source.selector.selected = "mc1" ∧ t.label.event.now = Sec 13) ∧
      ∀ pre t, pre ++ [t] <+: tr → t.source.selector.selected ≠ "" →
        ∃ last ∈ lastHeartbeat t.source.selector.selected pre,
          t.label.event.now - last ≤ Sec 9 + 2 * 500000000 :=
  have hrun := isSelectorRun_of_follow "dev" {} 0
    [⟨0, .deviceInfo ⟨"mc1", .microgridController, none⟩⟩, ⟨Sec 1, .heartbeat ⟨"mc1", 0⟩⟩,
      ⟨Sec 3, .heartbeat ⟨"mc1", 1⟩⟩, ⟨Sec 4, .timeout .newController⟩,
      ⟨Sec 6 + 500000000, .timeout .missedHeartbeat⟩, ⟨Sec 13, .timeout .lostController⟩] rfl
  ⟨_, _, hrun, by decide, by decide, drops_silent_of_run (by decide) hrun (by decide) (by decide)
    (by decide) (by decide)⟩

end ControllerSelector

end TacticalMicrogrid
