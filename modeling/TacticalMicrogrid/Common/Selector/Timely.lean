import TacticalMicrogrid.Common.Selector.Ranking
import TacticalMicrogrid.Common.Selector.Silence

/-!
# How soon a selector gives up a controller and finds another

The handlers of a selector say how old a heartbeat must be before a controller is given up. How
soon it is given up depends on how late the timeouts are delivered: in a punctual run nothing is
handled while a timer is overdue by more than a given lag. MissedHeartbeat is due at most three
seconds after the last heartbeat of the selected controller, and LostController is scheduled when
it fires, for six seconds later; each is at most the lag late.

While no controller is selected, NewController is active or every known controller has been silent
for three seconds. So one controller that is heard from often enough ends the time without a
controller, and keeps ending it.

The ages of the heartbeats are exact here. With 64-bit ages a controller that has never been heard
from can be selected, and is then kept for as long as its age counts as recent; this is so as well
of what is derived from these results for a whole microgrid.

## Main definitions

* `ControllerSelector.Punctual`: no timer is overdue by more than the lag.
* `ControllerSelector.DueInTime`, `ControllerSelector.AwaitsHeard`: the invariants.

## Main results

* `ControllerSelector.IsSelectorRun.dueInTime`, `ControllerSelector.IsSelectorRun.awaitsHeard`.
* `ControllerSelector.IsSelectorRun.drops_silent`: a controller that is silent is given up in time.
* `ControllerSelector.selects_of_heard`: a device that hears a controller gets one in time.
-/

namespace TacticalMicrogrid

open TransitionSystem

namespace ControllerSelector

/-! ### Punctual runs -/

/-- No active timer of the selector is overdue by more than the lag. -/
def Punctual {τ : Type} (lag : Duration) (s : ControllerSelector τ) (now : ℤ) : Prop :=
  ∀ k, ∀ d ∈ s.expiry k, now ≤ d + lag

instance {τ : Type} (lag : Duration) (s : ControllerSelector τ) (now : ℤ) :
    Decidable (s.Punctual lag now) :=
  decidable_of_iff ((∀ d ∈ s.newController.expiry, now ≤ d + lag) ∧
      (∀ d ∈ s.missedHeartbeat.expiry, now ≤ d + lag) ∧
      (∀ d ∈ s.lostController.expiry, now ≤ d + lag) ∧
      ∀ d ∈ s.noControllers.expiry, now ≤ d + lag) <| by
    constructor
    · rintro ⟨hnew, hmissed, hlost, hno⟩ k
      cases k
      exacts [hnew, hmissed, hlost, hno]
    · intro h
      exact ⟨h .newController, h .missedHeartbeat, h .lostController, h .noControllers⟩

/-! ### When controllers are heard from -/

section LastHeard

variable {s s' : ControllerSelector ExactTime} {now : ℤ} {i : Input} {effects : List Effect}

/-- A heartbeat of a known controller is the last one of it. -/
theorem Outcome.lastHeard_of_heartbeat {hb : Heartbeat}
    (hout : Outcome s now (.heartbeat hb) s' effects) (hknown : hb.deviceId ∈ s.allControllers) :
    s'.lastHeard hb.deviceId = some now := by
  cases hout with
  | heartbeatUnknown _ hunknown => exact absurd hknown hunknown
  | _ => exact (lastHeard_heard s now hb.deviceId hb.deviceId).trans (if_pos rfl)

/-- What was last heard from the controller of a heartbeat, if anything, is that heartbeat. -/
theorem Outcome.eq_of_mem_lastHeard {hb : Heartbeat}
    (hout : Outcome s now (.heartbeat hb) s' effects) {last : ℤ}
    (hlast : last ∈ s'.lastHeard hb.deviceId) : last = now := by
  by_cases hknown : hb.deviceId ∈ s.allControllers
  · exact (Option.some.inj ((hout.lastHeard_of_heartbeat hknown).symm.trans hlast)).symm
  · cases hout with
    | heartbeatUnknown => exact absurd (Table.mem_of_find? (lastHeard_eq_some_iff.mp hlast)) hknown
    | heartbeatWaiting _ h | heartbeatFirst _ h | heartbeatOther _ h | heartbeatSelected _ h
    | heartbeatResumed _ h => exact absurd h hknown

/-- What is no heartbeat of a controller changes nothing about its last heartbeat. -/
theorem Outcome.lastHeard_of_other (hout : Outcome s now i s' effects) {x : Identity}
    (hother : ∀ hb, i = .heartbeat hb → hb.deviceId ≠ x) : s'.lastHeard x = s.lastHeard x := by
  cases hout with
  | heartbeatWaiting hb | heartbeatFirst hb | heartbeatOther hb | heartbeatSelected hb
  | heartbeatResumed hb =>
    exact (lastHeard_heard s now hb.deviceId x).trans (if_neg (hother hb rfl).symm)
  | deviceInfoNew di hrole hnew => exact join_find?_set_none hnew x
  | _ => rfl

theorem mem_allControllers_of_lastHeard {x : Identity} {t : ℤ} (ht : t ∈ s.lastHeard x) :
    x ∈ s.allControllers :=
  Table.mem_of_find? (lastHeard_eq_some_iff.mp ht)

end LastHeard

/-! ### The timers of the selected controller -/

/-- The selected controller was last heard from at the reading or later. -/
def HeardSince (s : ControllerSelector ExactTime) (since : ℤ) : Prop :=
  ∃ t ∈ s.lastHeard s.selected, since ≤ t

section HeardSince

variable {s : ControllerSelector ExactTime} {since now : ℤ}

theorem HeardSince.mono (h : s.HeardSince since) {earlier : ℤ} (hle : earlier ≤ since) :
    s.HeardSince earlier := by
  obtain ⟨t, ht, hsince⟩ := h
  exact ⟨t, ht, hle.trans hsince⟩

/-- A heartbeat of another controller changes nothing about the selected one. -/
theorem HeardSince.heard_of_ne (h : s.HeardSince since) {id : Identity} (hne : s.selected ≠ id) :
    (s.heard now id).HeardSince since := by
  obtain ⟨t, ht, hle⟩ := h
  exact ⟨t, by rwa [lastHeard_heard, heard, if_neg hne], hle⟩

/-- A heartbeat of the selected controller. -/
theorem heardSince_heard_self : (s.heard now s.selected).HeardSince now :=
  ⟨now, by rw [lastHeard_heard, heard, if_pos rfl]; rfl, le_rfl⟩

/-- A selector that has just selected an available controller. -/
theorem heardSince_selecting {pc : PrioritizedController} (hpc : s.available now pc = true) :
    (s.selecting now pc.id).HeardSince (now - s.ageOf now pc.id) := by
  obtain ⟨t, ht, hage, -⟩ := exists_lastHeard_of_available hpc
  exact ⟨t, ht, by linarith⟩

end HeardSince

/-- The timers of the selected controller are due no later than they stand for, after its last
heartbeat; LostController up to the lag of MissedHeartbeat. -/
structure DueInTime (lag : Duration) (s : ControllerSelector ExactTime) : Prop where
  missed : ∀ d ∈ s.missedHeartbeat.expiry, s.HeardSince (d - heartbeatDeadline)
  delay : s.missedHeartbeat.active = true → s.missedHeartbeat.delay ≤ heartbeatDeadline
  lost : ∀ d ∈ s.lostController.expiry,
    s.HeardSince (d - (heartbeatDeadline + lostActiveControllerDelay + lag))

namespace DueInTime

variable {lag : Duration} {c : Config ExactTime} {s s' : ControllerSelector ExactTime} {now : ℤ}
  {i : Input} {effects : List Effect}

/-- While both timers are inactive, nothing is due. -/
theorem of_inactive (hmissed : s.missedHeartbeat.active = false)
    (hlost : s.lostController.active = false) : DueInTime lag s where
  missed d hd := by simp [Timer.active_eq_false_iff.mp hmissed] at hd
  delay hactive := absurd (hmissed.symm.trans hactive) Bool.false_ne_true
  lost d hd := by simp [Timer.active_eq_false_iff.mp hlost] at hd

/-- A selector that has just selected an available controller. -/
theorem selecting {pc : PrioritizedController} (hpc : s.available now pc = true)
    (hheard : ∀ id, ∀ t ∈ s.lastHeard id, t ≤ now) (hlost : s'.lostController.active = false)
    (hmissed : s'.missedHeartbeat = (s.selecting now pc.id).missedHeartbeat)
    (hs' : ∀ since, (s.selecting now pc.id).HeardSince since → s'.HeardSince since) :
    DueInTime lag s' where
  missed d hd := by
    rw [hmissed] at hd
    obtain rfl := Option.some.inj hd
    refine hs' _ ((heardSince_selecting hpc).mono ?_)
    linarith
  delay _ := by
    obtain ⟨t, ht, hage, -⟩ := exists_lastHeard_of_available hpc
    have hle := hheard _ t ht
    rw [hmissed]
    change heartbeatDeadline - s.ageOf now pc.id ≤ heartbeatDeadline
    linarith
  lost d hd := by simp [Timer.active_eq_false_iff.mp hlost] at hd

/-- Every handler keeps the timers due in time, if it runs while no timer is overdue by more than
the lag. -/
theorem of_outcome (h : DueInTime lag c.selector) (hc : TimersConsistent c)
    (hclock : c.clock ≤ now) (hpunctual : c.selector.Punctual lag now)
    (hadm : c.selector.Admissible now i) (hout : Outcome c.selector now i s' effects) :
    DueInTime lag s' := by
  have hle : ∀ id, ∀ t ∈ c.selector.lastHeard id, t ≤ now :=
    fun id t ht => (hc.heard_le id t ht).trans hclock
  cases hout with
  | deviceInfoIgnored | heartbeatUnknown => exact h
  | deviceInfoNew di hrole hnew =>
    have hold : ∀ since, c.selector.HeardSince since →
        ({ c.selector with
          allControllers := c.selector.allControllers.set di.deviceId TimePoint.min
          prioritizedControllers := c.selector.prioritizedControllers.insert (.ofDeviceInfo di) }
          : ControllerSelector ExactTime).HeardSince since := by
      rintro since ⟨t, ht, hsince⟩
      exact ⟨t, (join_find?_set_none hnew _).trans ht, hsince⟩
    exact ⟨fun d hd => hold _ (h.missed d hd), h.delay, fun d hd => hold _ (h.lost d hd)⟩
  | heartbeatWaiting hb hknown hsel | heartbeatFirst hb hknown hsel =>
    exact .of_inactive (hc.idle hsel).1 (hc.idle hsel).2
  | heartbeatOther hb hknown hsel hother =>
    exact ⟨fun d hd => (h.missed d hd).heard_of_ne hother, h.delay,
      fun d hd => (h.lost d hd).heard_of_ne hother⟩
  | heartbeatSelected hb hknown hsel hself hactive =>
    have hdelay := h.delay hactive
    refine ⟨fun d hd => ?_, fun _ => hdelay, fun d hd => by simp at hd⟩
    obtain rfl := Option.some.inj hd
    rw [← hself]
    exact heardSince_heard_self.mono (by linarith)
  | heartbeatResumed hb hknown hsel hself =>
    refine ⟨fun d hd => ?_, fun _ => le_rfl, fun d hd => by simp at hd⟩
    obtain rfl := Option.some.inj hd
    rw [← hself]
    exact heardSince_heard_self.mono (by linarith)
  | newControllerNone | noControllers => exact ⟨h.missed, h.delay, h.lost⟩
  | newControllerSelect pc hpc =>
    have hidle := hc.idle (hc.selected_of_newController (active_of_expiry hadm))
    exact .selecting (available_of_first? hpc) hle hidle.2 rfl fun _ hsince => hsince
  | missedHeartbeatAvailable | missedHeartbeatNone =>
    obtain ⟨due, hdue, -⟩ := hadm
    have hlate := hpunctual .missedHeartbeat due hdue
    refine ⟨fun d hd => by simp at hd, fun hactive => by simp at hactive, fun d hd => ?_⟩
    obtain rfl := Option.some.inj hd
    exact (h.missed due hdue).mono (by linarith)
  | lostControllerNone =>
    exact .of_inactive (hc.missedHeartbeat_of_lostController (active_of_expiry hadm)) rfl
  | lostControllerSelect pc hpc =>
    exact .selecting (available_of_first? hpc) hle rfl rfl fun _ hsince => hsince

end DueInTime

/-- The timers of the selected controller are due in time after every punctual run. -/
theorem IsSelectorRun.dueInTime {lag : Duration} {tr : Trace ExactTime} {c : Config ExactTime}
    (h : IsSelectorRun tr c)
    (hpunctual : ∀ t ∈ tr, t.source.selector.Punctual lag t.label.event.now) :
    DueInTime lag c.selector := by
  revert hpunctual
  refine h.traceInvariant (P := fun tr c =>
    (∀ t ∈ tr, t.source.selector.Punctual lag t.label.event.now) → DueInTime lag c.selector)
    (fun _ _ _ _ => .of_inactive rfl rfl) ?_
  intro tr c e s' effects hrun hdue henabled hout hpunctual
  have hdue := hdue fun t ht => hpunctual t (List.mem_append_left _ ht)
  exact hdue.of_outcome hrun.timersConsistent henabled.1
    (hpunctual _ (List.mem_append_right _ List.mem_cons_self)) henabled.2 hout

/-- While a controller is selected and no timer is overdue by more than the lag, its last heartbeat
is at most nine seconds and two lags old. -/
theorem IsSelectorRun.heardSince_of_punctual {lag : Duration} {tr : Trace ExactTime}
    {c : Config ExactTime} (h : IsSelectorRun tr c) (hlag : 0 ≤ lag)
    (hpunctual : ∀ t ∈ tr, t.source.selector.Punctual lag t.label.event.now)
    (hsel : c.selector.selected ≠ "") {now : ℤ} (hnow : c.selector.Punctual lag now) :
    c.selector.HeardSince
      (now - (heartbeatDeadline + lostActiveControllerDelay + 2 * lag)) := by
  have hdue := h.dueInTime hpunctual
  have hone := (h.timersConsistent.busy hsel).2
  cases hlost : c.selector.lostController.active with
  | true =>
    obtain ⟨d, hd⟩ := Timer.active_iff.mp hlost
    have hlate := hnow .lostController d hd
    exact (hdue.lost d hd).mono (by linarith)
  | false =>
    rw [hlost] at hone
    obtain ⟨d, hd⟩ := Timer.active_iff.mp hone
    have hlate := hnow .missedHeartbeat d hd
    have hdelay : (0 : ℤ) ≤ lostActiveControllerDelay := by decide
    exact (hdue.missed d hd).mono (by linarith)

/-- Whatever is handled in a punctual run while a controller is selected is handled at most nine
seconds and two lags after the last heartbeat of that controller: three seconds until
MissedHeartbeat is due, six more until LostController is, and the lag of each. -/
theorem IsSelectorRun.drops_silent {lag : Duration} (hlag : 0 ≤ lag) {tr : Trace ExactTime}
    {c : Config ExactTime} (h : IsSelectorRun tr c)
    (hpunctual : ∀ t ∈ tr, t.source.selector.Punctual lag t.label.event.now) :
    ∀ pre t, pre ++ [t] <+: tr → t.source.selector.selected ≠ "" →
      ∃ last ∈ lastHeartbeat t.source.selector.selected pre,
        t.label.event.now - last ≤ Sec 9 + 2 * lag := by
  intro pre t hpre hsel
  obtain ⟨hrun, -, -⟩ := h.of_prefix hpre
  have hsub : ∀ u ∈ pre, u ∈ tr := fun u hu => hpre.subset (List.mem_append_left _ hu)
  have hheard := hrun.heardSince_of_punctual hlag (fun u hu => hpunctual u (hsub u hu)) hsel
    (hpunctual t (hpre.subset (List.mem_append_right _ List.mem_cons_self)))
  obtain ⟨last, hlast, hle⟩ := hheard
  refine ⟨last, hrun.heartbeatsRecorded.last _ last hlast, ?_⟩
  have hnine : heartbeatDeadline + lostActiveControllerDelay = Sec 9 := by decide
  linarith

/-! ### The time without a controller -/

/-- While no controller is selected, NewController is active and due within its delay, or every
known controller has been silent for the heartbeat deadline. -/
structure AwaitsHeard (c : Config ExactTime) : Prop where
  due : ∀ d ∈ c.selector.newController.expiry, d ≤ c.clock + newActiveControllerDelay
  silent : c.selector.selected = "" → c.selector.newController.active = false →
    ∀ id, ∀ t ∈ c.selector.lastHeard id, t + heartbeatDeadline ≤ c.clock

namespace AwaitsHeard

variable {c : Config ExactTime} {s' : ControllerSelector ExactTime} {now : ℤ} {i : Input}
  {effects : List Effect}

/-- The handlers that leave no controller selected have found none that is recent. -/
private theorem silent_of_none
    (h : ∀ id t, c.selector.allControllers.find? id = some t → isRecent now t = false)
    (id : Identity) (t : ℤ) (ht : t ∈ c.selector.lastHeard id) : t + heartbeatDeadline ≤ now := by
  have hage := forall_isRecent_eq_false_iff.mp h id t ht
  linarith

/-- Every handler keeps the invariant. -/
theorem of_outcome (h : AwaitsHeard c) (hwf : c.selector.WellFormed) (hc : TimersConsistent c)
    (hclock : c.clock ≤ now) (hadm : c.selector.Admissible now i)
    (hout : Outcome c.selector now i s' effects) : AwaitsHeard ⟨s', now⟩ := by
  have hdue : ∀ d ∈ c.selector.newController.expiry, d ≤ now + newActiveControllerDelay :=
    fun d hd => (h.due d hd).trans (Int.add_le_add_right hclock _)
  have hsilent : c.selector.selected = "" → c.selector.newController.active = false →
      ∀ id, ∀ t ∈ c.selector.lastHeard id, t + heartbeatDeadline ≤ now :=
    fun hsel hinactive id t ht => (h.silent hsel hinactive id t ht).trans hclock
  cases hout with
  | deviceInfoIgnored | heartbeatUnknown | noControllers => exact ⟨hdue, hsilent⟩
  | deviceInfoNew di hrole hnew =>
    exact ⟨hdue, fun hsel hinactive id t ht =>
      hsilent hsel hinactive id t ((join_find?_set_none hnew id).symm.trans ht)⟩
  | heartbeatWaiting hb hknown hsel hactive =>
    exact ⟨hdue, fun _ hinactive =>
      absurd (hinactive.symm.trans hactive) Bool.false_ne_true⟩
  | heartbeatFirst =>
    refine ⟨fun d hd => ?_, fun _ hinactive => by simp at hinactive⟩
    obtain rfl := Option.some.inj hd
    exact le_rfl
  | heartbeatOther hb hknown hsel | heartbeatSelected hb hknown hsel
  | heartbeatResumed hb hknown hsel => exact ⟨hdue, fun hempty => absurd hempty hsel⟩
  | newControllerNone hnone =>
    exact ⟨fun d hd => by simp at hd, fun _ _ => silent_of_none hnone⟩
  | newControllerSelect pc hpc =>
    exact ⟨fun d hd => by simp at hd, fun hempty => absurd hempty (hwf.id_ne_of_first? hpc)⟩
  | missedHeartbeatAvailable | missedHeartbeatNone =>
    have hsel := hc.selected_of_missedHeartbeat (active_of_expiry hadm)
    exact ⟨hdue, fun hempty => absurd hempty hsel⟩
  | lostControllerNone hnone => exact ⟨hdue, fun _ _ => silent_of_none hnone⟩
  | lostControllerSelect pc hpc =>
    exact ⟨hdue, fun hempty => absurd hempty (hwf.id_ne_of_first? hpc)⟩

end AwaitsHeard

/-- Every run keeps the invariant. -/
theorem IsSelectorRun.awaitsHeard {tr : Trace ExactTime} {c : Config ExactTime}
    (h : IsSelectorRun tr c) : AwaitsHeard c := by
  refine h.traceInvariant (P := fun _ c => AwaitsHeard c) ?_ ?_
  · intro deviceId callbacks clock
    exact ⟨fun d hd => by simp [Config.init] at hd,
      fun _ _ id t ht => by simp [Config.init, lastHeard] at ht⟩
  · intro tr c e s' effects hrun hawaits henabled hout
    exact hawaits.of_outcome hrun.wellFormed hrun.timersConsistent henabled.1 henabled.2 hout

instance (s : ControllerSelector ExactTime) (now : ℤ) (id : Identity) :
    Decidable (s.HeardRecently now id) :=
  inferInstanceAs (Decidable (∃ t ∈ s.lastHeard id, now - t < heartbeatDeadline))

/-- A controller that was heard from recently is one that a selection can find. -/
theorem HeardRecently.not_none {s : ControllerSelector ExactTime} {now : ℤ} {x : Identity}
    (h : s.HeardRecently now x) :
    ¬∀ id t, s.allControllers.find? id = some t → isRecent now t = false := fun hnone =>
  forall_not_heardRecently_iff.mpr (not_someRecent_iff.mpr hnone) x h

/-- While some controller is heard from recently, no step leaves a device without a controller that
has one, or schedules NewController. -/
theorem IsSelectorRun.waiting_of_heardRecently {tr : Trace ExactTime} {c : Config ExactTime}
    {e : Event} {s' : ControllerSelector ExactTime} {effects : List Effect} {x : Identity}
    (h : IsSelectorRun tr c) (henabled : Enabled c e) (hheard : c.selector.HeardRecently e.now x)
    (hout : Outcome c.selector e.now e.input s' effects) (hsel : s'.selected = "") :
    c.selector.selected = "" ∧ s'.newController.expiry = c.selector.newController.expiry := by
  obtain ⟨now, i⟩ := e
  have hwf := h.wellFormed
  cases hout with
  | newControllerNone hnone | lostControllerNone hnone => exact absurd hnone hheard.not_none
  | newControllerSelect pc hpc | lostControllerSelect pc hpc =>
    exact absurd hsel (hwf.id_ne_of_first? hpc)
  | heartbeatFirst hb hknown hempty hinactive =>
    -- The controller that was heard from recently has made NewController active.
    obtain ⟨last, hlast, hlt⟩ := hheard
    have hsilent := h.awaitsHeard.silent hempty hinactive x last hlast
    have hclock : c.clock ≤ now := henabled.1
    linarith
  | _ => exact ⟨hsel, rfl⟩

/-- How a device comes to another selection: LostController fires six seconds after the last
heartbeat of the selected controller, and the preferred controller is selected, if there is one. -/
theorem IsSelectorRun.selected_cases {rank : Identity → UInt16} {tr : Trace ExactTime}
    {c : Config ExactTime} {e : Event} {s' : ControllerSelector ExactTime} {effects : List Effect}
    (h : IsSelectorRun tr c) (hfiled : FiledAs rank c.selector) (henabled : Enabled c e)
    (hout : Outcome c.selector e.now e.input s' effects) (hsel : c.selector.selected ≠ "") :
    s'.selected = c.selector.selected ∨
      (∀ last ∈ c.selector.lastHeard c.selector.selected,
        last + lostActiveControllerDelay ≤ e.now) ∧
      ((∀ x, ¬c.selector.HeardRecently e.now x) ∨
        c.selector.Preferred rank e.now s'.selected) := by
  obtain ⟨now, i⟩ := e
  have hlost : i = .timeout .lostController → ∀ last ∈ c.selector.lastHeard c.selector.selected,
      last + lostActiveControllerDelay ≤ now := by
    rintro rfl last hlast
    obtain ⟨d, hd, hnow⟩ := henabled.2
    exact (h.lost_silent d hd last hlast).trans hnow
  cases hout with
  | newControllerNone | newControllerSelect =>
    exact absurd (h.timersConsistent.selected_of_newController (active_of_expiry henabled.2)) hsel
  | lostControllerNone hnone =>
    exact Or.inr ⟨hlost rfl,
      Or.inl (forall_not_heardRecently_iff.mpr (not_someRecent_iff.mpr hnone))⟩
  | lostControllerSelect pc hpc =>
    exact Or.inr ⟨hlost rfl, Or.inr (.of_first? h.wellFormed hfiled hpc)⟩
  | _ => exact Or.inl rfl

/-- A run goes on from a run. -/
theorem IsSelectorRun.snoc {tr : Trace ExactTime} {c c' : Config ExactTime} {l : Label}
    (h : IsSelectorRun tr c) (hstep : Step c l c') : IsSelectorRun (tr ++ [⟨c, l, c'⟩]) c' := by
  obtain ⟨deviceId, callbacks, clock, hrun⟩ := h
  exact ⟨deviceId, callbacks, clock, .snoc hrun hstep⟩

/-- In a continuation of a run in which some controller is always heard from recently, a device
without a controller has never had one, and still waits for the same timeout. -/
theorem IsSelectorRun.waiting_after {before after : Trace ExactTime} {m c : Config ExactTime}
    {x : Identity} (hbefore : IsSelectorRun before m) (hafter : IsRun Step m after c)
    (hheard : ∀ t ∈ after, t.source.selector.HeardRecently t.label.event.now x) :
    (∃ tr, IsSelectorRun tr c) ∧ (c.selector.selected = "" →
      m.selector.selected = "" ∧
        c.selector.newController.expiry = m.selector.newController.expiry) := by
  refine hafter.invariant_of_forall (C := fun c l => c.selector.HeardRecently l.event.now x) hheard
    (P := fun c => (∃ tr, IsSelectorRun tr c) ∧ (c.selector.selected = "" →
      m.selector.selected = "" ∧
        c.selector.newController.expiry = m.selector.newController.expiry))
    ⟨⟨before, hbefore⟩, fun hsel => ⟨hsel, rfl⟩⟩ ?_
  rintro c l c' ⟨⟨tr, hrun⟩, hwait⟩ hheard hstep
  have hout := Outcome.of_handle hrun.wellFormed hstep.1.2 hstep.2.1
  refine ⟨⟨_, hrun.snoc hstep⟩, fun hsel => ?_⟩
  obtain ⟨hempty, hexpiry⟩ := hrun.waiting_of_heardRecently hstep.1 hheard hout hsel
  exact ⟨(hwait hempty).1, hexpiry.trans (hwait hempty).2⟩

/-- At the end of such a continuation the device has a controller, if NewController must have been
due by then. -/
theorem IsSelectorRun.selected_after {lag : Duration} {before after : Trace ExactTime}
    {m c : Config ExactTime} {x : Identity} {now : ℤ} (hbefore : IsSelectorRun before m)
    (hafter : IsRun Step m after c)
    (hheard : ∀ t ∈ after, t.source.selector.HeardRecently t.label.event.now x)
    (hclock : c.clock ≤ now) (hnow : c.selector.HeardRecently now x)
    (hpunctual : c.selector.Punctual lag now)
    (hlate : m.clock + newActiveControllerDelay + lag < now) : c.selector.selected ≠ "" := by
  intro hempty
  obtain ⟨⟨tr, hrun⟩, hwait⟩ := hbefore.waiting_after hafter hheard
  cases hactive : c.selector.newController.active with
  | false =>
    obtain ⟨last, hlast, hlt⟩ := hnow
    have hsilent := hrun.awaitsHeard.silent hempty hactive x last hlast
    linarith
  | true =>
    obtain ⟨d, hd⟩ := Timer.active_iff.mp hactive
    have hdue := hbefore.awaitsHeard.due d ((hwait hempty).2 ▸ hd)
    have hpast := hpunctual .newController d hd
    linarith

/-- **A device that hears a controller gets one.** In every continuation of a run with exact ages in
which one known controller is heard from within three seconds before whatever is handled, and in
which no timer is overdue by more than the lag, the device has a controller selected at every step
later than three seconds and the lag after the beginning of the continuation, before the step and
after it. -/
theorem selects_of_heard {lag : Duration} {before after : Trace ExactTime}
    {m c : Config ExactTime} {x : Identity} (hbefore : IsSelectorRun before m)
    (hafter : IsRun Step m after c)
    (hheard : ∀ t ∈ after, t.source.selector.HeardRecently t.label.event.now x)
    (hpunctual : ∀ t ∈ after, t.source.selector.Punctual lag t.label.event.now) :
    ∀ t ∈ after, m.clock + newActiveControllerDelay + lag < t.label.event.now →
      t.source.selector.selected ≠ "" ∧ t.target.selector.selected ≠ "" := by
  intro t ht hlate
  obtain ⟨pre, hpre⟩ := exists_prefix_snoc_of_mem ht
  obtain ⟨hmid, hstep⟩ := hafter.of_prefix_snoc hpre
  have hmem : ∀ u ∈ pre, u ∈ after := fun u hu => hpre.subset (List.mem_append_left _ hu)
  obtain ⟨⟨tr, hrun⟩, -⟩ := hbefore.waiting_after hmid fun u hu => hheard u (hmem u hu)
  have hsource := hbefore.selected_after hmid (fun u hu => hheard u (hmem u hu)) hstep.1.1
    (hheard t ht) (hpunctual t ht) hlate
  have hout := Outcome.of_handle hrun.wellFormed hstep.1.2 hstep.2.1
  exact ⟨hsource, fun hempty =>
    hsource (hrun.waiting_of_heardRecently hstep.1 (hheard t ht) hout hempty).1⟩

/-- A device that loses its controller while another one is heard from every two seconds is never
without a controller again, although it selects the other one only when LostController fires. -/
theorem selects_of_other_controller : ∃ (before after : Trace ExactTime)
    (m c : Config ExactTime), IsSelectorRun before m ∧ IsRun Step m after c ∧
      m.clock = Sec 5 ∧ c.selector.selected = "mc2" ∧
      (∃ t ∈ after, t.label.event.input = .timeout .lostController) ∧
      ∀ t ∈ after, m.clock + newActiveControllerDelay + 0 < t.label.event.now →
        t.source.selector.selected ≠ "" ∧ t.target.selector.selected ≠ "" :=
  have hbefore := isSelectorRun_of_follow "dev" {} 0
    [⟨0, .deviceInfo ⟨"mc1", .microgridController, none⟩⟩,
      ⟨0, .deviceInfo ⟨"mc2", .microgridController, none⟩⟩, ⟨Sec 1, .heartbeat ⟨"mc1", 0⟩⟩,
      ⟨Sec 4, .heartbeat ⟨"mc1", 1⟩⟩, ⟨Sec 4, .timeout .newController⟩,
      ⟨Sec 5, .heartbeat ⟨"mc2", 0⟩⟩] rfl
  have hafter := isRun_of_follow step_of_next?
    [⟨Sec 7, .heartbeat ⟨"mc2", 1⟩⟩, ⟨Sec 7, .timeout .missedHeartbeat⟩,
      ⟨Sec 9, .heartbeat ⟨"mc2", 2⟩⟩, ⟨Sec 11, .heartbeat ⟨"mc2", 3⟩⟩,
      ⟨Sec 13, .heartbeat ⟨"mc2", 4⟩⟩, ⟨Sec 13, .timeout .lostController⟩] rfl
  ⟨_, _, _, _, hbefore, hafter, by decide, by decide, by decide,
    selects_of_heard (x := "mc2") hbefore hafter (by decide) (by decide)⟩

end ControllerSelector

end TacticalMicrogrid
