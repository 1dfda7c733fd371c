import TacticalMicrogrid.Common.Selector.TimerStates
import Mathlib.Tactic.Linarith

/-!
# What a device waits for after it has lost its controller

A device without a controller is to wait for NewController or for NoControllers, or NoControllers
is to have fired since it last heard from a controller. NoControllers is started by the handler of
MissedHeartbeat only, if no controller is recent then, and every heartbeat of a known controller
cancels it. So the device is left without a timer when a controller falls silent after
MissedHeartbeat has fired, and when the controller that started NewController falls silent before
NewController fires.

## Main definitions

* `ControllerSelector.LostBefore`, `ControllerSelector.FiredSinceHeard`, `ControllerSelector.Waits`.
* `ControllerSelector.SilentUntil`, `ControllerSelector.StaysInTouch`: the condition on a step.
* `ControllerSelector.WatchTracked`: the invariant.

## Main results

* `ControllerSelector.waits_iff`: a device that has lost its controller waits all along a run
  exactly when every step meets the condition.
* `ControllerSelector.stuck_after_loss`: a run after which a device waits for nothing.
-/

namespace TacticalMicrogrid

open TransitionSystem

namespace ControllerSelector

/-! ### The history of a run -/

section History

variable {τ : Type}

/-- A controller has been lost. -/
def LostBefore (tr : Trace τ) : Prop := ∃ t ∈ tr, t.label.event.input = .timeout .lostController

instance (tr : Trace τ) : Decidable (LostBefore tr) := inferInstanceAs (Decidable (∃ t ∈ tr, _))

/-- A step handles a heartbeat of a known controller. -/
def HeardKnown (t : Transition (Config τ) Label) : Prop :=
  ∃ hb, t.label.event.input = .heartbeat hb ∧ hb.deviceId ∈ t.source.selector.allControllers

/-- NoControllers has fired, and no known controller has been heard from since. -/
def FiredSinceHeard (tr : Trace τ) : Prop :=
  Since (fun t => t.label.event.input = .timeout .noControllers) (fun t => ¬HeardKnown t) tr

variable {tr : Trace τ} {t : Transition (Config τ) Label}

theorem lostBefore_snoc :
    LostBefore (tr ++ [t]) ↔ LostBefore tr ∨ t.label.event.input = .timeout .lostController := by
  simp [LostBefore, or_and_right, exists_or]

section Snoc

variable {c c' : Config τ} {now : ℤ} {effects : List Effect}

theorem firedSinceHeard_deviceInfo {di : DeviceInfo} :
    FiredSinceHeard (tr ++ [⟨c, ⟨⟨now, .deviceInfo di⟩, effects⟩, c'⟩]) ↔ FiredSinceHeard tr := by
  simp [FiredSinceHeard, since_snoc, HeardKnown]

theorem firedSinceHeard_unknown {hb : Heartbeat}
    (h : hb.deviceId ∉ c.selector.allControllers) :
    FiredSinceHeard (tr ++ [⟨c, ⟨⟨now, .heartbeat hb⟩, effects⟩, c'⟩]) ↔ FiredSinceHeard tr := by
  simp [FiredSinceHeard, since_snoc, HeardKnown, h]

theorem not_firedSinceHeard_known {hb : Heartbeat}
    (h : hb.deviceId ∈ c.selector.allControllers) :
    ¬FiredSinceHeard (tr ++ [⟨c, ⟨⟨now, .heartbeat hb⟩, effects⟩, c'⟩]) := by
  simp [FiredSinceHeard, since_snoc, HeardKnown, h]

theorem firedSinceHeard_timeout {k : TimerKind} :
    FiredSinceHeard (tr ++ [⟨c, ⟨⟨now, .timeout k⟩, effects⟩, c'⟩]) ↔
      k = .noControllers ∨ FiredSinceHeard tr := by
  simp [FiredSinceHeard, since_snoc, HeardKnown]

end Snoc

end History

/-! ### Waiting -/

/-- A device that has lost a controller and has none selected waits for a timer, or NoControllers
has fired since it last heard from a controller. -/
def Waits (tr : Trace ExactTime) (c : Config ExactTime) : Prop :=
  LostBefore tr → c.selector.selected = "" → c.selector.newController.active = true ∨
    c.selector.noControllers.active = true ∨ FiredSinceHeard tr

theorem not_waits {tr : Trace ExactTime} {c : Config ExactTime} (hlost : LostBefore tr)
    (hsel : c.selector.selected = "")
    (hinactive : ¬(c.selector.newController.active = true ∨ c.selector.noControllers.active = true))
    (hfired : ¬∃ t ∈ tr, t.label.event.input = .timeout .noControllers) : ¬Waits tr c := by
  intro h
  rcases h hlost hsel with hnew | hno | hsince
  exacts [hinactive (Or.inl hnew), hinactive (Or.inr hno), hfired hsince.exists_mem]

/-- Every controller has been silent for the heartbeat deadline and the delay of a lost
controller at a clock reading. -/
def SilentUntil (s : ControllerSelector ExactTime) (d : ℤ) : Prop :=
  ∀ id, ∀ t ∈ s.lastHeard id, t + (heartbeatDeadline + lostActiveControllerDelay) ≤ d

/-- When LostController fires and no controller is recent, all have been silent since three seconds
before MissedHeartbeat fired; and when NewController fires after a loss, some controller is
recent. -/
def StaysInTouch (tr : Trace ExactTime) (s : ControllerSelector ExactTime) (now : ℤ) :
    Input → Prop
  | .timeout .lostController =>
      ¬s.SomeRecent now → ∀ d ∈ s.lostController.expiry, s.SilentUntil d
  | .timeout .newController => LostBefore tr → s.SomeRecent now
  | _ => True

/-- While LostController is active, NoControllers is active or has fired exactly if all controllers
have been silent since MissedHeartbeat fired; it has not fired while MissedHeartbeat or
NewController is active. -/
structure WatchTracked (tr : Trace ExactTime) (c : Config ExactTime) : Prop where
  notFired : c.selector.missedHeartbeat.active = true ∨ c.selector.newController.active = true →
    ¬FiredSinceHeard tr
  lost_le : ∀ d ∈ c.selector.lostController.expiry, d ≤ c.clock + lostActiveControllerDelay
  watch : ∀ d ∈ c.selector.lostController.expiry,
    (c.selector.noControllers.active = true ∨ FiredSinceHeard tr ↔ c.selector.SilentUntil d)

section Steps

variable {tr : Trace ExactTime} {c : Config ExactTime} {e : Event} {now : ℤ}
  {s s' : ControllerSelector ExactTime} {effects : List Effect}

/-- All controllers will have been silent for so long exactly if none is recent now. -/
theorem silentUntil_add_iff : s.SilentUntil (now + lostActiveControllerDelay) ↔
    ¬s.SomeRecent now := by
  rw [not_someRecent_iff, forall_isRecent_eq_false_iff, SilentUntil]
  refine forall_congr' fun id => forall_congr' fun t => forall_congr' fun _ => ?_
  constructor <;> intro h <;> linarith

instance (s : ControllerSelector ExactTime) (d : ℤ) : Decidable (s.SilentUntil d) :=
  decidable_of_iff (¬s.SomeRecent (d - lostActiveControllerDelay))
    (by rw [← silentUntil_add_iff, sub_add_cancel])

instance (tr : Trace ExactTime) (s : ControllerSelector ExactTime) (now : ℤ) :
    (i : Input) → Decidable (StaysInTouch tr s now i)
  | .timeout .lostController =>
    inferInstanceAs (Decidable (¬s.SomeRecent now → ∀ d ∈ s.lostController.expiry, _))
  | .timeout .newController => inferInstanceAs (Decidable (LostBefore tr → s.SomeRecent now))
  | .timeout .missedHeartbeat | .timeout .noControllers | .deviceInfo _ | .heartbeat _ =>
    isTrue trivial

theorem SilentUntil.not_someRecent {d : ℤ} (h : s.SilentUntil d) (hnow : d ≤ now) :
    ¬s.SomeRecent now := by
  rw [not_someRecent_iff, forall_isRecent_eq_false_iff]
  intro id t ht
  have hsilent := h id t ht
  have hdelay : (0 : ℤ) ≤ lostActiveControllerDelay := by decide
  linarith

/-- A controller that is heard from now has not been silent for long. -/
theorem not_silentUntil_heard {id : Identity} {d : ℤ} (hd : d ≤ now + lostActiveControllerDelay) :
    ¬(s.heard now id).SilentUntil d := by
  intro h
  have hsilent := h id now (by rw [lastHeard_heard, if_pos rfl]; rfl)
  have hdeadline : (0 : ℤ) < heartbeatDeadline := by decide
  linarith

/-- Steps that leave LostController, NoControllers and the heartbeats as they are. -/
theorem WatchTracked.of_same {tr' : Trace ExactTime} (h : WatchTracked tr c)
    (hclock : c.clock ≤ now) (hfired : FiredSinceHeard tr' ↔ FiredSinceHeard tr)
    (hactive : s'.missedHeartbeat.active = true ∨ s'.newController.active = true →
      c.selector.missedHeartbeat.active = true ∨ c.selector.newController.active = true)
    (hlost : s'.lostController.expiry = c.selector.lostController.expiry)
    (hno : s'.noControllers.active = c.selector.noControllers.active)
    (hheard : ∀ id, s'.lastHeard id = c.selector.lastHeard id) :
    WatchTracked tr' ⟨s', now⟩ where
  notFired h' := mt hfired.mp (h.notFired (hactive h'))
  lost_le d hd := (h.lost_le d (hlost ▸ hd)).trans (by linarith)
  watch d hd := by
    simp only [SilentUntil, hheard, hno, hfired]
    exact h.watch d (hlost ▸ hd)

/-- Steps that leave LostController inactive, after which NoControllers has not fired. -/
theorem WatchTracked.of_lost_inactive (hlost : s.lostController.active = false)
    (hfired : ¬FiredSinceHeard tr) : WatchTracked tr ⟨s, now⟩ where
  notFired _ := hfired
  lost_le d hd := by simp [Timer.active_eq_false_iff.mp hlost] at hd
  watch d hd := by simp [Timer.active_eq_false_iff.mp hlost] at hd

/-- NoControllers has not fired when LostController fires and a controller is recent. -/
theorem WatchTracked.not_firedSinceHeard_of_recent (h : WatchTracked tr c) {d : ℤ}
    (hd : d ∈ c.selector.lostController.expiry) (hnow : d ≤ now)
    (hrecent : c.selector.SomeRecent now) : ¬FiredSinceHeard tr := fun hfired =>
  ((h.watch d hd).mp (Or.inr hfired)).not_someRecent hnow hrecent

/-- Every handler keeps the invariant. -/
theorem WatchTracked.of_outcome (h : WatchTracked tr c) (hc : TimersConsistent c)
    (henabled : Enabled c e) (hout : Outcome c.selector e.now e.input s' effects) :
    WatchTracked (tr ++ [⟨c, ⟨e, effects⟩, ⟨s', e.now⟩⟩]) ⟨s', e.now⟩ := by
  obtain ⟨now, i⟩ := e
  obtain ⟨hclock, hadm⟩ := henabled
  cases hout with
  | deviceInfoIgnored =>
    exact h.of_same hclock firedSinceHeard_deviceInfo id rfl rfl fun _ => rfl
  | deviceInfoNew di hrole hnew =>
    exact h.of_same hclock firedSinceHeard_deviceInfo id rfl rfl (join_find?_set_none hnew)
  | heartbeatUnknown hb hunknown =>
    exact h.of_same hclock (firedSinceHeard_unknown hunknown) id rfl rfl fun _ => rfl
  | heartbeatWaiting hb hknown hsel | heartbeatFirst hb hknown hsel =>
    exact .of_lost_inactive (hc.idle hsel).2 (not_firedSinceHeard_known hknown)
  | heartbeatSelected hb hknown | heartbeatResumed hb hknown =>
    exact .of_lost_inactive rfl (not_firedSinceHeard_known hknown)
  | heartbeatOther hb hknown =>
    have hlost_le : ∀ d ∈ c.selector.lostController.expiry, d ≤ now + lostActiveControllerDelay :=
      fun d hd => (h.lost_le d hd).trans (by linarith)
    refine ⟨fun _ => not_firedSinceHeard_known hknown, hlost_le, fun d hd => ?_⟩
    refine iff_of_false ?_ (not_silentUntil_heard (hlost_le d hd))
    rintro (hno | hfired)
    exacts [Bool.false_ne_true hno, not_firedSinceHeard_known hknown hfired]
  | newControllerNone =>
    refine h.of_same hclock (by simp [firedSinceHeard_timeout]) ?_ rfl rfl fun _ => rfl
    exact Or.imp_right fun hactive => absurd hactive Bool.false_ne_true
  | newControllerSelect pc hpc =>
    have hactive := active_of_expiry hadm
    refine .of_lost_inactive (hc.idle (hc.selected_of_newController hactive)).2 ?_
    simpa [firedSinceHeard_timeout] using h.notFired (Or.inr hactive)
  | missedHeartbeatAvailable hlost havail =>
    have hactive := active_of_expiry hadm
    have hno := hc.noControllers_of_missedHeartbeat hactive
    have hfired := h.notFired (Or.inl hactive)
    refine ⟨fun _ => ?_, fun d hd => ?_, fun d hd => ?_⟩
    · simpa [firedSinceHeard_timeout] using hfired
    · exact (Option.some.inj hd).ge
    · obtain rfl := Option.some.inj hd
      refine iff_of_false (by simp [firedSinceHeard_timeout, hfired, hno]) ?_
      exact fun hsilent => havail (not_someRecent_iff.mp (silentUntil_add_iff.mp hsilent))
  | missedHeartbeatNone hlost hno hnone =>
    have hfired := h.notFired (Or.inl (active_of_expiry hadm))
    refine ⟨fun _ => ?_, fun d hd => ?_, fun d hd => ?_⟩
    · simpa [firedSinceHeard_timeout] using hfired
    · exact (Option.some.inj hd).ge
    · obtain rfl := Option.some.inj hd
      exact iff_of_true (Or.inl rfl) (silentUntil_add_iff.mpr (not_someRecent_iff.mpr hnone))
  | lostControllerNone =>
    have hactive := active_of_expiry hadm
    have hmissed := hc.missedHeartbeat_of_lostController hactive
    have hnew := (hc.busy (hc.selected_of_lostController hactive)).1
    refine ⟨fun h' => ?_, fun d hd => by simp at hd, fun d hd => by simp at hd⟩
    simp [hmissed, hnew] at h'
  | lostControllerSelect pc hpc =>
    obtain ⟨d, hd, hnow⟩ := hadm
    have hfired := h.not_firedSinceHeard_of_recent hd hnow (someRecent_of_first? hpc)
    exact .of_lost_inactive rfl (by simpa [firedSinceHeard_timeout] using hfired)
  | noControllers =>
    have hactive := active_of_expiry hadm
    have halone := hc.alone hactive
    refine ⟨fun h' => ?_, fun d hd => (h.lost_le d hd).trans (by linarith), fun d hd => ?_⟩
    · simp [halone] at h'
    · exact iff_of_true (Or.inr (firedSinceHeard_timeout.mpr (Or.inl rfl)))
        ((h.watch d hd).mp (Or.inl hactive))

end Steps

/-! ### Runs -/

theorem IsSelectorRun.watchTracked {tr : Trace ExactTime} {c : Config ExactTime}
    (h : IsSelectorRun tr c) : WatchTracked tr c := by
  refine h.traceInvariant (P := WatchTracked) ?_ ?_
  · intro deviceId callbacks clock
    exact .of_lost_inactive rfl not_since_nil
  · intro tr c e s' effects hrun htracked henabled hout
    exact htracked.of_outcome hrun.timersConsistent henabled hout

/-- **Waiting after a loss.** In all states of a run a device that has lost its controller and has
none selected waits for NewController or NoControllers, or NoControllers has fired since it last
heard from a controller, if and only if: whenever LostController fires with no controller recent,
all controllers had been silent for three seconds when MissedHeartbeat fired and have been silent
since, and whenever NewController fires after a loss, some controller is recent. -/
theorem waits_iff {tr : Trace ExactTime} {c : Config ExactTime} (h : IsSelectorRun tr c) :
    (∀ pre r, pre <+: tr → IsSelectorRun pre r → Waits pre r) ↔
      ∀ pre t, pre ++ [t] <+: tr →
        StaysInTouch pre t.source.selector t.label.event.now t.label.event.input := by
  refine h.forall_prefix_iff (P := Waits)
    (C := fun tr c e => StaysInTouch tr c.selector e.now e.input)
    (fun _ _ _ hlost => by simp [LostBefore] at hlost) ?_
  rintro tr c ⟨now, i⟩ s' effects hrun hP ⟨-, hadm⟩ hout
  have hc := hrun.timersConsistent
  have htracked := hrun.watchTracked
  cases hout with
  | deviceInfoIgnored | deviceInfoNew =>
    refine iff_of_true (fun hlost hsel => ?_) trivial
    simpa [firedSinceHeard_deviceInfo] using hP (by simpa [lostBefore_snoc] using hlost) hsel
  | heartbeatUnknown hb hunknown =>
    refine iff_of_true (fun hlost hsel => ?_) trivial
    simpa [firedSinceHeard_unknown hunknown] using
      hP (by simpa [lostBefore_snoc] using hlost) hsel
  | heartbeatWaiting hb hknown hsel hactive =>
    exact iff_of_true (fun _ _ => Or.inl hactive) trivial
  | heartbeatFirst => exact iff_of_true (fun _ _ => Or.inl rfl) trivial
  | heartbeatOther hb hknown hsel | heartbeatSelected hb hknown hsel
  | heartbeatResumed hb hknown hsel =>
    exact iff_of_true (fun _ hempty => absurd hempty hsel) trivial
  | newControllerNone hnone =>
    have hactive := active_of_expiry hadm
    have hsel := hc.selected_of_newController hactive
    have hno := hc.noControllers_of_newController hactive
    have hfired := htracked.notFired (Or.inr hactive)
    have hrecent := not_someRecent_iff.mpr hnone
    simp [Waits, StaysInTouch, lostBefore_snoc, firedSinceHeard_timeout, hsel, hno, hfired, hrecent]
  | newControllerSelect pc hpc =>
    exact iff_of_true (fun _ hempty => absurd hempty (hrun.wellFormed.id_ne_of_first? hpc))
      fun _ => someRecent_of_first? hpc
  | missedHeartbeatAvailable | missedHeartbeatNone =>
    have hsel := hc.selected_of_missedHeartbeat (active_of_expiry hadm)
    exact iff_of_true (fun _ hempty => absurd hempty hsel) trivial
  | lostControllerNone hnone =>
    obtain ⟨d, hd, -⟩ := hadm
    have hactive : c.selector.lostController.active = true := Timer.active_iff.mpr ⟨d, hd⟩
    have hnew := (hc.busy (hc.selected_of_lostController hactive)).1
    have hrecent := not_someRecent_iff.mpr hnone
    have hexpiry : c.selector.lostController.expiry = some d := hd
    simp [Waits, StaysInTouch, lostBefore_snoc, firedSinceHeard_timeout, hnew, hrecent, hexpiry,
      htracked.watch d hd]
  | lostControllerSelect pc hpc =>
    exact iff_of_true (fun _ hempty => absurd hempty (hrun.wellFormed.id_ne_of_first? hpc))
      fun hnone => absurd (someRecent_of_first? hpc) hnone
  | noControllers =>
    exact iff_of_true
      (fun _ _ => Or.inr (Or.inr (firedSinceHeard_timeout.mpr (Or.inl rfl)))) trivial

/-- A selector that loses the only controller it knows, and then waits for NoControllers. -/
theorem waits_after_loss : ∃ (tr : Trace ExactTime) (c : Config ExactTime),
    IsSelectorRun tr c ∧ LostBefore tr ∧ c.selector.selected = "" ∧
      ∀ pre r, pre <+: tr → IsSelectorRun pre r → Waits pre r :=
  have hrun := isSelectorRun_of_follow "dev" {} 0
    [⟨0, .deviceInfo ⟨"mc1", .microgridController, none⟩⟩, ⟨Sec 1, .heartbeat ⟨"mc1", 0⟩⟩,
      ⟨Sec 3, .heartbeat ⟨"mc1", 1⟩⟩, ⟨Sec 4, .timeout .newController⟩,
      ⟨Sec 6, .timeout .missedHeartbeat⟩, ⟨Sec 12, .timeout .lostController⟩] rfl
  ⟨_, _, hrun, by decide, by decide,
    (waits_iff hrun).mpr (forall_prefix_snoc_iff_getElem.mpr (by decide))⟩

/-- Another controller is recent when MissedHeartbeat fires, so NoControllers is not started, and
silent when LostController fires: the device waits for nothing. -/
theorem stuck_after_loss : ∃ (tr : Trace ExactTime) (c : Config ExactTime),
    IsSelectorRun tr c ∧ LostBefore tr ∧ c.selector.selected = "" ∧ ¬Waits tr c :=
  have hrun := isSelectorRun_of_follow "dev" {} 0
    [⟨0, .deviceInfo ⟨"mc1", .microgridController, none⟩⟩,
      ⟨0, .deviceInfo ⟨"mc2", .microgridController, none⟩⟩, ⟨Sec 1, .heartbeat ⟨"mc1", 0⟩⟩,
      ⟨Sec 3, .heartbeat ⟨"mc1", 1⟩⟩, ⟨Sec 4, .timeout .newController⟩,
      ⟨Sec 5, .heartbeat ⟨"mc2", 0⟩⟩, ⟨Sec 6, .timeout .missedHeartbeat⟩,
      ⟨Sec 12, .timeout .lostController⟩] rfl
  ⟨_, _, hrun, by decide, by decide, not_waits (by decide) (by decide) (by decide) (by decide)⟩

end ControllerSelector

end TacticalMicrogrid
