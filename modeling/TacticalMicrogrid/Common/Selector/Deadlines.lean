import TacticalMicrogrid.Common.Selector.TimerStates
import Mathlib.Tactic.Linarith

/-!
# How old the last heartbeat is when a timer fires

MissedHeartbeat is due the heartbeat deadline after the last heartbeat of the selected controller,
and LostController the delay of a lost controller later. `select` takes the age of the last
heartbeat off the delay of MissedHeartbeat, and a heartbeat that finds MissedHeartbeat active arms
it with that delay again. So the deadlines are kept in the runs in which the delay of an active
MissedHeartbeat is the heartbeat deadline whenever the selected controller is heard from.

## Main definitions

* `ControllerSelector.SilentFor`, `ControllerSelector.FiresSilent`.
* `ControllerSelector.DeadlineInForce`: the condition on a step.
* `ControllerSelector.DeadlinesKept`: the invariant.

## Main results

* `ControllerSelector.fires_silent_of_run`: when MissedHeartbeat or LostController fires in a run
  that meets the condition, the selected controller has been silent for three or nine seconds.
* `ControllerSelector.fires_early_after_aged_selection`: a run in which both fire too early.
-/

namespace TacticalMicrogrid

open TransitionSystem

namespace ControllerSelector

/-! ### Deadlines -/

/-- The last heartbeat of the selected controller is at least the duration old. -/
def SilentFor (s : ControllerSelector ExactTime) (now : ℤ) (duration : Duration) : Prop :=
  ∃ t ∈ s.lastHeard s.selected, duration ≤ now - t

instance (s : ControllerSelector ExactTime) (now : ℤ) (duration : Duration) :
    Decidable (s.SilentFor now duration) :=
  inferInstanceAs (Decidable (∃ t ∈ s.lastHeard s.selected, duration ≤ now - t))

/-- If the input is the timeout of MissedHeartbeat or LostController, the selected controller has
been silent for as long as the timer stands for. -/
def FiresSilent (s : ControllerSelector ExactTime) (now : ℤ) : Input → Prop
  | .timeout .missedHeartbeat => s.SilentFor now heartbeatDeadline
  | .timeout .lostController => s.SilentFor now (heartbeatDeadline + lostActiveControllerDelay)
  | _ => True

instance (s : ControllerSelector ExactTime) (now : ℤ) :
    (i : Input) → Decidable (s.FiresSilent now i)
  | .timeout .missedHeartbeat => inferInstanceAs (Decidable (s.SilentFor now _))
  | .timeout .lostController => inferInstanceAs (Decidable (s.SilentFor now _))
  | .timeout .newController | .timeout .noControllers | .deviceInfo _ | .heartbeat _ =>
    isTrue trivial

/-- If the input is a heartbeat of the selected controller that finds MissedHeartbeat active, the
delay of MissedHeartbeat is the heartbeat deadline. -/
def DeadlineInForce (s : ControllerSelector ExactTime) : Input → Prop
  | .heartbeat hb => hb.deviceId = s.selected → s.missedHeartbeat.active = true →
      s.missedHeartbeat.delay = heartbeatDeadline
  | _ => True

instance (s : ControllerSelector ExactTime) : (i : Input) → Decidable (s.DeadlineInForce i)
  | .heartbeat hb => inferInstanceAs (Decidable (hb.deviceId = s.selected → _ → _))
  | .deviceInfo _ | .timeout _ => isTrue trivial

/-- An active timer of the selected controller is due no earlier than it stands for. -/
structure DeadlinesKept (s : ControllerSelector ExactTime) : Prop where
  missed : ∀ d ∈ s.missedHeartbeat.expiry, s.SilentFor d heartbeatDeadline
  lost : ∀ d ∈ s.lostController.expiry,
    s.SilentFor d (heartbeatDeadline + lostActiveControllerDelay)

section Deadlines

variable {s : ControllerSelector ExactTime} {now : ℤ}

/-- Silence goes on. -/
theorem SilentFor.add {d duration : Duration} (h : s.SilentFor d duration) {extra : Duration}
    (hnow : d + extra ≤ now) : s.SilentFor now (duration + extra) := by
  obtain ⟨t, ht, hle⟩ := h
  exact ⟨t, ht, by linarith⟩

/-- The timers of a selector that has just selected an available controller: the age of the last
heartbeat makes up for the shorter delay. -/
theorem silentFor_selecting {pc : PrioritizedController} (hpc : s.available now pc = true) :
    (s.selecting now pc.id).SilentFor (now + (heartbeatDeadline - s.ageOf now pc.id))
      heartbeatDeadline := by
  obtain ⟨t, ht, hage, -⟩ := exists_lastHeard_of_available hpc
  exact ⟨t, ht, by linarith⟩

/-- A heartbeat of another controller does not end the silence of the selected one. -/
theorem SilentFor.heard_of_ne {d duration : Duration} (h : s.SilentFor d duration) {id : Identity}
    (hne : s.selected ≠ id) : (s.heard now id).SilentFor d duration := by
  obtain ⟨t, ht, hle⟩ := h
  exact ⟨t, by rwa [lastHeard_heard, heard, if_neg hne], hle⟩

/-- A timer armed with the full deadline at a heartbeat of the selected controller. -/
theorem silentFor_heard_self : (s.heard now s.selected).SilentFor (now + heartbeatDeadline)
    heartbeatDeadline :=
  ⟨now, by rw [lastHeard_heard, heard, if_pos rfl]; rfl, by linarith⟩

/-- While no controller is selected, there is no deadline to keep. -/
theorem DeadlinesKept.of_inactive (hmissed : s.missedHeartbeat.active = false)
    (hlost : s.lostController.active = false) : s.DeadlinesKept where
  missed d hd := by simp [Timer.active_eq_false_iff.mp hmissed] at hd
  lost d hd := by simp [Timer.active_eq_false_iff.mp hlost] at hd

end Deadlines

namespace DeadlinesKept

variable {c : Config ExactTime} {s' : ControllerSelector ExactTime} {now : ℤ} {i : Input}
  {effects : List Effect}

/-- Every handler whose input finds the right deadline in force keeps the deadlines. -/
theorem of_outcome (h : c.selector.DeadlinesKept) (hc : TimersConsistent c)
    (hforce : c.selector.DeadlineInForce i) (hadm : c.selector.Admissible now i)
    (hout : Outcome c.selector now i s' effects) : s'.DeadlinesKept := by
  cases hout with
  | deviceInfoIgnored | heartbeatUnknown => exact h
  | deviceInfoNew di hrole hnew =>
    have hold : ∀ d duration, c.selector.SilentFor d duration →
        ({ c.selector with
          allControllers := c.selector.allControllers.set di.deviceId TimePoint.min
          prioritizedControllers := c.selector.prioritizedControllers.insert (.ofDeviceInfo di) }
          : ControllerSelector ExactTime).SilentFor d duration := by
      rintro d duration ⟨t, ht, hle⟩
      exact ⟨t, (join_find?_set_none hnew _).trans ht, hle⟩
    exact ⟨fun d hd => hold _ _ (h.missed d hd), fun d hd => hold _ _ (h.lost d hd)⟩
  | heartbeatWaiting hb hknown hsel | heartbeatFirst hb hknown hsel =>
    exact .of_inactive (hc.idle hsel).1 (hc.idle hsel).2
  | heartbeatOther hb hknown hsel hother =>
    exact ⟨fun d hd => (h.missed d hd).heard_of_ne hother,
      fun d hd => (h.lost d hd).heard_of_ne hother⟩
  | heartbeatSelected hb hknown hsel hself hactive =>
    refine ⟨fun d hd => ?_, fun d hd => by simp at hd⟩
    obtain rfl := Option.some.inj hd
    rw [hforce hself.symm hactive, ← hself]
    exact silentFor_heard_self
  | heartbeatResumed hb hknown hsel hself =>
    refine ⟨fun d hd => ?_, fun d hd => by simp at hd⟩
    obtain rfl := Option.some.inj hd
    rw [← hself]
    exact silentFor_heard_self
  | newControllerNone | noControllers => exact ⟨h.missed, h.lost⟩
  | newControllerSelect pc hpc =>
    have hidle := hc.idle (hc.selected_of_newController (active_of_expiry hadm))
    refine ⟨fun d hd => ?_, fun d hd => ?_⟩
    · obtain rfl := Option.some.inj hd
      exact silentFor_selecting (available_of_first? hpc)
    · simp [selecting, Timer.active_eq_false_iff.mp hidle.2] at hd
  | missedHeartbeatAvailable | missedHeartbeatNone =>
    obtain ⟨due, hdue, hnow⟩ := hadm
    refine ⟨fun d hd => by simp at hd, fun d hd => ?_⟩
    obtain rfl := Option.some.inj hd
    exact (h.missed due hdue).add (by linarith)
  | lostControllerNone =>
    exact .of_inactive (hc.missedHeartbeat_of_lostController (active_of_expiry hadm)) rfl
  | lostControllerSelect pc hpc =>
    refine ⟨fun d hd => ?_, fun d hd => by simp at hd⟩
    obtain rfl := Option.some.inj hd
    exact silentFor_selecting (available_of_first? hpc)

/-- A timer that fires when the deadlines are kept fires after the silence it stands for. -/
theorem firesSilent (h : c.selector.DeadlinesKept) (hadm : c.selector.Admissible now i) :
    c.selector.FiresSilent now i := by
  cases i with
  | deviceInfo | heartbeat => trivial
  | timeout k =>
    obtain ⟨d, hd, hnow⟩ := hadm
    cases k with
    | newController | noControllers => trivial
    | missedHeartbeat =>
      obtain ⟨t, ht, hle⟩ := h.missed d hd
      exact ⟨t, ht, by linarith⟩
    | lostController =>
      obtain ⟨t, ht, hle⟩ := h.lost d hd
      exact ⟨t, ht, by linarith⟩

end DeadlinesKept

/-! ### Runs -/

/-- The deadlines are kept in the runs whose steps all find the right deadline in force. -/
theorem IsSelectorRun.deadlinesKept {tr : Trace ExactTime} {c : Config ExactTime}
    (h : IsSelectorRun tr c)
    (hforce : ∀ t ∈ tr, t.source.selector.DeadlineInForce t.label.event.input) :
    c.selector.DeadlinesKept := by
  revert hforce
  refine h.traceInvariant (P := fun tr c =>
    (∀ t ∈ tr, t.source.selector.DeadlineInForce t.label.event.input) →
      c.selector.DeadlinesKept) (fun _ _ _ _ => .of_inactive rfl rfl) ?_
  intro tr c e s' effects hrun hkept henabled hout hforce
  have hkept := hkept fun t ht => hforce t (List.mem_append_left _ ht)
  exact hkept.of_outcome hrun.timersConsistent
    (hforce _ (List.mem_append_right _ List.mem_cons_self)) henabled.2 hout

/-- **Age of the last heartbeat at a timeout.** In every run in which each heartbeat of the
selected controller that finds MissedHeartbeat active finds it with the heartbeat deadline as its
delay, MissedHeartbeat fires only after three seconds, and LostController only after nine seconds,
without a heartbeat of the selected controller. -/
theorem fires_silent_of_run {tr : Trace ExactTime} {c : Config ExactTime} (h : IsSelectorRun tr c)
    (hforce : ∀ t ∈ tr, t.source.selector.DeadlineInForce t.label.event.input) :
    ∀ t ∈ tr, t.source.selector.FiresSilent t.label.event.now t.label.event.input := by
  intro t ht
  obtain ⟨pre, hpre⟩ := exists_prefix_snoc_of_mem ht
  obtain ⟨hrun, henabled, -⟩ := h.of_prefix hpre
  have hpre' : pre <+: tr := (List.prefix_append pre [t]).trans hpre
  exact (hrun.deadlinesKept fun u hu => hforce u (hpre'.subset hu)).firesSilent henabled.2

/-- A selector that selects the controller it has just heard from, and then loses it. -/
theorem fires_silent_after_fresh_selection : ∃ (tr : Trace ExactTime) (c : Config ExactTime),
    IsSelectorRun tr c ∧
      (∃ t ∈ tr, t.label.event.input = .timeout .missedHeartbeat) ∧
      (∃ t ∈ tr, t.label.event.input = .timeout .lostController) ∧
      ∀ t ∈ tr, t.source.selector.FiresSilent t.label.event.now t.label.event.input :=
  have hrun := isSelectorRun_of_follow "dev" {} 0
    [⟨0, .deviceInfo ⟨"mc1", .microgridController, none⟩⟩, ⟨Sec 1, .heartbeat ⟨"mc1", 0⟩⟩,
      ⟨Sec 4, .heartbeat ⟨"mc1", 1⟩⟩, ⟨Sec 4, .timeout .newController⟩,
      ⟨Sec 5, .heartbeat ⟨"mc1", 2⟩⟩, ⟨Sec 8, .timeout .missedHeartbeat⟩,
      ⟨Sec 14, .timeout .lostController⟩] rfl
  ⟨_, _, hrun, by decide, by decide, fires_silent_of_run hrun (by decide)⟩

/-- The selection of a controller that was heard from a second before leaves a delay of two seconds
in MissedHeartbeat, and the next heartbeat arms it with these two seconds: MissedHeartbeat fires
after two and LostController after eight seconds of silence. -/
theorem fires_early_after_aged_selection : ∃ (tr : Trace ExactTime) (c : Config ExactTime),
    IsSelectorRun tr c ∧
      (∃ t ∈ tr, t.label.event.input = .timeout .missedHeartbeat ∧
        ¬t.source.selector.FiresSilent t.label.event.now t.label.event.input) ∧
      ∃ t ∈ tr, t.label.event.input = .timeout .lostController ∧
        ¬t.source.selector.FiresSilent t.label.event.now t.label.event.input :=
  have hrun := isSelectorRun_of_follow "dev" {} 0
    [⟨0, .deviceInfo ⟨"mc1", .microgridController, none⟩⟩, ⟨Sec 1, .heartbeat ⟨"mc1", 0⟩⟩,
      ⟨Sec 3, .heartbeat ⟨"mc1", 1⟩⟩, ⟨Sec 4, .timeout .newController⟩,
      ⟨Sec 5, .heartbeat ⟨"mc1", 2⟩⟩, ⟨Sec 7, .timeout .missedHeartbeat⟩,
      ⟨Sec 13, .timeout .lostController⟩] rfl
  ⟨_, _, hrun, by decide, by decide⟩

end ControllerSelector

end TacticalMicrogrid
