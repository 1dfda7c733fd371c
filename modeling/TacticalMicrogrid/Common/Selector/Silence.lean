import TacticalMicrogrid.Common.Selector.Callbacks
import Mathlib.Tactic.Linarith

/-!
# How long controllers are silent before a selector gives them up

LostController is scheduled when no heartbeat of the selected controller has come for some time, is
due six seconds later, and the next heartbeat of that controller cancels it. NewController can be
active only while no controller is selected. So a selected controller stays selected as long as its
heartbeats come less than six seconds after each other, whatever the other controllers do.

NoControllers is scheduled when no known controller has been heard from for three seconds, is due
ten seconds later, and every heartbeat of a known controller cancels it. A controller that becomes
known in between has not been heard from. So when NoControllers fires, all known controllers have
been silent for thirteen seconds.

## Main definitions

* `ControllerSelector.lastHeartbeat`: when a controller was last heard from, by the history.
* `ControllerSelector.HeardInTime`: the heartbeats of a controller come in time.
* `ControllerSelector.HeartbeatsRecorded`: `all_controllers_` agrees with the history.

## Main results

* `ControllerSelector.keeps_selected_of_run`: a selected controller is not displaced by others.
* `ControllerSelector.silent_of_noControllers`: all controllers are silent when NoControllers fires.
-/

namespace TacticalMicrogrid

open TransitionSystem

namespace ControllerSelector

/-! ### The heartbeats of a run -/

section History

variable {τ : Type}

/-- The clock reading of an event, if it is a heartbeat of the controller. -/
def Event.heardFrom (x : Identity) (e : Event) : Option ℤ :=
  match e.input with
  | .heartbeat hb => if hb.deviceId = x then some e.now else none
  | .deviceInfo _ | .timeout _ => none

/-- The clock reading at which the last heartbeat of a controller was handled. -/
def lastHeartbeat (x : Identity) (tr : Trace τ) : Option ℤ :=
  (tr.filterMap (·.label.event.heardFrom x)).getLast?

theorem lastHeartbeat_snoc (x : Identity) (tr : Trace τ) (t : Transition (Config τ) Label) :
    lastHeartbeat x (tr ++ [t]) = (t.label.event.heardFrom x).or (lastHeartbeat x tr) := by
  rw [lastHeartbeat, List.filterMap_append]
  cases hheard : t.label.event.heardFrom x with
  | none => simp [hheard, lastHeartbeat]
  | some now => simp [hheard]

/-- A step that is no heartbeat of the controller leaves the last one as it is. -/
theorem lastHeartbeat_snoc_of_none {x : Identity} {tr : Trace τ}
    {t : Transition (Config τ) Label} (h : t.label.event.heardFrom x = none) :
    lastHeartbeat x (tr ++ [t]) = lastHeartbeat x tr := by
  rw [lastHeartbeat_snoc, h]
  rfl

/-- A heartbeat is the last one of its own controller. -/
theorem lastHeartbeat_snoc_heartbeat {x : Identity} {tr : Trace τ} {c c' : Config τ} {now : ℤ}
    {hb : Heartbeat} {effects : List Effect} :
    lastHeartbeat x (tr ++ [⟨c, ⟨⟨now, .heartbeat hb⟩, effects⟩, c'⟩]) =
      if x = hb.deviceId then some now else lastHeartbeat x tr := by
  rw [lastHeartbeat_snoc]
  change (if hb.deviceId = x then some now else none).or _ = _
  by_cases hx : x = hb.deviceId
  · rw [if_pos hx, if_pos hx.symm]
    rfl
  · rw [if_neg hx, if_neg (Ne.symm hx)]
    rfl

end History

/-- What `all_controllers_` says about a controller agrees with the heartbeats that were handled
while the controller was known. -/
structure HeartbeatsRecorded (tr : Trace ExactTime) (s : ControllerSelector ExactTime) : Prop where
  last : ∀ x, ∀ t ∈ s.lastHeard x, t ∈ lastHeartbeat x tr
  known : ∀ u ∈ tr, ∀ hb, u.label.event.input = .heartbeat hb →
    hb.deviceId ∈ u.source.selector.allControllers →
      ∃ t ∈ s.lastHeard hb.deviceId, u.label.event.now ≤ t

section Recorded

variable {tr : Trace ExactTime} {c : Config ExactTime} {now : ℤ}
  {s s' : ControllerSelector ExactTime} {effects : List Effect} {i : Input} {c' : Config ExactTime}

/-- Steps that are no heartbeats of known controllers, and leave the last heartbeats as they are. -/
theorem HeartbeatsRecorded.of_same (h : HeartbeatsRecorded tr c.selector)
    (hunknown : ∀ hb, i = .heartbeat hb → hb.deviceId ∉ c.selector.allControllers)
    (hheard : ∀ x, s'.lastHeard x = c.selector.lastHeard x) :
    HeartbeatsRecorded (tr ++ [⟨c, ⟨⟨now, i⟩, effects⟩, c'⟩]) s' := by
  constructor
  · intro x t ht
    rw [hheard] at ht
    rw [lastHeartbeat_snoc_of_none]
    · exact h.last x t ht
    · cases i with
      | deviceInfo | timeout => rfl
      | heartbeat hb =>
        -- An unknown controller has no last heartbeat.
        refine if_neg ?_
        rintro rfl
        exact hunknown hb rfl (Table.mem_of_find? (lastHeard_eq_some_iff.mp ht))
  · intro u hu hb hinput hknown
    rw [hheard]
    rcases List.mem_append.mp hu with hu | hu
    · exact h.known u hu hb hinput hknown
    · obtain rfl := List.mem_singleton.mp hu
      exact absurd hknown (hunknown hb hinput)

/-- A heartbeat of a known controller is recorded. -/
theorem HeartbeatsRecorded.heard (h : HeartbeatsRecorded tr c.selector)
    (hle : ∀ x, ∀ t ∈ c.selector.lastHeard x, t ≤ now) (hb : Heartbeat)
    (hs : ∀ x, s'.lastHeard x = (c.selector.heard now hb.deviceId).lastHeard x) :
    HeartbeatsRecorded (tr ++ [⟨c, ⟨⟨now, .heartbeat hb⟩, effects⟩, c'⟩]) s' := by
  constructor
  · intro x t ht
    rw [hs, lastHeard_heard] at ht
    rw [lastHeartbeat_snoc_heartbeat]
    split_ifs at ht ⊢ with hx
    · exact ht
    · exact h.last x t ht
  · intro u hu hb' hinput hknown
    rw [hs, lastHeard_heard]
    rcases List.mem_append.mp hu with hu | hu
    · obtain ⟨t, ht, hut⟩ := h.known u hu hb' hinput hknown
      split_ifs with hx
      · exact ⟨now, rfl, hut.trans (hle _ t ht)⟩
      · exact ⟨t, ht, hut⟩
    · obtain rfl := List.mem_singleton.mp hu
      obtain rfl := Input.heartbeat.inj hinput
      exact ⟨now, if_pos rfl, le_rfl⟩

/-- `all_controllers_` agrees with the history of every run. -/
theorem IsSelectorRun.heartbeatsRecorded (h : IsSelectorRun tr c) :
    HeartbeatsRecorded tr c.selector := by
  refine h.traceInvariant (P := fun tr c => HeartbeatsRecorded tr c.selector) ?_ ?_
  · intro deviceId callbacks clock
    exact ⟨fun x t ht => by simp [Config.init, lastHeard] at ht,
      fun u hu => absurd hu List.not_mem_nil⟩
  · rintro tr c ⟨now, i⟩ s' effects hrun hrecorded ⟨hclock, -⟩ hout
    have hle : ∀ x, ∀ t ∈ c.selector.lastHeard x, t ≤ now :=
      fun x t ht => (hrun.timersConsistent.heard_le x t ht).trans hclock
    cases hout with
    | heartbeatUnknown hb hunknown =>
      refine hrecorded.of_same (fun hb' heq => ?_) fun _ => rfl
      rwa [← Input.heartbeat.inj heq]
    | heartbeatWaiting hb | heartbeatFirst hb | heartbeatOther hb | heartbeatSelected hb
    | heartbeatResumed hb => exact hrecorded.heard hle hb fun _ => rfl
    | deviceInfoNew di hrole hnew =>
      exact hrecorded.of_same (fun hb heq => by cases heq) (join_find?_set_none hnew)
    | _ => exact hrecorded.of_same (fun hb heq => by cases heq) fun _ => rfl

/-- The selected controller has been heard from. -/
theorem IsSelectorRun.selected_heard (h : IsSelectorRun tr c) (hsel : c.selector.selected ≠ "") :
    ∃ t, t ∈ c.selector.lastHeard c.selector.selected := by
  revert hsel
  refine h.traceInvariant (P := fun _ c => c.selector.selected ≠ "" →
    ∃ t, t ∈ c.selector.lastHeard c.selector.selected) (fun _ _ _ hsel => absurd rfl hsel) ?_
  rintro tr c ⟨now, i⟩ s' effects hrun hheard henabled hout hsel
  have hold : ∀ x, c.selector.selected ≠ "" →
      ∃ t, t ∈ (c.selector.heard now x).lastHeard c.selector.selected := by
    intro x hsel
    rw [lastHeard_heard]
    split_ifs
    · exact ⟨now, rfl⟩
    · exact hheard hsel
  cases hout with
  | heartbeatWaiting hb | heartbeatFirst hb | heartbeatOther hb | heartbeatSelected hb
  | heartbeatResumed hb => exact hold hb.deviceId hsel
  | deviceInfoNew di hrole hnew =>
    obtain ⟨t, ht⟩ := hheard hsel
    exact ⟨t, (join_find?_set_none hnew _).trans ht⟩
  | newControllerSelect pc hpc | lostControllerSelect pc hpc =>
    obtain ⟨t, ht, -⟩ := exists_lastHeard_of_available (available_of_first? hpc)
    exact ⟨t, ht⟩
  | lostControllerNone => exact absurd rfl hsel
  | _ => exact hheard hsel

end Recorded

/-! ### The selected controller -/

/-- No step of the second part of a history comes six seconds or more after the last heartbeat of
the controller before it: each next heartbeat comes in time. -/
def HeardInTime (x : Identity) (before after : Trace ExactTime) : Prop :=
  ∀ mid t, mid ++ [t] <+: after → ∀ last ∈ lastHeartbeat x (before ++ mid),
    t.label.event.now - last < Sec 6

section Selected

variable {tr : Trace ExactTime} {c : Config ExactTime} {e : Event}
  {s' : ControllerSelector ExactTime} {effects : List Effect}

/-- LostController does not fire within six seconds after the last heartbeat of the selected
controller. -/
theorem IsSelectorRun.not_lost (h : IsSelectorRun tr c) (hsel : c.selector.selected ≠ "")
    (henabled : Enabled c e)
    (hrecent : ∀ last ∈ lastHeartbeat c.selector.selected tr, e.now - last < Sec 6) :
    e.input ≠ .timeout .lostController := by
  intro hlost
  obtain ⟨-, hadm⟩ := henabled
  rw [hlost] at hadm
  obtain ⟨d, hd, hnow⟩ := hadm
  obtain ⟨t, ht⟩ := h.selected_heard hsel
  have hsilent : t + Sec 6 ≤ d := h.lost_silent d hd t ht
  have hlast := hrecent t (h.heartbeatsRecorded.last _ t ht)
  linarith

/-- A step that comes in time keeps the selected controller, and does not report it lost. -/
theorem IsSelectorRun.keeps_selected (h : IsSelectorRun tr c) (hsel : c.selector.selected ≠ "")
    (henabled : Enabled c e) (hout : Outcome c.selector e.now e.input s' effects)
    (hrecent : ∀ last ∈ lastHeartbeat c.selector.selected tr, e.now - last < Sec 6) :
    s'.selected = c.selector.selected ∧ ∀ x, .lostController x ∉ effects := by
  have hlost := h.not_lost hsel henabled hrecent
  refine ⟨?_, fun x hcall => hlost ((hout.of_call x).2 hcall).2⟩
  by_contra hne
  have hreselects := (h.selected_ne_iff henabled hout).mp hne
  obtain ⟨now, i⟩ := e
  cases i with
  | deviceInfo | heartbeat => exact hreselects
  | timeout k =>
    cases k with
    | newController =>
      have hactive := active_of_expiry henabled.2
      exact hsel (h.timersConsistent.selected_of_newController hactive)
    | lostController => exact hlost rfl
    | missedHeartbeat | noControllers => exact hreselects

end Selected

theorem HeardInTime.of_snoc {x : Identity} {before after : Trace ExactTime}
    {t : Transition (Config ExactTime) Label} (h : HeardInTime x before (after ++ [t])) :
    HeardInTime x before after ∧
      ∀ last ∈ lastHeartbeat x (before ++ after), t.label.event.now - last < Sec 6 :=
  ⟨fun mid u hmid => h mid u (hmid.trans (List.prefix_append ..)),
    h after t List.prefix_rfl⟩

/-- **A selected controller is not displaced.** Once a controller is selected in a run, it stays
selected and is not reported lost as long as each next heartbeat of it is handled less than six
seconds after the one before it, the first one after the last heartbeat before that point of the
run; whatever else is received, and whichever timers fire. -/
theorem keeps_selected_of_run {tr : Trace ExactTime} {c : Config ExactTime}
    (h : IsSelectorRun tr c) {before after : Trace ExactTime}
    {s : Transition (Config ExactTime) Label} (htr : tr = before ++ [s] ++ after)
    (hsel : s.target.selector.selected ≠ "")
    (htime : HeardInTime s.target.selector.selected (before ++ [s]) after) :
    ∀ t ∈ after, t.target.selector.selected = s.target.selector.selected ∧
      ∀ id, .lostController id ∉ t.label.effects := by
  -- Along the run, with the selection at its end.
  suffices hkept : ∀ after, tr = before ++ [s] ++ after →
      HeardInTime s.target.selector.selected (before ++ [s]) after →
        c.selector.selected = s.target.selector.selected ∧
          ∀ t ∈ after, t.target.selector.selected = s.target.selector.selected ∧
            ∀ id, .lostController id ∉ t.label.effects from
    (hkept after htr htime).2
  clear htr htime
  refine h.traceInvariant (P := fun tr c => ∀ after, tr = before ++ [s] ++ after →
      HeardInTime s.target.selector.selected (before ++ [s]) after →
        c.selector.selected = s.target.selector.selected ∧
          ∀ t ∈ after, t.target.selector.selected = s.target.selector.selected ∧
            ∀ id, .lostController id ∉ t.label.effects) ?_ ?_
  · intro deviceId callbacks clock after hnil
    simp at hnil
  · intro tr c e s' effects hrun ih henabled hout after htr htime
    rcases List.eq_nil_or_concat after with rfl | ⟨after, t, rfl⟩
    · rw [List.append_nil] at htr
      obtain ⟨-, hs⟩ := List.append_inj' htr rfl
      obtain rfl := List.singleton_injective hs
      exact ⟨rfl, fun t ht => absurd ht List.not_mem_nil⟩
    · rw [List.concat_eq_append, ← List.append_assoc] at htr
      obtain ⟨rfl, ht⟩ := List.append_inj' htr rfl
      obtain rfl := List.singleton_injective ht
      rw [List.concat_eq_append] at htime ⊢
      obtain ⟨hbefore, hrecent⟩ := htime.of_snoc
      obtain ⟨hsame, hafter⟩ := ih after rfl hbefore
      rw [← hsame] at hsel hrecent
      obtain ⟨hkeeps, hcalls⟩ := hrun.keeps_selected hsel henabled hout hrecent
      refine ⟨hkeeps.trans hsame, fun t ht => ?_⟩
      rcases List.mem_append.mp ht with ht | ht
      · exact hafter t ht
      · obtain rfl := List.mem_singleton.mp ht
        exact ⟨hkeeps.trans hsame, hcalls⟩

/-- A selected controller misses a heartbeat and comes back after five seconds, while a controller
with a better ranking is around: it stays selected. -/
theorem keeps_selected_of_late_heartbeat : ∃ (tr : Trace ExactTime) (c : Config ExactTime),
    IsSelectorRun tr c ∧ ∃ before s after, tr = before ++ [s] ++ after ∧
      s.label.event.input = .timeout .newController ∧ s.target.selector.selected = "mc1" ∧
      (∃ t ∈ after, t.label.event.input = .timeout .missedHeartbeat) ∧
      (∃ t ∈ after, t.label.event.input = .heartbeat ⟨"mc0", 0⟩) ∧
      ∀ t ∈ after, t.target.selector.selected = s.target.selector.selected ∧
        ∀ id, .lostController id ∉ t.label.effects :=
  have hrun := isSelectorRun_of_follow "dev" ⟨true, true, true, true⟩ 0
    [⟨0, .deviceInfo ⟨"mc1", .microgridController, some ⟨some ⟨2⟩⟩⟩⟩,
      ⟨Sec 1, .heartbeat ⟨"mc1", 0⟩⟩, ⟨Sec 3, .heartbeat ⟨"mc1", 1⟩⟩,
      ⟨Sec 4, .timeout .newController⟩,
      ⟨Sec 5, .deviceInfo ⟨"mc0", .microgridController, some ⟨some ⟨1⟩⟩⟩⟩,
      ⟨Sec 6, .heartbeat ⟨"mc0", 0⟩⟩, ⟨Sec 6, .timeout .missedHeartbeat⟩,
      ⟨Sec 8, .heartbeat ⟨"mc1", 2⟩⟩, ⟨Sec 11, .timeout .missedHeartbeat⟩] rfl
  have hsplit := eq_take_append_getElem_append_drop _ 3 (by decide)
  ⟨_, _, hrun, _, _, _, hsplit, by decide, by decide, by decide, by decide,
    keeps_selected_of_run hrun hsplit (by decide)
      (forall_prefix_snoc_iff_getElem.mpr (by decide))⟩

/-! ### All controllers -/

/-- When NoControllers is due, every controller has been silent for its delay and the heartbeat
deadline. -/
theorem IsSelectorRun.noControllers_silent {tr : Trace ExactTime} {c : Config ExactTime}
    (h : IsSelectorRun tr c) : ∀ d ∈ c.selector.noControllers.expiry,
      ∀ x, ∀ t ∈ c.selector.lastHeard x, heartbeatDeadline + noControllersDelay ≤ d - t := by
  refine h.traceInvariant (P := fun _ c => ∀ d ∈ c.selector.noControllers.expiry,
    ∀ x, ∀ t ∈ c.selector.lastHeard x, heartbeatDeadline + noControllersDelay ≤ d - t)
    (fun _ _ _ d hd => by simp [Config.init] at hd) ?_
  rintro tr c ⟨now, i⟩ s' effects hrun hsilent henabled hout d hd x t ht
  cases hout with
  | heartbeatWaiting | heartbeatFirst | heartbeatOther | heartbeatSelected | heartbeatResumed
  | noControllers => cases hd
  | deviceInfoNew di hrole hnew =>
    exact hsilent d hd x t ((join_find?_set_none hnew x).symm.trans ht)
  | missedHeartbeatNone hactive hno hnone =>
    obtain rfl := Option.some.inj hd
    have hold := forall_isRecent_eq_false_iff.mp hnone x t ht
    linarith
  | _ => exact hsilent d hd x t ht

/-- **All controllers are silent when NoControllers fires.** Whenever NoControllers fires in a run,
every controller in `all_controllers_` was last heard from at least thirteen seconds before or has
never been heard from; and no heartbeat of a controller that was known then has been handled in
the thirteen seconds before. -/
theorem silent_of_noControllers {tr : Trace ExactTime} {c : Config ExactTime}
    (h : IsSelectorRun tr c) : ∀ pre t, pre ++ [t] <+: tr →
      t.label.event.input = .timeout .noControllers →
        (∀ x ∈ t.source.selector.allControllers, ∀ last ∈ t.source.selector.lastHeard x,
          heartbeatDeadline + noControllersDelay ≤ t.label.event.now - last) ∧
        ∀ u ∈ pre, ∀ hb, u.label.event.input = .heartbeat hb →
          hb.deviceId ∈ u.source.selector.allControllers →
            heartbeatDeadline + noControllersDelay ≤ t.label.event.now - u.label.event.now := by
  intro pre t hpre hinput
  obtain ⟨hrun, ⟨-, hadm⟩, -⟩ := h.of_prefix hpre
  rw [hinput] at hadm
  obtain ⟨d, hd, hnow⟩ := hadm
  have hsilent := hrun.noControllers_silent d hd
  refine ⟨fun x _ last hlast => ?_, fun u hu hb hheard hknown => ?_⟩
  · have hage := hsilent x last hlast
    linarith
  · obtain ⟨last, hlast, hle⟩ := hrun.heartbeatsRecorded.known u hu hb hheard hknown
    have hage := hsilent hb.deviceId last hlast
    linarith

/-- NoControllers fires thirteen seconds after the last heartbeat, although another controller has
become known while it was active. -/
theorem silent_of_noControllers_after_deviceInfo : ∃ (tr : Trace ExactTime) (c : Config ExactTime),
    IsSelectorRun tr c ∧
      (∃ t ∈ tr, t.label.event.input = .timeout .noControllers ∧
        "mc2" ∈ t.source.selector.allControllers ∧
        t.source.selector.lastHeard "mc1" = some (t.label.event.now - Sec 13)) ∧
      ∀ pre t, pre ++ [t] <+: tr → t.label.event.input = .timeout .noControllers →
        ∀ u ∈ pre, ∀ hb, u.label.event.input = .heartbeat hb →
          hb.deviceId ∈ u.source.selector.allControllers →
            heartbeatDeadline + noControllersDelay ≤ t.label.event.now - u.label.event.now :=
  have hrun := isSelectorRun_of_follow "dev" {} 0
    [⟨0, .deviceInfo ⟨"mc1", .microgridController, none⟩⟩, ⟨Sec 1, .heartbeat ⟨"mc1", 0⟩⟩,
      ⟨Sec 3, .heartbeat ⟨"mc1", 1⟩⟩, ⟨Sec 4, .timeout .newController⟩,
      ⟨Sec 6, .timeout .missedHeartbeat⟩,
      ⟨Sec 7, .deviceInfo ⟨"mc2", .microgridController, none⟩⟩,
      ⟨Sec 12, .timeout .lostController⟩, ⟨Sec 16, .timeout .noControllers⟩] rfl
  ⟨_, _, hrun, by decide, fun pre t hpre hinput =>
    (silent_of_noControllers hrun pre t hpre hinput).2⟩

end ControllerSelector

end TacticalMicrogrid
