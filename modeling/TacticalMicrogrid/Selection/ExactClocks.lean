import TacticalMicrogrid.Common.Selector.ExactAges
import TacticalMicrogrid.Selection.Failover

/-!
# A microgrid on the 64-bit clock

What is known about times in a microgrid supposes that its devices compute exact ages. A microgrid
whose devices have 64-bit time points does what one with exact ages does, if and only if every
device does so, which depends on nothing but its own selector: each of its handlers has to find what
it looks for among the controllers that were heard from.

## Main definitions

* `SelectionSystem.exact`: a microgrid with 64-bit time points, seen with exact ones.
* `SelectionSystem.FindsHeard`: the condition on a step.

## Main results

* `SelectionSystem.Step.exact`: a step is one with exact ages, if that of its device is.
* `SelectionSystem.exact_iff_of_run`: when a run on the 64-bit clock is one with exact ages.
-/

namespace TacticalMicrogrid

open TransitionSystem

namespace SelectionSystem

variable {ι : Type}

/-- The microgrid with the time points of its devices seen as exact ones. -/
def exact (c : SelectionSystem Int64 ι) : SelectionSystem ExactTime ι where
  clock := c.clock
  participants := c.participants
  loopEnded := c.loopEnded
  announced := c.announced
  devices i := (c.devices i).exact
  heartbeats := c.heartbeats

variable [DecidableEq ι] {c c' : SelectionSystem Int64 ι} {l : Label ι} {tr : Trace Int64 ι}

/-- At a step, the handler of a device finds what it looks for among the controllers that were heard
from. -/
def FindsHeard (c : SelectionSystem Int64 ι) (l : Label ι) : Prop :=
  ∀ i, ∀ k ∈ l.ofDevice i, (c.devices i).selector.FindsHeard k.event.now k.event.input

instance [Fintype ι] (c : SelectionSystem Int64 ι) (l : Label ι) : Decidable (FindsHeard c l) :=
  inferInstanceAs (Decidable (∀ i, ∀ k ∈ l.ofDevice i, _))

theorem exact_afterDevice (c : SelectionSystem Int64 ι) (now : ℤ) (i : ι)
    (d : ControllerSelector.Config Int64) :
    (c.afterDevice now i d).exact = c.exact.afterDevice now i d.exact := by
  have hdevices : (fun j => (Function.update c.devices i d j).exact) =
      Function.update (fun j => (c.devices j).exact) i d.exact :=
    funext fun j => Function.apply_update (fun _ => ControllerSelector.Config.exact) ..
  simp only [exact, afterDevice, hdevices]

/-- A step is one with exact ages, if the step of its device, if any, is one. -/
theorem Step.exact (hstep : Step c l c') (hdevices : ∀ i k, l.ofDevice i = some k →
    ControllerSelector.Step (c.devices i).exact k (c'.devices i).exact) :
    Step c.exact l c'.exact := by
  cases hstep with
  | participant hclock hloop hstep => exact .participant hclock hloop hstep
  | endLoop hclock => exact .endLoop hclock
  | restart hclock => exact .restart hclock
  | lose hclock hf => exact .lose hclock hf
  | @learn now i di effects d hclock hdi hstep =>
    have hdevice := hdevices i _ (if_pos rfl)
    rw [devices_afterDevice_self] at hdevice
    rw [exact_afterDevice]
    exact .learn hclock hdi hdevice
  | @hear now i f effects d hclock hf hstep =>
    have hdevice := hdevices i _ (if_pos rfl)
    rw [devices_afterDevice_self] at hdevice
    rw [exact_afterDevice]
    exact .hear hclock hf hdevice
  | @timeout now i k effects d hclock hstep =>
    have hdevice := hdevices i _ (if_pos rfl)
    rw [devices_afterDevice_self] at hdevice
    rw [exact_afterDevice]
    exact .timeout hclock hdevice

/-- What a device does is seen with exact time points too. -/
theorem trace_exact (i : ι) : (device (τ := ExactTime) i).trace (tr.map (Transition.map exact)) =
    ((device i).trace tr).map (Transition.map ControllerSelector.Config.exact) :=
  Component.trace_map (f := exact) (g := ControllerSelector.Config.exact) (fun _ => rfl)
    (fun _ => rfl) tr

/-- When the readings are after the epoch and fit into 64 bits, so are those of a device. -/
theorem IsSelectionRun.deviceRun_inRange (h : IsSelectionRun tr c)
    (hepoch : ∀ t ∈ tr, 0 ≤ t.label.now) (hclock : c.clock < 2 ^ 63) (i : ι) :
    ControllerSelector.AfterEpoch ((device i).trace tr) ∧ (c.devices i).clock < 2 ^ 63 := by
  refine ⟨Component.forall_mem_trace fun t ht k hk => ?_,
    (h.consistent.reached i).trans_lt hclock⟩
  rw [Label.now_of_ofDevice hk]
  exact hepoch t ht

/-- A step in a run in which a device finds what it looks for among the controllers that were heard
from is one with exact ages. -/
theorem IsSelectionRun.deviceStep_exact (h : IsSelectionRun tr c)
    (hepoch : ∀ t ∈ tr, 0 ≤ t.label.now) (hclock : c.clock < 2 ^ 63)
    (hheard : ∀ t ∈ tr, FindsHeard t.source t.label)
    {t : Transition (SelectionSystem Int64 ι) (Label ι)} (ht : t ∈ tr) {i : ι}
    {k : ControllerSelector.Label} (hk : t.label.ofDevice i = some k) :
    ControllerSelector.Step (t.source.devices i).exact k (t.target.devices i).exact := by
  obtain ⟨hdevice, hreached⟩ := h.deviceRun_inRange hepoch hclock i
  have hfinds : ∀ u ∈ (device i).trace tr,
      u.source.selector.FindsHeard u.label.event.now u.label.event.input :=
    Component.forall_mem_trace fun u hu m hm => hheard u hu i m hm
  obtain ⟨_, _, _, hexact⟩ := (h.deviceRun i).exact hdevice hreached hfinds
  obtain ⟨-, -, hstep⟩ := hexact.of_mem (List.mem_map_of_mem (Component.mem_trace ht hk))
  exact hstep

/-- **A microgrid on the 64-bit clock.** A run of a microgrid whose readings are after the epoch and
fit into 64 bits is, with the same labels, a run with exact ages, if and only if all handlers of its
devices find what they look for among the controllers that were heard from. -/
theorem exact_iff_of_run (h : IsSelectionRun tr c) (hepoch : ∀ t ∈ tr, 0 ≤ t.label.now)
    (hclock : c.clock < 2 ^ 63) : IsSelectionRun (tr.map (Transition.map exact)) c.exact ↔
      ∀ t ∈ tr, FindsHeard t.source t.label := by
  constructor
  · intro hexact t ht i k hk
    obtain ⟨hdevice, hreached⟩ := h.deviceRun_inRange hepoch hclock i
    have hrun := hexact.deviceRun i
    rw [trace_exact] at hrun
    exact (h.deviceRun i).findsHeard_of_exact hdevice hreached hrun _ (Component.mem_trace ht hk)
  · intro hheard
    have hsteps : ∀ t ∈ tr, Step t.source.exact t.label t.target.exact := by
      intro t ht
      have hdevice := fun i k => h.deviceStep_exact hepoch hclock hheard ht (i := i) (k := k)
      obtain ⟨_, _, _, hrun⟩ := h
      obtain ⟨-, -, hstep⟩ := hrun.of_mem ht
      exact hstep.exact hdevice
    obtain ⟨deviceId, callbacks, clock, hrun⟩ := h
    exact ⟨deviceId, callbacks, clock, hrun.map hsteps⟩

/-- A device selects the controller that it hears, and knows a second one, with a worse ranking,
from its `DeviceInfo` only. -/
theorem exact_of_two : ∃ (tr : Trace Int64 Unit) (c : SelectionSystem Int64 Unit),
    IsSelectionRun tr c ∧ (c.devices ()).selector.NeverHeard "mc2" ∧
      (c.devices ()).selector.selected = "mc1" ∧
      IsSelectionRun (tr.map (Transition.map exact)) c.exact :=
  have hrun := isSelectionRun_of_follow (fun _ => "dev") {} 0
    (Label.joins 0 (ranked (fun _ => 1) "mc1") [()] ++
      Label.joins 0 (ranked (fun _ => 2) "mc2") [()] ++ Label.beats 0 "mc1" 0 [()] ++
      Label.beats (Sec 2) "mc1" 1 [()] ++ [⟨Sec 3, .timeout () .newController []⟩]) rfl
  ⟨_, _, hrun, by decide, by decide,
    (exact_iff_of_run hrun (by decide) (by decide)).mpr (by decide)⟩

end SelectionSystem

end TacticalMicrogrid
