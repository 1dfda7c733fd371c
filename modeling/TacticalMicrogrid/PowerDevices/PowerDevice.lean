import TacticalMicrogrid.Common.ControllerSelector

/-!
# A power device

`power_devices/PowerDevice.h`, `power_devices/PowerDevice.cpp` and the listener of
`power_devices/EnergyStartStopRequestDataReaderListenerImpl.cpp`: a power device selects a
microgrid controller with its `ControllerSelector` and is at an energy level, which the selected
controller sets. A write that fails is only logged, so the functions return what they write. The
connections between the devices are left out.

## Main definitions

* `PowerDevice`.
* `PowerDevice.gotDeviceInfo`, `PowerDevice.gotHeartbeat`, `PowerDevice.handle`.
* `PowerDevice.essrOnDataAvailable`: the requests of one batch.
* `PowerDevice.Accepts`: the requests the device obeys.

## Main results

* `PowerDevice.handle_eq`, `PowerDevice.handle_cases`: what the device hands to its selector.
* `PowerDevice.essrOnDataAvailable_eq`: the device obeys the first request of a batch that it
  accepts, and drops the others.
-/

namespace TacticalMicrogrid

/-- The state of a `PowerDevice`. -/
structure PowerDevice (τ : Type) where
  deviceId : Identity
  controllerSelector : ControllerSelector τ
  essl : EnergyStartStopLevel := .operational

namespace PowerDevice

variable {τ : Type} [TimePoint τ]

/-- The constructor of `PowerDevice`, with the callbacks that its user sets. -/
def new (deviceId : Identity) (callbacks : ControllerCallbacks) : PowerDevice τ where
  deviceId
  controllerSelector := { deviceId, callbacks }

/-- `PowerDevice::selected`. -/
def selected (d : PowerDevice τ) : Identity := d.controllerSelector.selected

/-- `PowerDevice::energy_level`, which sets the level. -/
def energyLevel (d : PowerDevice τ) (essl : EnergyStartStopLevel) : PowerDevice τ :=
  { d with essl }

/-- `PowerDevice::got_heartbeat`. -/
def gotHeartbeat (d : PowerDevice τ) (now : ℤ) (hb : Sample Heartbeat) :
    Except String (PowerDevice τ) :=
  if !hb.validData ∨ hb.data.deviceId = d.deviceId then return d
  else do
    let selector ← d.controllerSelector.gotHeartbeat now hb.data
    return { d with controllerSelector := selector }

/-- `PowerDevice::got_device_info`. -/
def gotDeviceInfo (d : PowerDevice τ) (di : Sample DeviceInfo) : PowerDevice τ :=
  if !di.validData ∨ di.data.deviceId = d.deviceId then d
  else { d with controllerSelector := d.controllerSelector.gotDeviceInfo di.data }

/-! ### Energy start and stop requests -/

/-- The reply to a request that the device obeys. -/
def okReply (d : PowerDevice τ) (essr : EnergyStartStopRequest) : Reply where
  requestingDeviceId := essr.requestId.requestingDeviceId
  targetDeviceId := d.deviceId
  config := essr.requestId.config
  portNumber := invalidPortNumber
  requestSequenceId := essr.sequenceId
  status := ⟨.ok, "OK"⟩

/-- `EnergyStartStopRequestDataReaderListenerImpl::on_data_available`, for the samples that it
takes, with the replies that it writes. -/
def essrOnDataAvailable (d : PowerDevice τ) :
    List (Sample EnergyStartStopRequest) → PowerDevice τ × List Reply
  | [] => (d, [])
  | s :: rest =>
    if s.validData then
      if s.data.requestId.requestingDeviceId ≠ d.selected then d.essrOnDataAvailable rest
      else if s.data.requestId.targetDeviceId = d.deviceId then
        -- The loop ends here, whatever is left of the batch.
        (d.energyLevel s.data.toLevel, [d.okReply s.data])
      else d.essrOnDataAvailable rest
    else d.essrOnDataAvailable rest

/-- The device obeys the request when it comes to it: the request is valid, from the selected
controller and to this device. -/
def Accepts (d : PowerDevice τ) (s : Sample EnergyStartStopRequest) : Prop :=
  s.validData = true ∧ s.data.requestId.requestingDeviceId = d.selected ∧
    s.data.requestId.targetDeviceId = d.deviceId

instance (d : PowerDevice τ) (s : Sample EnergyStartStopRequest) : Decidable (d.Accepts s) :=
  inferInstanceAs (Decidable (_ ∧ _ ∧ _))

/-- The first request of a batch that the device accepts. -/
def firstAccepted (d : PowerDevice τ) (data : List (Sample EnergyStartStopRequest)) :
    Option EnergyStartStopRequest :=
  (data.find? (d.Accepts ·)).map (·.data)

omit [TimePoint τ] in
/-- The device obeys the first request of a batch that it accepts, and drops the others. -/
theorem essrOnDataAvailable_eq (d : PowerDevice τ) (data : List (Sample EnergyStartStopRequest)) :
    d.essrOnDataAvailable data =
      match d.firstAccepted data with
      | some essr => (d.energyLevel essr.toLevel, [d.okReply essr])
      | none => (d, []) := by
  induction data with
  | nil => rfl
  | cons s rest ih =>
    rw [essrOnDataAvailable, firstAccepted]
    by_cases haccepts : d.Accepts s
    · obtain ⟨hvalid, hsender, htarget⟩ := id haccepts
      rw [if_pos hvalid, if_neg (not_not.mpr hsender), if_pos htarget,
        List.find?_cons_of_pos (by simpa using haccepts)]
      rfl
    · rw [List.find?_cons_of_neg (by simpa using haccepts), ih, firstAccepted]
      split_ifs with hvalid hsender htarget
      · rfl
      · exact absurd ⟨hvalid, not_not.mp hsender, htarget⟩ haccepts
      · rfl
      · rfl

omit [TimePoint τ] in
/-- The level after a batch is that of the first accepted request. -/
theorem essl_essrOnDataAvailable (d : PowerDevice τ)
    (data : List (Sample EnergyStartStopRequest)) :
    (d.essrOnDataAvailable data).1 =
      d.energyLevel (((d.firstAccepted data).map (·.toLevel)).getD d.essl) := by
  rw [essrOnDataAvailable_eq]
  cases d.firstAccepted data <;> rfl

omit [TimePoint τ] in
theorem controllerSelector_essrOnDataAvailable (d : PowerDevice τ)
    (data : List (Sample EnergyStartStopRequest)) :
    (d.essrOnDataAvailable data).1.controllerSelector = d.controllerSelector := by
  rw [essl_essrOnDataAvailable]
  rfl

/-! ### What reaches the selector -/

/-- What reaches a power device, other than requests: a message, or the timeout of a timer. -/
inductive Input
  | deviceInfo (di : Sample DeviceInfo)
  | heartbeat (hb : Sample Heartbeat)
  | timeout (k : TimerKind)
deriving DecidableEq

/-- What the device does for an input. -/
def handle (d : PowerDevice τ) (now : ℤ) : Input → Except String (PowerDevice τ × List Effect)
  | .deviceInfo di => return (d.gotDeviceInfo di, [])
  | .heartbeat hb => do
    let d ← d.gotHeartbeat now hb
    return (d, [])
  | .timeout k => do
    let (selector, effects) ← d.controllerSelector.handleTimeout now k
    return ({ d with controllerSelector := selector }, effects)

/-- The input as the selector sees it: the device filters out invalid samples and its own. -/
def toSelector (d : PowerDevice τ) : Input → Option ControllerSelector.Input
  | .deviceInfo di =>
    if !di.validData ∨ di.data.deviceId = d.deviceId then none else some (.deviceInfo di.data)
  | .heartbeat hb =>
    if !hb.validData ∨ hb.data.deviceId = d.deviceId then none else some (.heartbeat hb.data)
  | .timeout k => some (.timeout k)

/-- The device hands its selector what the filter lets through. -/
theorem handle_eq (d : PowerDevice τ) (now : ℤ) (i : Input) : d.handle now i =
    match d.toSelector i with
    | none => .ok (d, [])
    | some j => (d.controllerSelector.handle now j).map fun r =>
        ({ d with controllerSelector := r.1 }, r.2) := by
  cases i with
  | deviceInfo di =>
    rw [handle, gotDeviceInfo, toSelector]
    split_ifs <;> rfl
  | heartbeat hb =>
    rw [handle, gotHeartbeat, toSelector]
    split_ifs
    · rfl
    · simp only [ControllerSelector.handle]
      cases d.controllerSelector.gotHeartbeat now hb.data <;> rfl
  | timeout k =>
    simp only [handle, toSelector, ControllerSelector.handle]
    cases d.controllerSelector.handleTimeout now k <;> rfl

/-- A step of the device leaves the device as it is, or is a step of its selector. -/
theorem handle_cases {d d' : PowerDevice τ} {now : ℤ} {i : PowerDevice.Input}
    {effects : List Effect} (h : d.handle now i = .ok (d', effects)) :
    d.toSelector i = none ∧ d' = d ∨ ∃ j s', d.toSelector i = some j ∧
      d.controllerSelector.handle now j = .ok (s', effects) ∧
      d' = { d with controllerSelector := s' } := by
  rw [PowerDevice.handle_eq] at h
  cases hi : d.toSelector i with
  | none =>
    simp only [hi] at h
    exact Or.inl ⟨rfl, (Prod.mk.inj (Except.ok.inj h)).1.symm⟩
  | some j =>
    simp only [hi] at h
    cases hj : d.controllerSelector.handle now j with
    | error msg =>
      rw [hj] at h
      cases h
    | ok r =>
      rw [hj] at h
      obtain ⟨rfl, rfl⟩ := Prod.mk.inj (Except.ok.inj h)
      exact Or.inr ⟨j, r.1, rfl, hj, rfl⟩

end PowerDevice

end TacticalMicrogrid
