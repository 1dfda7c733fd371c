import TacticalMicrogrid.Controller.ActiveControllers
import TacticalMicrogrid.StartStop.CommandSystem

/-!
# The level a controller has recorded for its device

A request for the recorded level is dropped. That is right as long as a device that the controller
takes to be its own is at the recorded level, or will be when it gets to a command that is on its
way. The record is the level that the controller was last asked for, sent or not, and a guess before
that; nothing that the device says corrects it. So the two levels part in some runs, and the
conditions here say at which steps: by what the controller was asked for and what the device obeyed
before.

## Main definitions

* `CommandSystem.IsMaster`: the controller takes itself to be the master of the device.
* `CommandSystem.Served`: the device is at a level, or a command to that level is on its way.
* `CommandSystem.NeverSwallowed`: a request that is dropped is for a level that is served.
* `CommandSystem.askedLevel`, `CommandSystem.obeyedLevel`: the level that the controller was last
  asked for, and the one that the device last obeyed.
* `CommandSystem.KeepsServed`: the condition on a step.

## Main results

* `CommandSystem.never_swallowed_iff`: when no request is swallowed all along a run.
* `CommandSystem.start_swallowed`: a run that ends with a device that is off, and a request to start
  it that is dropped.
-/

namespace TacticalMicrogrid

open TransitionSystem

namespace CommandSystem

variable {τ : Type}

/-! ### Recorded levels -/

section Levels

variable (w : CommandSystem τ)

/-- What the controller has recorded for the device. -/
def recorded : Option PowerDeviceInfo := w.server.controller.powerDevices.find? w.device.deviceId

/-- The level that the controller has recorded for the device, or will record when it gets to know
it. -/
def recordedLevel : EnergyStartStopLevel := (w.recorded.map (·.essl)).getD .operational

/-- The controller takes itself to be the master of the device. -/
def IsMaster : Prop := w.recorded.bind (·.masterId) = some w.controllerId

instance : Decidable w.IsMaster := inferInstanceAs (Decidable (_ = _))

/-- The request is a command of this controller to the level, and the device obeys it when it comes
to it. -/
def Commands (l : EnergyStartStopLevel) (s : Sample EnergyStartStopRequest) : Prop :=
  w.device.Accepts s ∧ s.data.requestId.requestingDeviceId = w.controllerId ∧ s.data.toLevel = l

instance (l : EnergyStartStopLevel) (s : Sample EnergyStartStopRequest) :
    Decidable (w.Commands l s) :=
  inferInstanceAs (Decidable (_ ∧ _ ∧ _))

/-- The device is at the level, or a command to it is on its way. -/
def Served (l : EnergyStartStopLevel) : Prop :=
  w.device.essl = l ∨ ∃ s ∈ w.requests, w.Commands l s

instance (l : EnergyStartStopLevel) : Decidable (w.Served l) :=
  inferInstanceAs (Decidable (_ ∨ ∃ s ∈ w.requests, _))

/-- Whenever a request is dropped because it is for the recorded level, and the controller takes
itself to be the master of the device, the level is served. -/
def NeverSwallowed : Prop :=
  ∀ opt, w.server.Repeats w.device.deviceId opt → w.IsMaster → w.Served (CLIServer.esslFromOpt opt)

/-! ### What was asked for and what was obeyed -/

/-- The level for the device that a step asks the controller for. A command that cannot be written
does not count. -/
def asked : Action → Option EnergyStartStopLevel
  | .startStop pdId opt writeOk =>
    if pdId = w.device.deviceId ∧ w.recorded ≠ none ∧ CLIServer.esslFromOpt opt ≠ .unknown ∧
        (w.IsMaster → writeOk = true) then
      some (CLIServer.esslFromOpt opt)
    else none
  | .device _ _ | .deviceInfo _ | .activeControllers _ | .otherRequest _ | .requests _
  | .replies _ => none

/-- The level of the request that the device obeys in a step. -/
def obeyed : Action → Option EnergyStartStopLevel
  | .requests n => (w.device.firstAccepted (w.requests.take n)).map (·.toLevel)
  | .device _ _ | .deviceInfo _ | .activeControllers _ | .startStop _ _ _ | .otherRequest _
  | .replies _ => none

/-- The level that the controller was last asked for; `ESSL_OPERATIONAL` at first. -/
def askedLevel (tr : Trace τ) : EnergyStartStopLevel :=
  (tr.filterMap fun t => t.source.asked t.label).getLastD .operational

/-- The level of the request that the device last obeyed; `ESSL_OPERATIONAL` at first. -/
def obeyedLevel (tr : Trace τ) : EnergyStartStopLevel :=
  (tr.filterMap fun t => t.source.obeyed t.label).getLastD .operational

variable [TimePoint τ]

/-- The condition on a step, by the level that the controller was last asked for and the one that
the device last obeyed. The device does not give the controller up while these differ, if the
controller takes itself to be the master. The controller becomes the master only if they are the
same, or a command to the former is on its way. It commands another level only while the device has
it selected or is there already. And if the first request that the device accepts among those it
takes is to another level than the master was asked for, a command to that level comes behind. -/
def KeepsServed (asked obeyed : EnergyStartStopLevel) : Action → Prop
  | .device now i => w.device.selected = w.controllerId →
      (∃ j ∈ w.device.toSelector i,
        w.device.controllerSelector.selectedAfter now j ≠ w.controllerId) →
      w.IsMaster → obeyed = asked
  | .activeControllers n =>
      Controller.lastMaster (w.states.take n) w.device.deviceId = some w.controllerId →
        w.recorded ≠ none → ¬w.IsMaster → obeyed = asked ∨ ∃ s ∈ w.requests, w.Commands asked s
  | .startStop pdId opt writeOk => pdId = w.device.deviceId → writeOk = true →
      CLIServer.esslFromOpt opt ≠ .unknown → w.IsMaster → asked ≠ CLIServer.esslFromOpt opt →
        w.device.selected = w.controllerId ∨ obeyed = CLIServer.esslFromOpt opt
  | .requests n => w.IsMaster → ∀ essr ∈ w.device.firstAccepted (w.requests.take n),
      essr.toLevel ≠ asked → ∃ s ∈ w.requests.drop n, w.Commands asked s
  | .deviceInfo _ | .otherRequest _ | .replies _ => True

instance (asked obeyed : EnergyStartStopLevel) :
    (a : Action) → Decidable (w.KeepsServed asked obeyed a)
  | .device now i => inferInstanceAs (Decidable (_ → (∃ j ∈ w.device.toSelector i,
      w.device.controllerSelector.selectedAfter now j ≠ w.controllerId) → _ → _))
  | .activeControllers _ =>
    inferInstanceAs (Decidable (_ → _ → _ → _ ∨ ∃ s ∈ w.requests, w.Commands asked s))
  | .startStop _ _ _ => inferInstanceAs (Decidable (_ → _ → _ → _ → _ → _ ∨ _))
  | .requests n => inferInstanceAs (Decidable (_ → ∀ essr ∈ w.device.firstAccepted _,
      essr.toLevel ≠ asked → ∃ s ∈ w.requests.drop n, w.Commands asked s))
  | .deviceInfo _ | .otherRequest _ | .replies _ => isTrue trivial

end Levels

variable [TimePoint τ]

/-! ### The levels that are recorded -/

/-- Every recorded level can be requested. -/
def Requestable (c : Controller) : Prop :=
  ∀ d, ∀ pd ∈ c.powerDevices.find? d,
    ∃ opt, CLIServer.esslFromOpt opt = pd.essl ∧ pd.essl ≠ .unknown

section Requestable

variable {c : Controller}

theorem Requestable.deviceInfoCb (h : Requestable c) (s : Sample DeviceInfo) :
    Requestable (c.deviceInfoCb s) := by
  rw [Controller.deviceInfoCb]
  split_ifs
  · exact h
  · intro d pd hpd
    rw [Option.mem_def, Table.find?_insertNew] at hpd
    split_ifs at hpd with hd
    · obtain rfl := Option.some.inj hpd
      cases hknown : c.powerDevices.find? s.data.deviceId with
      | none => exact ⟨.alwaysOperate, rfl, by simp⟩
      | some pd => exact h _ pd hknown
    · exact h d pd hpd
  · exact h

theorem Requestable.modify (h : Requestable c) (pdId : Identity)
    (f : PowerDeviceInfo → PowerDeviceInfo) (hf : ∀ pd, (∃ opt, CLIServer.esslFromOpt opt =
      pd.essl ∧ pd.essl ≠ .unknown) → ∃ opt, CLIServer.esslFromOpt opt = (f pd).essl ∧
        (f pd).essl ≠ .unknown) :
    Requestable { c with powerDevices := c.powerDevices.modify pdId f } := by
  intro d pd hpd
  rw [Option.mem_def, Table.find?_modify] at hpd
  split_ifs at hpd with hd
  · obtain ⟨pd', hpd', rfl⟩ := Option.map_eq_some_iff.mp hpd
    exact hf pd' (h _ pd' hpd')
  · exact h d pd hpd

theorem Requestable.amcsOnDataAvailable (h : Requestable c)
    (data : List (Sample ActiveMicrogridControllerState)) :
    Requestable (c.amcsOnDataAvailable data) := by
  induction data generalizing c with
  | nil => exact h
  | cons s data ih =>
    refine ih ?_
    rw [Controller.gotActiveController]
    split_ifs
    · exact h.modify _ _ fun _ hpd => hpd
    · exact h

end Requestable

/-- Every level that a run records can be requested. -/
theorem IsCommandRun.requestable {tr : Trace τ} {w : CommandSystem τ} (h : IsCommandRun tr w) :
    Requestable w.server.controller := by
  obtain ⟨controllerId, deviceId, callbacks, clock, hrun⟩ := h
  refine hrun.invariant (P := fun w => Requestable w.server.controller)
    (fun d pd hpd => by simp [init] at hpd) ?_
  rintro w a w' hw ⟨-, happly⟩
  cases a with
  | device now i =>
    obtain ⟨d', effects, -, rfl⟩ := apply_device happly
    exact hw
  | startStop pdId opt writeOk =>
    obtain rfl := Except.ok.inj happly
    change Requestable (w.server.startStopDevice pdId opt writeOk).1.controller
    rcases w.server.startStopDevice_cases pdId opt writeOk with
      ⟨-, h⟩ | ⟨pd, -, hto, -, ⟨-, h⟩ | ⟨-, -, h⟩ | ⟨-, -, h⟩⟩
    · rwa [h]
    · rw [h]
      exact hw.modify _ _ fun _ _ => ⟨opt, rfl, hto⟩
    · rw [h]
      exact hw.modify _ _ fun _ _ => ⟨opt, rfl, hto⟩
    · rwa [h]
  | deviceInfo di =>
    obtain rfl := Except.ok.inj happly
    exact hw.deviceInfoCb di
  | activeControllers n =>
    obtain rfl := Except.ok.inj happly
    exact hw.amcsOnDataAvailable _
  | otherRequest | requests =>
    obtain rfl := Except.ok.inj happly
    exact hw
  | replies n =>
    obtain rfl := Except.ok.inj happly
    rwa [CLIServer.controller_replyOnDataAvailable]

/-! ### Records and levels -/

section Levels

variable {w w' : CommandSystem τ} {l : EnergyStartStopLevel} {tr : Trace τ}

omit [TimePoint τ] in
theorem recordedLevel_of_recorded {pd : PowerDeviceInfo} (h : w.recorded = some pd) :
    w.recordedLevel = pd.essl := by
  rw [recordedLevel, h]
  rfl

omit [TimePoint τ] in
theorem exists_of_isMaster (h : w.IsMaster) : ∃ pd, w.recorded = some pd ∧
    pd.masterId = some w.controllerId :=
  Option.bind_eq_some_iff.mp h

omit [TimePoint τ] in
/-- A request that is recorded: the record of the device it is for has the new level, all others
are as before. -/
theorem recorded_updateEssl {pdId : Identity} {toEssl : EnergyStartStopLevel}
    (hserver : w'.server.controller = w.server.controller.updateEssl pdId toEssl)
    (hdevice : w'.device = w.device) : w'.recorded =
      if w.device.deviceId = pdId then w.recorded.map ({ · with essl := toEssl })
      else w.recorded := by
  rw [recorded, hserver, hdevice, Controller.updateEssl, Table.find?_modify]
  split_ifs with hd
  · rw [recorded, hd]
  · rfl

omit [TimePoint τ] in
/-- A request that is recorded names no other master. -/
theorem isMaster_updateEssl_iff {pdId : Identity} {toEssl : EnergyStartStopLevel}
    (hserver : w'.server.controller = w.server.controller.updateEssl pdId toEssl)
    (hdevice : w'.device = w.device) : w'.IsMaster ↔ w.IsMaster := by
  have hid : w'.controllerId = w.controllerId := by
    rw [controllerId, hserver]
    rfl
  rw [IsMaster, IsMaster, recorded_updateEssl hserver hdevice, hid]
  split_ifs
  · cases w.recorded <;> rfl
  · rfl

omit [TimePoint τ] in
/-- A request that the controller records, and need not write or has written, is one for the device
that it is for. -/
theorem recordedLevel_updateEssl {pdId : Identity} {opt : OperatorPriorityType} {writeOk : Bool}
    {pd : PowerDeviceInfo}
    (hserver : w'.server.controller =
      w.server.controller.updateEssl pdId (CLIServer.esslFromOpt opt))
    (hdevice : w'.device = w.device) (hpd : w.server.controller.powerDevices.find? pdId = some pd)
    (hto : CLIServer.esslFromOpt opt ≠ .unknown)
    (hwrite : pd.masterId = some w.controllerId → writeOk = true) :
    w'.recordedLevel = (w.asked (.startStop pdId opt writeOk)).getD w.recordedLevel := by
  rw [recordedLevel, recorded_updateEssl hserver hdevice, asked]
  by_cases hd : w.device.deviceId = pdId
  · have hrecorded : w.recorded = some pd := by rwa [recorded, hd]
    rw [if_pos hd, if_pos, hrecorded]
    · rfl
    · refine ⟨hd.symm, by rw [hrecorded]; exact Option.some_ne_none pd, hto, fun hself => ?_⟩
      rw [IsMaster, hrecorded] at hself
      exact hwrite hself
  · rw [if_neg hd, if_neg fun hasked => hd hasked.1.symm]
    rfl

omit [TimePoint τ] in
/-- The controller records the level that it is asked for. -/
theorem recordedLevel_startStop {pdId : Identity} {opt : OperatorPriorityType} {writeOk : Bool}
    (hserver : w'.server = (w.server.startStopDevice pdId opt writeOk).1)
    (hdevice : w'.device = w.device) :
    w'.recordedLevel = (w.asked (.startStop pdId opt writeOk)).getD w.recordedLevel := by
  have hsame : w'.server.controller = w.server.controller → w'.recordedLevel = w.recordedLevel := by
    intro h
    rw [recordedLevel, recorded, h, hdevice]
    rfl
  rcases w.server.startStopDevice_cases pdId opt writeOk with
    ⟨hdropped, h⟩ | ⟨pd, hpd, hto, hne, ⟨hmaster, h⟩ | ⟨hmaster, hok, h⟩ | ⟨hmaster, hok, h⟩⟩ <;>
    rw [h] at hserver
  · rw [hsame (congrArg _ hserver), asked]
    split_ifs with hasked
    · obtain ⟨rfl, hknown, hto, -⟩ := hasked
      rcases hdropped with hunknown | hnot | ⟨-, hrepeats⟩
      · exact absurd hunknown hknown
      · exact absurd hnot hto
      · exact congrArg (·.getD .operational) hrepeats
    · rfl
  · exact recordedLevel_updateEssl (by rw [hserver]) hdevice hpd hto fun hself =>
      absurd hself hmaster
  · exact recordedLevel_updateEssl (by rw [hserver]) hdevice hpd hto fun _ => hok
  · rw [hsame (by rw [hserver]), asked, if_neg]
    · rfl
    · rintro ⟨rfl, -, -, hwrite⟩
      have hrecorded : w.recorded = some pd := hpd
      have hself : w.IsMaster := by
        rw [IsMaster, hrecorded]
        exact hmaster
      rw [hwrite hself] at hok
      cases hok

omit [TimePoint τ] in
/-- A `DeviceInfo` that enters the device records the level that is expected of it. -/
theorem recordedLevel_deviceInfo {di : Sample DeviceInfo}
    (hserver : w'.server.controller = w.server.controller.deviceInfoCb di)
    (hdevice : w'.device = w.device) : w'.recordedLevel = w.recordedLevel := by
  rw [recordedLevel, recordedLevel, recorded, recorded, hserver, hdevice, Controller.deviceInfoCb]
  split_ifs
  · rfl
  · rw [Table.find?_insertNew]
    split_ifs with hd
    · rw [hd]
      cases w.server.controller.powerDevices.find? di.data.deviceId <;> rfl
    · rfl
  · rfl

omit [TimePoint τ] in
/-- States change the master only. -/
theorem recordedLevel_activeControllers {n : ℕ}
    (hserver : w'.server.controller = w.server.controller.amcsOnDataAvailable (w.states.take n))
    (hdevice : w'.device = w.device) : w'.recordedLevel = w.recordedLevel := by
  rw [recordedLevel, recordedLevel, recorded, recorded, hserver, hdevice,
    Controller.find?_amcsOnDataAvailable]
  cases w.server.controller.powerDevices.find? w.device.deviceId with
  | none => rfl
  | some pd =>
    rw [Option.map_some]
    split_ifs <;> rfl

/-- The record and the level of the device after a step. -/
theorem levels_step {a : Action} (hstep : Step w a w') :
    w'.recordedLevel = (w.asked a).getD w.recordedLevel ∧
      w'.device.essl = (w.obeyed a).getD w.device.essl := by
  cases a with
  | device now i =>
    obtain ⟨d', effects, hhandle, rfl⟩ := apply_device hstep.2
    rcases PowerDevice.handle_cases hhandle with ⟨-, rfl⟩ | ⟨j, s', -, -, rfl⟩ <;> exact ⟨rfl, rfl⟩
  | deviceInfo di =>
    obtain rfl := Except.ok.inj hstep.2
    exact ⟨recordedLevel_deviceInfo rfl rfl, rfl⟩
  | activeControllers n =>
    obtain rfl := Except.ok.inj hstep.2
    exact ⟨recordedLevel_activeControllers rfl rfl, rfl⟩
  | startStop pdId opt writeOk =>
    obtain rfl := Except.ok.inj hstep.2
    exact ⟨recordedLevel_startStop rfl rfl, rfl⟩
  | otherRequest essr =>
    obtain rfl := Except.ok.inj hstep.2
    exact ⟨rfl, rfl⟩
  | requests n =>
    obtain rfl := Except.ok.inj hstep.2
    have hdevice := w.device.essl_essrOnDataAvailable (w.requests.take n)
    refine ⟨?_, congrArg PowerDevice.essl hdevice⟩
    exact congrArg (fun d : PowerDevice τ => ((w.server.controller.powerDevices.find?
      d.deviceId).map (·.essl)).getD .operational) hdevice
  | replies n =>
    obtain rfl := Except.ok.inj hstep.2
    have hcontroller := w.server.controller_replyOnDataAvailable (w.replies.take n)
    refine ⟨?_, rfl⟩
    exact congrArg (fun c : Controller => ((c.powerDevices.find? w.device.deviceId).map
      (·.essl)).getD .operational) hcontroller

omit [TimePoint τ] in
theorem askedLevel_snoc (t : Transition (CommandSystem τ) Action) :
    askedLevel (tr ++ [t]) = (t.source.asked t.label).getD (askedLevel tr) := by
  rw [askedLevel, List.filterMap_append]
  cases h : t.source.asked t.label <;> simp [h, askedLevel]

omit [TimePoint τ] in
theorem obeyedLevel_snoc (t : Transition (CommandSystem τ) Action) :
    obeyedLevel (tr ++ [t]) = (t.source.obeyed t.label).getD (obeyedLevel tr) := by
  rw [obeyedLevel, List.filterMap_append]
  cases h : t.source.obeyed t.label <;> simp [h, obeyedLevel]

/-- The record is the level that the controller was last asked for, and the device is at the level
that it last obeyed. -/
theorem IsCommandRun.levels (h : IsCommandRun tr w) :
    w.recordedLevel = askedLevel tr ∧ w.device.essl = obeyedLevel tr := by
  obtain ⟨controllerId, deviceId, callbacks, clock, hrun⟩ := h
  refine hrun.traceInvariant
    (P := fun tr w => w.recordedLevel = askedLevel tr ∧ w.device.essl = obeyedLevel tr)
    ⟨rfl, rfl⟩ ?_
  intro tr w a w' _ hw hstep
  obtain ⟨hrecorded, hessl⟩ := levels_step hstep
  rw [askedLevel_snoc, obeyedLevel_snoc, hrecorded, hessl, hw.1, hw.2]
  exact ⟨rfl, rfl⟩

end Levels

/-! ### Steps -/

section Steps

variable {w w' : CommandSystem τ} {l : EnergyStartStopLevel}

omit [TimePoint τ] in
/-- If every recorded level can be requested, no request is swallowed exactly if the recorded level
is served. -/
theorem neverSwallowed_iff (h : Requestable w.server.controller) :
    w.NeverSwallowed ↔ (w.IsMaster → w.Served w.recordedLevel) := by
  constructor
  · intro hnever hmaster
    obtain ⟨pd, hpd, -⟩ := exists_of_isMaster hmaster
    obtain ⟨opt, hopt, hne⟩ := h _ pd hpd
    rw [recordedLevel_of_recorded hpd, ← hopt]
    refine hnever opt ⟨hopt ▸ hne, ?_⟩ hmaster
    exact Option.map_eq_some_iff.mpr ⟨pd, hpd, hopt.symm⟩
  · rintro hserved opt ⟨-, hrepeats⟩ hmaster
    obtain ⟨pd, hpd, hessl⟩ := Option.map_eq_some_iff.mp hrepeats
    rw [← hessl, ← recordedLevel_of_recorded hpd]
    exact hserved hmaster

omit [TimePoint τ] in
/-- A device that has selected another controller obeys no command. -/
theorem served_iff_of_selected_ne (h : w.device.selected ≠ w.controllerId) :
    w.Served l ↔ w.device.essl = l := by
  refine or_iff_left ?_
  rintro ⟨s, -, ⟨-, hsender, -⟩, hself, -⟩
  exact h (hsender.symm.trans hself)

omit [TimePoint τ] in
/-- What is served depends on the ids, the level, the selection and the requests. -/
theorem Served.congr (h : w.Served l) (hid : w'.controllerId = w.controllerId)
    (hdevice : w'.device.deviceId = w.device.deviceId) (hessl : w'.device.essl = w.device.essl)
    (hselected : w'.device.selected = w.device.selected)
    (hrequests : ∀ s ∈ w.requests, s ∈ w'.requests) : w'.Served l := by
  rcases h with hlevel | ⟨s, hs, ⟨hvalid, hsender, htarget⟩, hself, hto⟩
  · exact Or.inl (hessl.trans hlevel)
  · exact Or.inr ⟨s, hrequests s hs, ⟨hvalid, hsender.trans hselected.symm,
      htarget.trans hdevice.symm⟩, hself.trans hid.symm, hto⟩

/-- The device: giving the controller up is right exactly if the device is at the recorded level. -/
theorem served_device {tr : Trace τ} {now : ℤ} {i : PowerDevice.Input} (h : IsCommandRun tr w)
    (hw : w.IsMaster → w.Served w.recordedLevel) (hstep : Step w (.device now i) w') :
    (w'.IsMaster → w'.Served w'.recordedLevel) ↔
      w.KeepsServed w.recordedLevel w.device.essl (.device now i) := by
  obtain ⟨⟨hnow, hadm⟩, happly⟩ := hstep
  obtain ⟨d', effects, hhandle, rfl⟩ := apply_device happly
  rcases PowerDevice.handle_cases hhandle with ⟨hi, rfl⟩ | ⟨j, s', hj, hok, rfl⟩
  · refine iff_of_true hw ?_
    rintro - ⟨j, hj, -⟩
    rw [hi] at hj
    cases hj
  · obtain ⟨str, last, hlast, hsel⟩ := h.selectorRun
    have hselected : s'.selected = w.device.controllerSelector.selectedAfter now j :=
      (ControllerSelector.Outcome.of_handle hsel.wellFormed (hadm j hj) hok).selected_eq
        hsel.wellFormed
    have hloses : (∃ j ∈ w.device.toSelector i,
        w.device.controllerSelector.selectedAfter now j ≠ w.controllerId) ↔
          s'.selected ≠ w.controllerId := by
      simp only [hj, Option.mem_def, Option.some.injEq, exists_eq_left', hselected]
    rw [KeepsServed, hloses]
    by_cases hself : w.device.selected = w.controllerId
    · by_cases hkept : s'.selected = w.controllerId
      · refine iff_of_true (fun hmaster => ?_) fun _ hne => absurd hkept hne
        exact (hw hmaster).congr rfl rfl rfl (hkept.trans hself.symm) fun _ => id
      · have hserved : ∀ l, Served { w with
            device := { w.device with controllerSelector := s' }
            clock := now
            states := w.states ++ written effects } l ↔ w.device.essl = l := fun l =>
          served_iff_of_selected_ne hkept
        constructor
        · exact fun h _ _ hmaster => (hserved _).mp (h hmaster)
        · exact fun hkeeps hmaster => (hserved _).mpr (hkeeps hself hkept hmaster)
    · refine iff_of_true (fun hmaster => Or.inl ?_) fun h => absurd h hself
      exact (served_iff_of_selected_ne hself).mp (hw hmaster)

/-- A `DeviceInfo` makes nobody the master of the device. -/
theorem served_deviceInfo {di : Sample DeviceInfo} (hw : w.IsMaster → w.Served w.recordedLevel)
    (hstep : Step w (.deviceInfo di) w') : w'.IsMaster → w'.Served w'.recordedLevel := by
  have hlevel := (levels_step hstep).1
  obtain rfl := Except.ok.inj hstep.2
  have hid : (w.server.controller.deviceInfoCb di).deviceId = w.controllerId :=
    Controller.deviceId_deviceInfoCb _ _
  intro hmaster
  rw [hlevel]
  refine (hw ?_).congr hid rfl rfl rfl fun _ => id
  change ((w.server.controller.deviceInfoCb di).powerDevices.find? w.device.deviceId).bind
    (·.masterId) = some (w.server.controller.deviceInfoCb di).deviceId at hmaster
  rw [hid, Controller.deviceInfoCb] at hmaster
  rw [IsMaster, recorded]
  split_ifs at hmaster with hignored hrole
  · exact hmaster
  · rw [Table.find?_insertNew] at hmaster
    split_ifs at hmaster with hd
    · rw [hd]
      cases hknown : w.server.controller.powerDevices.find? di.data.deviceId with
      | some pd => rwa [hknown] at hmaster
      | none =>
        rw [hknown] at hmaster
        cases hmaster
    · exact hmaster
  · exact hmaster

/-- A batch of states: a controller that becomes the master has to serve its record. -/
theorem served_activeControllers {n : ℕ} (hw : w.IsMaster → w.Served w.recordedLevel)
    (hstep : Step w (.activeControllers n) w') :
    (w'.IsMaster → w'.Served w'.recordedLevel) ↔
      w.KeepsServed w.recordedLevel w.device.essl (.activeControllers n) := by
  have hlevel := (levels_step hstep).1
  obtain rfl := Except.ok.inj hstep.2
  have hid : (w.server.controller.amcsOnDataAvailable (w.states.take n)).deviceId =
      w.controllerId := Controller.deviceId_amcsOnDataAvailable _ _
  have hrecorded := Controller.find?_amcsOnDataAvailable w.server.controller w.device.deviceId
    (w.states.take n)
  constructor
  · intro hserved hlast hknown _
    obtain ⟨pd, hpd⟩ := Option.ne_none_iff_exists'.mp hknown
    have hnamed := Controller.exists_of_lastMaster hlast
    refine (hlevel ▸ hserved ?_).congr hid.symm rfl rfl rfl fun _ => id
    change ((w.server.controller.amcsOnDataAvailable (w.states.take n)).powerDevices.find?
      w.device.deviceId).bind (·.masterId) = some _
    rw [hrecorded, show w.server.controller.powerDevices.find? w.device.deviceId = some pd from hpd,
      Option.map_some, if_pos hnamed, Option.bind_some, hlast]
    exact congrArg some hid.symm
  · intro hkeeps hmaster
    rw [hlevel]
    suffices hserved : w.Served w.recordedLevel from
      hserved.congr hid rfl rfl rfl fun _ => id
    obtain ⟨pd', hpd', hmaster⟩ := exists_of_isMaster hmaster
    obtain ⟨pd, hpd, rfl⟩ := Option.map_eq_some_iff.mp (hrecorded.symm.trans hpd')
    have hknown : w.recorded = some pd := hpd
    by_cases hself : w.IsMaster
    · exact hw hself
    · have hmaster := hmaster.trans (congrArg some hid)
      split_ifs at hmaster with hnamed
      · exact hkeeps hmaster (hknown ▸ Option.some_ne_none pd) hself
      · exact absurd (Option.bind_eq_some_iff.mpr ⟨pd, hknown, hmaster⟩) hself

/-- A command is served if the device has selected the controller when it is sent, or is at its
level. -/
theorem served_sent {pdId : Identity} {opt : OperatorPriorityType} {writeOk : Bool}
    {pd : PowerDeviceInfo} {server : CLIServer} (hw : w.IsMaster → w.Served w.recordedLevel)
    (hpd : w.server.controller.powerDevices.find? pdId = some pd)
    (hto : CLIServer.esslFromOpt opt ≠ .unknown) (hne : pd.essl ≠ CLIServer.esslFromOpt opt)
    (hmaster : pd.masterId = some w.server.controller.deviceId) (hok : writeOk = true)
    (hserver : server.controller =
      w.server.controller.updateEssl pdId (CLIServer.esslFromOpt opt))
    (hw' : w' = { w with
      server
      requests := w.requests ++ [⟨w.server.essrTo pdId (CLIServer.esslFromOpt opt), true⟩] }) :
    (w'.IsMaster → w'.Served w'.recordedLevel) ↔
      w.KeepsServed w.recordedLevel w.device.essl (.startStop pdId opt writeOk) := by
  have hid : w'.controllerId = w.controllerId := by
    rw [hw', controllerId, hserver]
    rfl
  have hcontroller : w'.server.controller =
      w.server.controller.updateEssl pdId (CLIServer.esslFromOpt opt) := by rw [hw', hserver]
  have hdevice : w'.device = w.device := by rw [hw']
  have hrecorded := recorded_updateEssl hcontroller hdevice
  rw [isMaster_updateEssl_iff hcontroller hdevice]
  by_cases hd : w.device.deviceId = pdId
  · have hknown : w.recorded = some pd := by rwa [recorded, hd]
    have hself : w.IsMaster := Option.bind_eq_some_iff.mpr ⟨pd, hknown, hmaster⟩
    have hlevel : w'.recordedLevel = CLIServer.esslFromOpt opt := by
      rw [if_pos hd, hknown] at hrecorded
      exact recordedLevel_of_recorded hrecorded
    rw [hlevel]
    constructor
    · intro hserved _ _ _ _ _
      subst hw'
      rcases hserved hself with hlevel | ⟨s, -, ⟨-, hsender, -⟩, hfrom, -⟩
      · exact Or.inr hlevel
      · exact Or.inl (hsender.symm.trans (hfrom.trans hid))
    · intro hkeeps _
      have hdiffers : w.recordedLevel ≠ CLIServer.esslFromOpt opt := by
        rwa [recordedLevel_of_recorded hknown]
      subst hw'
      rcases hkeeps hd.symm hok hto hself hdiffers with hselected | hlevel
      · exact Or.inr ⟨⟨w.server.essrTo pdId (CLIServer.esslFromOpt opt), true⟩,
          List.mem_append_right _ List.mem_cons_self, ⟨rfl, hselected.symm, hd.symm⟩, hid.symm, rfl⟩
      · exact Or.inl hlevel
  · have hlevel : w'.recordedLevel = w.recordedLevel := by
      rw [recordedLevel, hrecorded, if_neg hd]
      rfl
    refine iff_of_true (fun hself => ?_) fun heq => absurd heq.symm hd
    rw [hlevel]
    subst hw'
    exact (hw hself).congr hid rfl rfl rfl fun s hs => List.mem_append_left _ hs

/-- What a request of the operator does to the commands. -/
theorem served_startStop {pdId : Identity} {opt : OperatorPriorityType} {writeOk : Bool}
    (hw : w.IsMaster → w.Served w.recordedLevel) (hstep : Step w (.startStop pdId opt writeOk) w') :
    (w'.IsMaster → w'.Served w'.recordedLevel) ↔
      w.KeepsServed w.recordedLevel w.device.essl (.startStop pdId opt writeOk) := by
  have happly := hstep.2
  rw [apply] at happly
  rcases w.server.startStopDevice_cases pdId opt writeOk with
    ⟨hdropped, h⟩ | ⟨pd, hpd, hto, hne, ⟨hmaster, h⟩ | ⟨hmaster, hok, h⟩ | ⟨hmaster, hok, h⟩⟩
  · rw [h] at happly
    obtain rfl := Except.ok.inj happly
    refine iff_of_true (fun hself => (hw hself).congr rfl rfl rfl rfl fun s hs =>
      List.mem_append_left _ hs) ?_
    rintro rfl - hto hself hne
    rcases hdropped with hunknown | hnot | ⟨-, hrepeats⟩
    · obtain ⟨pd, hpd, -⟩ := exists_of_isMaster hself
      cases hunknown.symm.trans hpd
    · exact absurd hnot hto
    · exact absurd (congrArg (·.getD .operational) hrepeats) hne
  · rw [h] at happly
    have hw' := Except.ok.inj happly
    have hcontroller : w'.server.controller =
        w.server.controller.updateEssl pdId (CLIServer.esslFromOpt opt) := by rw [← hw']
    have hdevice : w'.device = w.device := by rw [← hw']
    have hnotMaster : pdId = w.device.deviceId → ¬w.IsMaster := by
      rintro rfl hself
      obtain ⟨pd', hpd', hmaster'⟩ := exists_of_isMaster hself
      obtain rfl := Option.some.inj (hpd.symm.trans hpd')
      exact hmaster hmaster'
    rw [isMaster_updateEssl_iff hcontroller hdevice]
    refine iff_of_true (fun hself => ?_) fun hd _ _ hself => absurd hself (hnotMaster hd)
    have hlevel : w'.recordedLevel = w.recordedLevel := by
      rw [recordedLevel, recorded_updateEssl hcontroller hdevice,
        if_neg fun hd => hnotMaster hd.symm hself]
      rfl
    rw [hlevel]
    subst hw'
    exact (hw hself).congr rfl rfl rfl rfl fun s hs => List.mem_append_left _ hs
  · rw [h] at happly
    obtain rfl := Except.ok.inj happly
    exact served_sent hw hpd hto hne hmaster hok rfl rfl
  · rw [h] at happly
    obtain rfl := Except.ok.inj happly
    refine iff_of_true (fun hself => (hw hself).congr rfl rfl rfl rfl fun s hs =>
      List.mem_append_left _ hs) ?_
    rintro - htrue
    rw [hok] at htrue
    cases htrue

/-- The request of another controller is no command of this one. -/
theorem served_otherRequest {essr : Sample EnergyStartStopRequest}
    (hw : w.IsMaster → w.Served w.recordedLevel) (hstep : Step w (.otherRequest essr) w') :
    w'.IsMaster → w'.Served w'.recordedLevel := by
  obtain rfl := Except.ok.inj hstep.2
  exact fun hself => (hw hself).congr rfl rfl rfl rfl fun s hs => List.mem_append_left _ hs

/-- A batch of requests: a first one to another level is right exactly if a command to the recorded
level is behind the batch. If the device accepts none, a command that was on its way still is. -/
theorem served_requests {n : ℕ} (hw : w.IsMaster → w.Served w.recordedLevel)
    (hstep : Step w (.requests n) w') : (w'.IsMaster → w'.Served w'.recordedLevel) ↔
      w.KeepsServed w.recordedLevel w.device.essl (.requests n) := by
  have happly := hstep.2
  rw [apply] at happly
  have hdevice := w.device.essl_essrOnDataAvailable (w.requests.take n)
  cases hbatch : w.device.essrOnDataAvailable (w.requests.take n) with
  | mk d' replies =>
    rw [hbatch] at hdevice happly
    obtain rfl : d' = _ := hdevice
    obtain rfl := Except.ok.inj happly
    refine forall_congr' fun hself => ?_
    change ((w.device.firstAccepted (w.requests.take n)).map (·.toLevel)).getD w.device.essl =
      w.recordedLevel ∨ (∃ s ∈ w.requests.drop n, w.Commands w.recordedLevel s) ↔ _
    cases hfirst : w.device.firstAccepted (w.requests.take n) with
    | some essr =>
      simp only [Option.map_some, Option.getD_some, Option.mem_def, Option.some.injEq,
        forall_eq', or_iff_not_imp_left, ne_eq]
    | none =>
      refine iff_of_true ?_ fun essr hessr => by cases hessr
      rcases hw hself with hlevel | ⟨s, hs, haccepts, hcommands⟩
      · exact Or.inl hlevel
      · refine Or.inr ⟨s, ?_, haccepts, hcommands⟩
        rw [← List.take_append_drop n w.requests, List.mem_append] at hs
        refine hs.resolve_left fun htaken => ?_
        rw [PowerDevice.firstAccepted, Option.map_eq_none_iff, List.find?_eq_none] at hfirst
        exact hfirst s htaken (decide_eq_true haccepts)

/-- A reply changes neither the record nor the device. -/
theorem served_replies {n : ℕ} (hw : w.IsMaster → w.Served w.recordedLevel)
    (hstep : Step w (.replies n) w') : w'.IsMaster → w'.Served w'.recordedLevel := by
  have hlevel := (levels_step hstep).1
  obtain rfl := Except.ok.inj hstep.2
  have hcontroller := w.server.controller_replyOnDataAvailable (w.replies.take n)
  intro hmaster
  rw [hlevel]
  refine (hw ?_).congr (congrArg Controller.deviceId hcontroller) rfl rfl rfl fun _ => id
  change ((w.server.replyOnDataAvailable (w.replies.take n)).controller.powerDevices.find?
    w.device.deviceId).bind (·.masterId) =
      some (w.server.replyOnDataAvailable (w.replies.take n)).controller.deviceId at hmaster
  rwa [hcontroller] at hmaster

end Steps

/-! ### Runs -/

/-- A step from a state in which the recorded level is served leads to such a state exactly if it
meets the condition. -/
theorem served_step {tr : Trace τ} {w w' : CommandSystem τ} {a : Action} (h : IsCommandRun tr w)
    (hw : w.IsMaster → w.Served w.recordedLevel) (hstep : Step w a w') :
    (w'.IsMaster → w'.Served w'.recordedLevel) ↔
      w.KeepsServed (askedLevel tr) (obeyedLevel tr) a := by
  rw [← h.levels.1, ← h.levels.2]
  cases a with
  | device now i => exact served_device h hw hstep
  | deviceInfo di => exact iff_of_true (served_deviceInfo hw hstep) trivial
  | activeControllers n => exact served_activeControllers hw hstep
  | startStop pdId opt writeOk => exact served_startStop hw hstep
  | otherRequest essr => exact iff_of_true (served_otherRequest hw hstep) trivial
  | requests n => exact served_requests hw hstep
  | replies n => exact iff_of_true (served_replies hw hstep) trivial

section Runs

variable {controllerId deviceId : Identity} {callbacks : ControllerCallbacks} {clock : ℤ}

/-- **Requests for the recorded level.** In every state of a run, a request that is dropped by the
master of the device is for a level that the device is at or is commanded to, if and only if at
every step of the run: the device does not give the controller up, nor the controller become its
master, while the level it was last asked for and the one last obeyed differ, unless in the latter
case a command to it is on its way; the controller commands another level only while the device has
it selected or is there already; and no batch of requests makes the device obey one to another level
than the master was asked for, unless a command to that level comes behind. -/
theorem never_swallowed_iff {tr : Trace τ} {w : CommandSystem τ}
    (h : IsRun Step (init controllerId deviceId callbacks clock) tr w) :
    (∀ pre r, pre <+: tr → IsRun Step (init controllerId deviceId callbacks clock) pre r →
        r.NeverSwallowed) ↔
      ∀ pre t, pre ++ [t] <+: tr →
        t.source.KeepsServed (askedLevel pre) (obeyedLevel pre) t.label := by
  have hrun : ∀ {pre r}, IsRun Step (init controllerId deviceId callbacks clock) pre r →
      IsCommandRun (τ := τ) pre r := fun hr => ⟨_, _, _, _, hr⟩
  refine h.forall_prefix_iff (P := fun _ w => w.NeverSwallowed)
    (C := fun tr w a => w.KeepsServed (askedLevel tr) (obeyedLevel tr) a) ?_ ?_
  · refine (neverSwallowed_iff (hrun .nil).requestable).mpr fun hmaster => ?_
    cases hmaster
  · intro tr w a w' hr hw hstep
    rw [neverSwallowed_iff (hrun hr).requestable] at hw
    rw [neverSwallowed_iff (hrun (hr.snoc hstep)).requestable]
    exact served_step (hrun hr) hw hstep

end Runs

/-- A device that selects the controller and is then stopped by it. -/
theorem never_swallowed_by_master : ∃ (tr : Trace Int64) (w : CommandSystem Int64),
    IsRun Step (init "mc1" "pd1" {} 0) tr w ∧ w.device.essl = .off ∧
      ∀ pre r, pre <+: tr → IsRun Step (init "mc1" "pd1" {} 0) pre r → r.NeverSwallowed :=
  have hrun := isRun_of_follow step_of_next? (s := init (τ := Int64) "mc1" "pd1" {} 0)
    [.deviceInfo ⟨⟨"pd1", .source, none⟩, true⟩,
      .device 0 (.deviceInfo ⟨⟨"mc1", .microgridController, none⟩, true⟩),
      .device (Sec 1) (.heartbeat ⟨⟨"mc1", 0⟩, true⟩),
      .device (Sec 3) (.heartbeat ⟨⟨"mc1", 1⟩, true⟩), .device (Sec 4) (.timeout .newController),
      .activeControllers 1, .startStop "pd1" .neverOperate true, .requests 1, .replies 1] rfl
  ⟨_, _, hrun, by decide,
    (never_swallowed_iff hrun).mpr (forall_prefix_snoc_iff_getElem.mpr (by decide))⟩

/-- A device that another controller has stopped changes over to a controller whose record of it
still is the guess: the request to start the device is dropped. -/
theorem start_swallowed : ∃ (tr : Trace Int64) (w : CommandSystem Int64),
    IsRun Step (init "mc1" "pd1" {} 0) tr w ∧ w.device.selected = "mc1" ∧
      w.device.essl = .off ∧ w.requests = [] ∧
      w.server.startStopDevice "pd1" .alwaysOperate true = (w.server, []) ∧ ¬w.NeverSwallowed :=
  have hrun := isRun_of_follow step_of_next? (s := init (τ := Int64) "mc1" "pd1" {} 0)
    [.deviceInfo ⟨⟨"pd1", .source, none⟩, true⟩,
      .device 0 (.deviceInfo ⟨⟨"mc1", .microgridController, none⟩, true⟩),
      .device 0 (.deviceInfo ⟨⟨"mc2", .microgridController, none⟩, true⟩),
      .device 0 (.heartbeat ⟨⟨"mc1", 0⟩, true⟩), .device (Sec 1) (.heartbeat ⟨⟨"mc2", 0⟩, true⟩),
      .device (Sec 3) (.heartbeat ⟨⟨"mc2", 1⟩, true⟩), .device (Sec 4) (.timeout .newController),
      .otherRequest ⟨⟨⟨"mc2", "pd1", .active⟩, 0, .any, .off⟩, true⟩, .requests 1,
      .device (Sec 6) (.timeout .missedHeartbeat),
      .device (Sec 11) (.heartbeat ⟨⟨"mc1", 1⟩, true⟩),
      .device (Sec 12) (.timeout .lostController), .activeControllers 2] rfl
  ⟨_, _, hrun, by decide, by decide, by decide, rfl, fun hnever =>
    absurd (hnever .alwaysOperate ⟨by decide, rfl⟩ (by decide)) (by decide)⟩

end CommandSystem

end TacticalMicrogrid
