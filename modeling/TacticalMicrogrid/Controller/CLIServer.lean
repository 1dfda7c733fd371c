import TacticalMicrogrid.Controller.Controller

/-!
# The command server of a microgrid controller

`controller/CLIServer.h` and `controller/CLIServer.cpp`: the part of a microgrid controller that
turns the requests of an operator into commands to the power devices. The level that the
controller has recorded for a device decides whether a command is sent. A function returns the
requests that it writes. The log messages are left out.

## Main definitions

* `CLIServer`.
* `CLIServer.startStopDevice`, `CLIServer.replyOnDataAvailable`.
* `CLIServer.oirOnDataAvailable`: one device for all requests of an operator that are taken
  together.
* `CLIServer.Repeats`: a request for the recorded level.

## Main results

* `CLIServer.startStopDevice_eq_self_iff`: a request is dropped exactly when it is for the recorded
  level.
* `CLIServer.startStopDevice_cases`: what a request can do.
-/

namespace TacticalMicrogrid

/-- The state of a `CLIServer`. -/
structure CLIServer where
  controller : Controller
  essrSeqnum : UInt64 := 0
  pendingEssr : Table UInt64 Identity := ∅

namespace CLIServer

/-- `CLIServer::ESSL_from_OPT`. -/
def esslFromOpt : OperatorPriorityType → EnergyStartStopLevel
  | .alwaysOperate => .operational
  | .neverOperate => .off
  | _ => .unknown

/-- The request that `CLIServer::start_stop_device` writes. -/
def essrTo (s : CLIServer) (pdId : Identity) (toEssl : EnergyStartStopLevel) :
    EnergyStartStopRequest where
  requestId := ⟨s.controller.deviceId, pdId, .active⟩
  sequenceId := s.essrSeqnum
  fromLevel := .any
  toLevel := toEssl

/-- `CLIServer::start_stop_device`, where `writeOk` says whether the write succeeds. -/
def startStopDevice (s : CLIServer) (pdId : Identity) (opt : OperatorPriorityType)
    (writeOk : Bool) : CLIServer × List EnergyStartStopRequest :=
  match s.controller.powerDevices.find? pdId with
  | none => (s, [])
  | some pd =>
    let toEssl := esslFromOpt opt
    if toEssl = .unknown then (s, [])
    else if pd.essl = toEssl then (s, [])
    else if pd.masterId ≠ some s.controller.deviceId then
      ({ s with controller := s.controller.updateEssl pdId toEssl }, [])
    else
      let essr := s.essrTo pdId toEssl
      let s := { s with essrSeqnum := s.essrSeqnum + 1 }
      if writeOk then
        ({ s with
          controller := s.controller.updateEssl pdId toEssl
          pendingEssr := s.pendingEssr.insertNew essr.sequenceId pdId }, [essr])
      else (s, [])

/-- The device that an operator's request names, with the priority for it: the first device with an
id. -/
def intentTarget (oir : OperatorIntentRequest) : Option (Identity × OperatorPriorityType) :=
  (oir.desiredOperatorIntent.devices.find? (·.deviceId ≠ "")).map fun intent =>
    (intent.deviceId, intent.priority.priorityType)

/-- The loop of `OperatorIntentRequestDataReaderListenerImpl::on_data_available`: the device that
the last request for the controller names. -/
def batchTarget (mcId : Identity) (data : List (Sample OperatorIntentRequest)) :
    Option (Identity × OperatorPriorityType) :=
  data.foldl (fun target s =>
    if s.validData ∧ s.data.desiredOperatorIntent.requestId.requestingDeviceId = mcId then
      (intentTarget s.data).or target
    else target) none

/-- `OperatorIntentRequestDataReaderListenerImpl::on_data_available`, for the samples that it
takes. -/
def oirOnDataAvailable (s : CLIServer) (data : List (Sample OperatorIntentRequest))
    (writeOk : Bool) : CLIServer × List EnergyStartStopRequest :=
  match batchTarget s.controller.deviceId data with
  | some (pdId, opt) => s.startStopDevice pdId opt writeOk
  | none => (s, [])

/-- `CLIServer::receive_reply`. -/
def receiveReply (s : CLIServer) (reply : Reply) : CLIServer :=
  { s with pendingEssr := s.pendingEssr.erase reply.requestSequenceId }

/-- `ReplyDataReaderListenerImpl::on_data_available`, for the samples that it takes. -/
def replyOnDataAvailable (s : CLIServer) (data : List (Sample Reply)) : CLIServer :=
  data.foldl (fun s reply =>
    if reply.validData ∧ reply.data.requestingDeviceId = s.controller.deviceId then
      s.receiveReply reply.data
    else s) s

/-- A reply changes nothing that is recorded about the devices. -/
theorem controller_replyOnDataAvailable (s : CLIServer) (data : List (Sample Reply)) :
    (s.replyOnDataAvailable data).controller = s.controller := by
  rw [replyOnDataAvailable]
  induction data generalizing s with
  | nil => rfl
  | cons reply data ih =>
    rw [List.foldl_cons, ih]
    split_ifs <;> rfl

/-! ### Requests for the recorded level -/

/-- The request is for the level that is recorded for the device. -/
def Repeats (s : CLIServer) (pdId : Identity) (opt : OperatorPriorityType) : Prop :=
  esslFromOpt opt ≠ .unknown ∧
    (s.controller.powerDevices.find? pdId).map (·.essl) = some (esslFromOpt opt)

section Requests

variable {s : CLIServer} {pdId : Identity} {opt : OperatorPriorityType} {writeOk : Bool}

theorem startStopDevice_of_unknown (h : s.controller.powerDevices.find? pdId = none) :
    s.startStopDevice pdId opt writeOk = (s, []) := by
  rw [startStopDevice, h]

theorem startStopDevice_of_not_requestable (h : esslFromOpt opt = .unknown) :
    s.startStopDevice pdId opt writeOk = (s, []) := by
  rw [startStopDevice]
  cases s.controller.powerDevices.find? pdId with
  | none => rfl
  | some pd => simp only [if_pos h]

/-- A request for the recorded level is dropped. -/
theorem startStopDevice_of_repeats (h : s.Repeats pdId opt) :
    s.startStopDevice pdId opt writeOk = (s, []) := by
  obtain ⟨hto, hessl⟩ := h
  obtain ⟨pd, hpd, hessl⟩ := Option.map_eq_some_iff.mp hessl
  rw [startStopDevice, hpd]
  simp only [if_neg hto, if_pos hessl]

/-- What a request can do: nothing, for an unknown device, an unknown level or the recorded level;
record the level, if this is not the master of the device; or send it as well, unless the write
fails. -/
theorem startStopDevice_cases (s : CLIServer) (pdId : Identity) (opt : OperatorPriorityType)
    (writeOk : Bool) :
    ((s.controller.powerDevices.find? pdId = none ∨ esslFromOpt opt = .unknown ∨
        s.Repeats pdId opt) ∧ s.startStopDevice pdId opt writeOk = (s, [])) ∨
      ∃ pd, s.controller.powerDevices.find? pdId = some pd ∧ esslFromOpt opt ≠ .unknown ∧
        pd.essl ≠ esslFromOpt opt ∧
        (pd.masterId ≠ some s.controller.deviceId ∧ s.startStopDevice pdId opt writeOk =
            ({ s with controller := s.controller.updateEssl pdId (esslFromOpt opt) }, []) ∨
          pd.masterId = some s.controller.deviceId ∧ writeOk = true ∧
            s.startStopDevice pdId opt writeOk =
              ({ s with
                controller := s.controller.updateEssl pdId (esslFromOpt opt)
                essrSeqnum := s.essrSeqnum + 1
                pendingEssr := s.pendingEssr.insertNew s.essrSeqnum pdId },
                [s.essrTo pdId (esslFromOpt opt)]) ∨
          pd.masterId = some s.controller.deviceId ∧ writeOk = false ∧
            s.startStopDevice pdId opt writeOk =
              ({ s with essrSeqnum := s.essrSeqnum + 1 }, [])) := by
  cases hpd : s.controller.powerDevices.find? pdId with
  | none => exact Or.inl ⟨Or.inl rfl, startStopDevice_of_unknown hpd⟩
  | some pd =>
    by_cases hto : esslFromOpt opt = .unknown
    · exact Or.inl ⟨Or.inr (Or.inl hto), startStopDevice_of_not_requestable hto⟩
    · by_cases hessl : pd.essl = esslFromOpt opt
      · have hrepeats : s.Repeats pdId opt := ⟨hto, by rw [hpd, Option.map_some, hessl]⟩
        exact Or.inl ⟨Or.inr (Or.inr hrepeats), startStopDevice_of_repeats hrepeats⟩
      · refine Or.inr ⟨pd, rfl, hto, hessl, ?_⟩
        rw [startStopDevice, hpd]
        simp only [if_neg hto, if_neg hessl]
        by_cases hmaster : pd.masterId ≠ some s.controller.deviceId
        · exact Or.inl ⟨hmaster, if_pos hmaster⟩
        · rw [if_neg hmaster]
          cases writeOk with
          | true => exact Or.inr (Or.inl ⟨not_not.mp hmaster, rfl, rfl⟩)
          | false => exact Or.inr (Or.inr ⟨not_not.mp hmaster, rfl, rfl⟩)

/-- A request leaves the id of the controller as it is. -/
theorem deviceId_startStopDevice (s : CLIServer) (pdId : Identity) (opt : OperatorPriorityType)
    (writeOk : Bool) :
    (s.startStopDevice pdId opt writeOk).1.controller.deviceId = s.controller.deviceId := by
  rcases s.startStopDevice_cases pdId opt writeOk with
    ⟨-, h⟩ | ⟨-, -, -, -, ⟨-, h⟩ | ⟨-, -, h⟩ | ⟨-, -, h⟩⟩ <;> rw [h] <;> rfl

theorem deviceId_oirOnDataAvailable (s : CLIServer) (data : List (Sample OperatorIntentRequest))
    (writeOk : Bool) :
    (s.oirOnDataAvailable data writeOk).1.controller.deviceId = s.controller.deviceId := by
  rw [oirOnDataAvailable]
  split
  · exact s.deviceId_startStopDevice _ _ _
  · rfl

/-- A request to a known device that can be written is dropped exactly when it is for the recorded
level. -/
theorem startStopDevice_eq_self_iff (hknown : pdId ∈ s.controller.powerDevices)
    (hto : esslFromOpt opt ≠ .unknown) :
    s.startStopDevice pdId opt true = (s, []) ↔ s.Repeats pdId opt := by
  refine ⟨fun hself => ?_, startStopDevice_of_repeats⟩
  rcases s.startStopDevice_cases pdId opt true with
    ⟨hnone | hunknown | hrepeats, -⟩ | ⟨pd, hpd, -, hessl, ⟨-, hlocal⟩ | ⟨-, -, hsent⟩ | ⟨-, h, -⟩⟩
  · exact absurd hknown (Table.find?_eq_none.mp hnone)
  · exact absurd hunknown hto
  · exact hrepeats
  · have hsame : ({ s with controller := s.controller.updateEssl pdId (esslFromOpt opt) } :
        CLIServer) = s := congrArg Prod.fst (hlocal.symm.trans hself)
    have hfind : (s.controller.updateEssl pdId (esslFromOpt opt)).powerDevices.find? pdId =
        s.controller.powerDevices.find? pdId := by
      conv_rhs => rw [← hsame]
    rw [Controller.updateEssl, Table.find?_modify, if_pos rfl, hpd, Option.map_some] at hfind
    exact absurd (congrArg PowerDeviceInfo.essl (Option.some.inj hfind)).symm hessl
  · rw [hsent] at hself
    cases congrArg Prod.snd hself
  · cases h

end Requests

end CLIServer

end TacticalMicrogrid
