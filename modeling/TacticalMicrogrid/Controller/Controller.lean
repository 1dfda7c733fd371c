import TacticalMicrogrid.DataModel
import TacticalMicrogrid.Library.Table

/-!
# The device table of a microgrid controller

`controller/Controller.h` and `controller/Controller.cpp`: a microgrid controller keeps a table of
the power devices it has heard of, with the level at which it takes each to be and the microgrid
controller that commands it. Every function holds `mut_`, so it is one step. The debug flag and the
log messages are left out.

## Main definitions

* `PowerDeviceInfo`, `PowerDevices`, `Controller`.
* `Controller.deviceInfoCb`, `Controller.setActiveController`, `Controller.updateEssl`.
* `Controller.amcsOnDataAvailable`.
* `Controller.pdreqOnDataAvailable`: the devices that it reports to an operator.
* `Controller.ptOnDataAvailable`: the connections that it passes on to the devices.
-/

namespace TacticalMicrogrid

/-- `cli::PowerDeviceInfo`. -/
structure PowerDeviceInfo where
  deviceInfo : DeviceInfo
  essl : EnergyStartStopLevel
  masterId : Option Identity
deriving DecidableEq

/-- `PowerDevices`. -/
abbrev PowerDevices := Table Identity PowerDeviceInfo

/-- `cli::PowerDevicesRequest`. -/
structure PowerDevicesRequest where
  mcId : Identity
deriving DecidableEq

/-- `cli::PowerDevicesReply`. -/
structure PowerDevicesReply where
  mcId : Identity
  devices : List PowerDeviceInfo
deriving DecidableEq

/-- The state of a `Controller`. -/
structure Controller where
  deviceId : Identity
  powerDevices : Table Identity PowerDeviceInfo := ∅

namespace Controller

/-- `Controller::update_essl`. -/
def updateEssl (c : Controller) (pdId : Identity) (toLevel : EnergyStartStopLevel) : Controller :=
  { c with powerDevices := c.powerDevices.modify pdId ({ · with essl := toLevel }) }

/-- `Controller::device_info_cb`: the first `DeviceInfo` of a power device enters it, at the
level `ESSL_OPERATIONAL` and without a master. -/
def deviceInfoCb (c : Controller) (s : Sample DeviceInfo) : Controller :=
  if !s.validData ∨ s.data.deviceId = c.deviceId then c
  else if s.data.role ≠ .microgridController then
    { c with powerDevices := c.powerDevices.insertNew s.data.deviceId ⟨s.data, .operational, none⟩ }
  else c

/-- `Controller::set_active_controller`. -/
def setActiveController (c : Controller) (pdId : Identity) (masterId : Option Identity) :
    Controller :=
  { c with powerDevices := c.powerDevices.modify pdId ({ · with masterId := masterId }) }

/-- The loop body of `ActiveMicrogridControllerStateDataReaderListenerImpl::on_data_available`. -/
def gotActiveController (c : Controller) (s : Sample ActiveMicrogridControllerState) :
    Controller :=
  if s.validData then c.setActiveController s.data.deviceId s.data.masterId else c

/-- `ActiveMicrogridControllerStateDataReaderListenerImpl::on_data_available`, for the samples that
it takes. -/
def amcsOnDataAvailable (c : Controller) (data : List (Sample ActiveMicrogridControllerState)) :
    Controller :=
  data.foldl gotActiveController c

/-- The reply of `PowerDevicesRequestDataReaderListenerImpl::on_data_available`: the devices that
have selected this controller or none. -/
def powerDevicesReply (c : Controller) : PowerDevicesReply where
  mcId := c.deviceId
  devices := (c.powerDevices.entries.map (·.2)).filter fun pd =>
    pd.masterId = none ∨ pd.masterId = some c.deviceId

/-- `PowerDevicesRequestDataReaderListenerImpl::on_data_available`, for the samples that it
takes. -/
def pdreqOnDataAvailable (c : Controller) (data : List (Sample PowerDevicesRequest)) :
    Option PowerDevicesReply :=
  if data.any fun s => s.data.mcId = c.deviceId ∧ s.validData then some c.powerDevicesReply
  else none

/-- `PowerTopologyDataReaderListenerImpl::on_data_available`, for the samples that it takes: the
connections of the first topology for this controller are written, up to a write that fails. -/
def ptOnDataAvailable (c : Controller) (writeOk : Identity → Bool) :
    List (Sample PowerTopology) → List PowerConnection
  | [] => []
  | s :: data =>
    if s.validData ∧ s.data.mcId = c.deviceId then
      s.data.connections.takeWhile fun pc => writeOk pc.pdId
    else c.ptOnDataAvailable writeOk data

/-- The controller passes on connections of the topologies that it takes. -/
theorem exists_of_mem_ptOnDataAvailable {c : Controller} {writeOk : Identity → Bool}
    {data : List (Sample PowerTopology)} {pc : PowerConnection}
    (h : pc ∈ c.ptOnDataAvailable writeOk data) :
    ∃ s ∈ data, s.validData = true ∧ pc ∈ s.data.connections := by
  induction data with
  | nil => cases h
  | cons s data ih =>
    rw [ptOnDataAvailable] at h
    split_ifs at h with hown
    · exact ⟨s, List.mem_cons_self, hown.1, (List.takeWhile_sublist _).subset h⟩
    · obtain ⟨s', hs', hvalid, hpc⟩ := ih h
      exact ⟨s', List.mem_cons_of_mem s hs', hvalid, hpc⟩

end Controller

end TacticalMicrogrid
