import Mathlib.Data.String.Basic
import Mathlib.Data.UInt
import Mathlib.Order.Lattice
import Mathlib.Data.Prod.Lex
import Mathlib.Data.Rat.Init

/-!
# The data model of the microgrid topics

The types of `common/mil-std-3071_data_model.idl` that the selection of a controller and the
commands to a power device read or write, with the fields they use, and those of
`power_devices/PowerSim.idl`. `tms::Identity` is a `string<32>`; the programs compare identities
and never look at their length other than for emptiness.

## Main definitions

* `Identity`, `DeviceRole`, `DeviceInfo`, `Heartbeat`, `ActiveMicrogridControllerState`.
* `EnergyStartStopLevel`, `OperatorPriorityType`, `EnergyStartStopRequest`, `Reply`.
* `OperatorIntentRequest`.
* `ElectricCurrent`, `ConnectedDevice`, `PowerConnection`, `PowerTopology`.
* `Sample`, `InfoSample`.
-/

namespace TacticalMicrogrid

/-- `tms::Identity`. -/
abbrev Identity := String

/-- `tms::DeviceRole`. -/
inductive DeviceRole
  | unknown
  | microgridController
  | source
  | load
  | storage
  | distribution
  | microgridDashboard
  | conversion
  | monitor
deriving DecidableEq, Repr

/-- `tms::MicrogridControllerInfo`: a lower `priorityRanking` is a higher priority. -/
structure MicrogridControllerInfo where
  priorityRanking : UInt16
deriving DecidableEq

/-- `tms::ControlServiceInfo`. -/
structure ControlServiceInfo where
  mc : Option MicrogridControllerInfo
deriving DecidableEq

/-- `tms::DeviceInfo`. -/
structure DeviceInfo where
  deviceId : Identity
  role : DeviceRole
  controlService : Option ControlServiceInfo := none
deriving DecidableEq

/-- `tms::Heartbeat`. -/
structure Heartbeat where
  deviceId : Identity
  sequenceNumber : UInt32 := 0
deriving DecidableEq

/-- `tms::ActiveMicrogridControllerState`: `masterId` is present if a controller is selected and
absent otherwise. -/
structure ActiveMicrogridControllerState where
  deviceId : Identity
  masterId : Option Identity
deriving DecidableEq

/-- `tms::EnergyStartStopLevel`. -/
inductive EnergyStartStopLevel
  | unknown
  | any
  | off
  | warm
  | idle
  | ready
  | readySynced
  | operational
deriving DecidableEq, Repr

/-- `tms::OperatorPriorityType`. -/
inductive OperatorPriorityType
  | unknown
  | neverOperate
  | alwaysOperate
  | numericRank
deriving DecidableEq, Repr

/-- `tms::ConfigId`. -/
inductive ConfigId
  | unknown
  | defaults
  | active
  | onReboot
  | onCommsLoss
deriving DecidableEq, Repr

/-- `tms::DeviceConfigRequest`. -/
structure DeviceConfigRequest where
  requestingDeviceId : Identity
  targetDeviceId : Identity
  config : ConfigId
deriving DecidableEq

/-- `tms::EnergyStartStopRequest`. -/
structure EnergyStartStopRequest where
  requestId : DeviceConfigRequest
  sequenceId : UInt64
  fromLevel : EnergyStartStopLevel
  toLevel : EnergyStartStopLevel
deriving DecidableEq

/-- `tms::ReplyCode`. -/
inductive ReplyCode
  | unknown
  | ok
  | badRequest
  | methodNotAllowed
  | conflict
  | gone
  | preconditionFailed
  | internalServerError
  | notImplemented
  | serviceUnavailable
  | pendingAuthorization
  | notMaster
  | permissionDenied
deriving DecidableEq, Repr

/-- `tms::ReplyStatus`. -/
structure ReplyStatus where
  code : ReplyCode
  reason : String
deriving DecidableEq

/-- `tms::INVALID_PORT_NUMBER`. -/
def invalidPortNumber : ℤ := -1

/-- `tms::Reply`. -/
structure Reply where
  requestingDeviceId : Identity
  targetDeviceId : Identity
  config : ConfigId
  portNumber : ℤ
  requestSequenceId : UInt64
  status : ReplyStatus
deriving DecidableEq

/-- `tms::GridRequest`. -/
structure GridRequest where
  requestingDeviceId : Identity
deriving DecidableEq

/-- `tms::OperatorPriority`. -/
structure OperatorPriority where
  priorityType : OperatorPriorityType
deriving DecidableEq

/-- `tms::DeviceIntent`. -/
structure DeviceIntent where
  deviceId : Identity
  battleShort : Bool
  priority : OperatorPriority
deriving DecidableEq

/-- `tms::OperatorIntentType`. -/
inductive OperatorIntentType
  | unknown
  | defaultIntent
  | operatorDefined
deriving DecidableEq, Repr

/-- `tms::OperatorIntent`. -/
structure OperatorIntent where
  requestId : GridRequest
  intentType : OperatorIntentType
  devices : List DeviceIntent
deriving DecidableEq

/-- `tms::OperatorIntentRequest`. The `@key` is `requestId`. -/
structure OperatorIntentRequest where
  requestId : GridRequest
  sequenceId : UInt64
  desiredOperatorIntent : OperatorIntent
deriving DecidableEq

/-! ### The power simulation -/

/-- `powersim::ElectricCurrent`; the amperage, a `float`, is exact here. -/
structure ElectricCurrent where
  powerPath : List Identity
  amperage : ℚ
deriving DecidableEq

/-- `powersim::ConnectedDevice`. -/
structure ConnectedDevice where
  id : Identity
  role : DeviceRole
deriving DecidableEq

/-- `powersim::PowerConnection`. -/
structure PowerConnection where
  pdId : Identity
  connectedDevices : List ConnectedDevice
deriving DecidableEq

/-- `powersim::PowerTopology`. -/
structure PowerTopology where
  mcId : Identity
  connections : List PowerConnection
deriving DecidableEq

/-! ### Samples -/

/-- A sample as a data reader delivers it: `SampleInfo::valid_data` is false if the sample only
reports a change of state of its instance. -/
structure Sample (α : Type) where
  data : α
  validData : Bool := true
deriving DecidableEq

/-- `DDS::InstanceStateKind`. -/
inductive InstanceState
  | alive
  | notAliveDisposed
  | notAliveNoWriters
deriving DecidableEq, Repr

/-- A sample with the state of its instance, where a reader asks for it. -/
structure InfoSample (α : Type) extends Sample α where
  instanceState : InstanceState := .alive
deriving DecidableEq

namespace InfoSample

variable {α : Type}

/-- The sample says that its instance is disposed, and nothing else. -/
def IsDisposal (s : InfoSample α) : Prop :=
  s.validData = false ∧ s.instanceState = .notAliveDisposed

instance (s : InfoSample α) : Decidable s.IsDisposal :=
  inferInstanceAs (Decidable (_ ∧ _))

/-- A sample with data. -/
def valid (data : α) : InfoSample α := { data := data }

/-- The disposal of an instance. -/
def disposal (data : α) : InfoSample α :=
  { data := data, validData := false, instanceState := .notAliveDisposed }

@[simp] theorem validData_valid (data : α) : (valid data).validData = true := rfl
@[simp] theorem data_valid (data : α) : (valid data).data = data := rfl
@[simp] theorem data_disposal (data : α) : (disposal data).data = data := rfl
@[simp] theorem isDisposal_disposal (data : α) : (disposal data).IsDisposal := ⟨rfl, rfl⟩

end InfoSample

end TacticalMicrogrid
