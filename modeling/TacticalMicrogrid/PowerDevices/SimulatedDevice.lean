import TacticalMicrogrid.DataModel
import Mathlib.Algebra.Order.Ring.Rat
import Mathlib.Data.List.Basic

/-!
# A power device in the power simulation

The part of `power_devices/PowerDevice.h` and `power_devices/PowerDevice.cpp` that holds the
connections of a device, and what the programs `power_devices/Source.cpp`,
`power_devices/Distribution.cpp` and `power_devices/Load.cpp` do with an electric current. A device
decides from its own role and the role of its peer in which direction a connection carries power.
The log messages are left out, and a write that fails is only logged.

## Main definitions

* `SimulatedDevice`, `SimulatedDevice.connectedDevices`, `SimulatedDevice.pcOnDataAvailable`.
* `SimulatedDevice.emission`, `SimulatedDevice.relay`, `SimulatedDevice.counts`: what a source
  emits, what a distribution device passes on, what a load counts as received.
* `SimulatedDevice.HasOut`, `SimulatedDevice.HasIn`: the peers of a device.
* `IsPowerRole`: the roles that the power simulation knows.
* `SendsTo`, `ReceivesFrom`: the directions that a device gives to its connections.

## Main results

* `SimulatedDevice.connectedDevices_distribution`, `SimulatedDevice.connectedDevices_fresh`: the
  lists of a device after its connections are set.
* `SimulatedDevice.foldl_pcOnDataAvailable_of_filter`: a connection is obeyed in whatever batch it
  comes.
* `SimulatedDevice.mem_relay`, `SimulatedDevice.counts_iff`: what is relayed, and what counts as
  received.
-/

namespace TacticalMicrogrid

/-- The power simulation's part of a `PowerDevice`. -/
structure SimulatedDevice where
  deviceId : Identity
  role : DeviceRole
  connectedDevicesIn : List ConnectedDevice := []
  connectedDevicesOut : List ConnectedDevice := []
  essl : EnergyStartStopLevel := .operational
deriving DecidableEq

namespace SimulatedDevice

/-! ### Connections -/

/-- The only port of a device: a device at the port is replaced. -/
def plug (other : ConnectedDevice) : List ConnectedDevice → List ConnectedDevice
  | [] => [other]
  | _ :: rest => other :: rest

/-- The loop body of `PowerDevice::connected_devices`. -/
def connectOne (d : SimulatedDevice) (other : ConnectedDevice) : SimulatedDevice :=
  match d.role with
  | .source => { d with connectedDevicesOut := plug other d.connectedDevicesOut }
  | .load => { d with connectedDevicesIn := plug other d.connectedDevicesIn }
  | .distribution =>
    match other.role with
    | .source => { d with connectedDevicesIn := d.connectedDevicesIn ++ [other] }
    | .load => { d with connectedDevicesOut := d.connectedDevicesOut ++ [other] }
    | .distribution =>
      { d with
        connectedDevicesIn := d.connectedDevicesIn ++ [other]
        connectedDevicesOut := d.connectedDevicesOut ++ [other] }
    | _ => d
  | _ => d

/-- `PowerDevice::connected_devices`, which sets the connections. -/
def connectedDevices (d : SimulatedDevice) (devices : List ConnectedDevice) : SimulatedDevice :=
  devices.foldl connectOne d

/-- `PowerConnectionDataReaderListenerImpl::on_data_available`, for the samples that it takes. -/
def pcOnDataAvailable (d : SimulatedDevice) : List (Sample PowerConnection) → SimulatedDevice
  | [] => d
  | s :: data =>
    if s.validData ∧ s.data.pdId = d.deviceId then d.connectedDevices s.data.connectedDevices
    else d.pcOnDataAvailable data

/-- `PowerDevice::wait_for_connections` returns. -/
def IsConnected (d : SimulatedDevice) : Prop :=
  d.connectedDevicesIn ≠ [] ∨ d.connectedDevicesOut ≠ []

instance (d : SimulatedDevice) : Decidable d.IsConnected := inferInstanceAs (Decidable (_ ∨ _))

/-- The device lists another one among its outputs. -/
def HasOut (d : SimulatedDevice) (id : Identity) : Prop :=
  ∃ x ∈ d.connectedDevicesOut, x.id = id

/-- The device lists another one among its inputs. -/
def HasIn (d : SimulatedDevice) (id : Identity) : Prop :=
  ∃ x ∈ d.connectedDevicesIn, x.id = id

instance (d : SimulatedDevice) (id : Identity) : Decidable (d.HasOut id) :=
  inferInstanceAs (Decidable (∃ x ∈ d.connectedDevicesOut, x.id = id))

instance (d : SimulatedDevice) (id : Identity) : Decidable (d.HasIn id) :=
  inferInstanceAs (Decidable (∃ x ∈ d.connectedDevicesIn, x.id = id))

/-! ### Electric current -/

/-- The sample that `SourceDevice::simulate_power_flow` writes, for the list that it has read of
the devices it sends power to. It takes the first device without looking whether there is one. -/
def emission (d : SimulatedDevice) (connectedDevs : List ConnectedDevice) :
    Option ElectricCurrent :=
  connectedDevs.head?.map fun dev => ⟨[d.deviceId, dev.id], 10⟩

/-- The loop body of the distribution device's `ElectricCurrentDataReaderListenerImpl`, for the
lists that it has read: a current from a device of the input list to this device goes on to every
device of the output list. -/
def relay (d : SimulatedDevice) (ins outs : List ConnectedDevice) (ec : ElectricCurrent) :
    List ElectricCurrent :=
  match ec.powerPath.reverse with
  | to_ :: from_ :: _ =>
    if to_ ≠ d.deviceId then []
    else if ins.any (·.id = from_) then
      outs.map fun out => ⟨ec.powerPath ++ [out.id], ec.amperage / outs.length⟩
    else []
  | _ => []

/-- The loop of the distribution device's `ElectricCurrentDataReaderListenerImpl`. -/
def relayAll (d : SimulatedDevice) (ins outs : List ConnectedDevice)
    (data : List (Sample ElectricCurrent)) : List ElectricCurrent :=
  (data.filter (·.validData)).flatMap fun s => d.relay ins outs s.data

/-- `ElectricCurrentDataReaderListenerImpl::on_data_available` of a distribution device, while its
level and its connections stay as they are. -/
def ecOnDataAvailable (d : SimulatedDevice) (data : List (Sample ElectricCurrent)) :
    List ElectricCurrent :=
  if d.essl ≠ .operational then [] else d.relayAll d.connectedDevicesIn d.connectedDevicesOut data

/-- `LoadDevice::connected_dev_id`. -/
def connectedDevId (d : SimulatedDevice) : Identity :=
  (d.connectedDevicesIn.head?.map (·.id)).getD ""

/-- A load counts a current as received. -/
def counts (d : SimulatedDevice) (ec : ElectricCurrent) : Bool :=
  match ec.powerPath.reverse with
  | to_ :: from_ :: _ => from_ = d.connectedDevId ∧ to_ = d.deviceId
  | _ => false

end SimulatedDevice

/-! ### Directions -/

/-- The roles of the devices in the power simulation. -/
def IsPowerRole (role : DeviceRole) : Prop :=
  role = .source ∨ role = .load ∨ role = .distribution

instance (role : DeviceRole) : Decidable (IsPowerRole role) :=
  inferInstanceAs (Decidable (_ ∨ _ ∨ _))

/-- A device of the first role sends power to a connected device of the second role. -/
def SendsTo (own other : DeviceRole) : Prop :=
  own = .source ∨ own = .distribution ∧ (other = .load ∨ other = .distribution)

/-- A device of the first role takes power from a connected device of the second role. -/
def ReceivesFrom (own other : DeviceRole) : Prop :=
  own = .load ∨ own = .distribution ∧ (other = .source ∨ other = .distribution)

instance (own other : DeviceRole) : Decidable (SendsTo own other) :=
  inferInstanceAs (Decidable (_ ∨ _ ∧ (_ ∨ _)))

instance (own other : DeviceRole) : Decidable (ReceivesFrom own other) :=
  inferInstanceAs (Decidable (_ ∨ _ ∧ (_ ∨ _)))

namespace SimulatedDevice

variable {d : SimulatedDevice} {other x : ConnectedDevice} {devices : List ConnectedDevice}

/-- The only port of a source or a load gets the peer; a distribution device adds it to the lists of
its directions. -/
theorem connectOne_eq : d.connectOne other = { d with
    connectedDevicesIn :=
      if d.role = .load then plug other d.connectedDevicesIn
      else if ReceivesFrom d.role other.role then d.connectedDevicesIn ++ [other]
      else d.connectedDevicesIn
    connectedDevicesOut :=
      if d.role = .source then plug other d.connectedDevicesOut
      else if SendsTo d.role other.role then d.connectedDevicesOut ++ [other]
      else d.connectedDevicesOut } := by
  rcases d with ⟨id, role, ins, outs, essl⟩
  rcases other with ⟨otherId, otherRole⟩
  cases role with
  | distribution => cases otherRole <;> rfl
  | _ => rfl

/-- Only the lists change. -/
theorem connectedDevices_frame (d : SimulatedDevice) (devices : List ConnectedDevice) :
    ∃ ins outs, d.connectedDevices devices =
      { d with connectedDevicesIn := ins, connectedDevicesOut := outs } := by
  rw [connectedDevices]
  induction devices generalizing d with
  | nil => exact ⟨_, _, rfl⟩
  | cons other devices ih =>
    obtain ⟨ins, outs, heq⟩ := ih (d.connectOne other)
    rw [List.foldl_cons, heq, connectOne_eq]
    exact ⟨_, _, rfl⟩

@[simp] theorem deviceId_connectedDevices : (d.connectedDevices devices).deviceId = d.deviceId := by
  obtain ⟨ins, outs, heq⟩ := d.connectedDevices_frame devices
  rw [heq]

@[simp] theorem role_connectedDevices : (d.connectedDevices devices).role = d.role := by
  obtain ⟨ins, outs, heq⟩ := d.connectedDevices_frame devices
  rw [heq]

theorem mem_plug {l : List ConnectedDevice} (h : x ∈ plug other l) : x ∈ l ∨ x = other := by
  cases l with
  | nil => exact Or.inr (List.mem_singleton.mp h)
  | cons a l =>
    rcases List.mem_cons.mp h with h | h
    · exact Or.inr h
    · exact Or.inl (List.mem_cons_of_mem a h)

/-- An output is an old one, or a new peer that the device sends power to. -/
theorem mem_out_connectedDevices (h : x ∈ (d.connectedDevices devices).connectedDevicesOut) :
    x ∈ d.connectedDevicesOut ∨ x ∈ devices ∧ SendsTo d.role x.role := by
  rw [connectedDevices] at h
  induction devices generalizing d with
  | nil => exact Or.inl h
  | cons other devices ih =>
    rcases ih h with h | ⟨h, hsends⟩
    · rw [connectOne_eq] at h
      simp only at h
      split_ifs at h with hsource hsends
      · rcases mem_plug h with h | rfl
        · exact Or.inl h
        · exact Or.inr ⟨List.mem_cons_self, Or.inl hsource⟩
      · rcases List.mem_append.mp h with h | h
        · exact Or.inl h
        · obtain rfl := List.mem_singleton.mp h
          exact Or.inr ⟨List.mem_cons_self, hsends⟩
      · exact Or.inl h
    · rw [connectOne_eq] at hsends
      exact Or.inr ⟨List.mem_cons_of_mem other h, hsends⟩

/-- An input is an old one, or a new peer that the device takes power from. -/
theorem mem_in_connectedDevices (h : x ∈ (d.connectedDevices devices).connectedDevicesIn) :
    x ∈ d.connectedDevicesIn ∨ x ∈ devices ∧ ReceivesFrom d.role x.role := by
  rw [connectedDevices] at h
  induction devices generalizing d with
  | nil => exact Or.inl h
  | cons other devices ih =>
    rcases ih h with h | ⟨h, hreceives⟩
    · rw [connectOne_eq] at h
      simp only at h
      split_ifs at h with hload hreceives
      · rcases mem_plug h with h | rfl
        · exact Or.inl h
        · exact Or.inr ⟨List.mem_cons_self, Or.inl hload⟩
      · rcases List.mem_append.mp h with h | h
        · exact Or.inl h
        · obtain rfl := List.mem_singleton.mp h
          exact Or.inr ⟨List.mem_cons_self, hreceives⟩
      · exact Or.inl h
    · rw [connectOne_eq] at hreceives
      exact Or.inr ⟨List.mem_cons_of_mem other h, hreceives⟩

/-- A distribution device adds its peers to the lists of their directions. -/
theorem connectedDevices_distribution (hrole : d.role = .distribution) :
    d.connectedDevices devices = { d with
      connectedDevicesIn := d.connectedDevicesIn ++ devices.filter (ReceivesFrom d.role ·.role)
      connectedDevicesOut := d.connectedDevicesOut ++ devices.filter (SendsTo d.role ·.role) } := by
  rw [connectedDevices]
  induction devices generalizing d with
  | nil => simp
  | cons other devices ih =>
    rw [List.foldl_cons, ih (by rw [connectOne_eq]; exact hrole), connectOne_eq]
    simp only [hrole, List.filter_cons, decide_eq_true_eq]
    simp only [reduceCtorEq, if_false]
    split_ifs <;> simp

/-- A device without connections gets its peers in their directions, provided that a device with one
port has one peer at most. -/
theorem connectedDevices_fresh (hin : d.connectedDevicesIn = []) (hout : d.connectedDevicesOut = [])
    (hrole : IsPowerRole d.role)
    (hport : d.role = .source ∨ d.role = .load → devices.length ≤ 1) :
    d.connectedDevices devices = { d with
      connectedDevicesIn := devices.filter (ReceivesFrom d.role ·.role)
      connectedDevicesOut := devices.filter (SendsTo d.role ·.role) } := by
  rcases d with ⟨id, role, ins, outs, essl⟩
  obtain rfl : ins = [] := hin
  obtain rfl : outs = [] := hout
  rcases hrole with rfl | rfl | rfl
  · rcases devices with _ | ⟨x, _ | ⟨y, rest⟩⟩
    · rfl
    · rfl
    · exact absurd (hport (Or.inl rfl)) (by simp)
  · rcases devices with _ | ⟨x, _ | ⟨y, rest⟩⟩
    · rfl
    · rfl
    · exact absurd (hport (Or.inr rfl)) (by simp)
  · rw [connectedDevices_distribution rfl, List.nil_append, List.nil_append]

/-! ### Power connections -/

/-- The sample is a connection for the device. -/
def IsOwn (d : SimulatedDevice) (s : Sample PowerConnection) : Prop :=
  s.validData = true ∧ s.data.pdId = d.deviceId

instance (d : SimulatedDevice) (s : Sample PowerConnection) : Decidable (d.IsOwn s) :=
  inferInstanceAs (Decidable (_ ∧ _))

/-- The device obeys the first connection of a batch that is its own. -/
theorem pcOnDataAvailable_eq (data : List (Sample PowerConnection)) : d.pcOnDataAvailable data =
    match data.find? (d.IsOwn ·) with
    | some s => d.connectedDevices s.data.connectedDevices
    | none => d := by
  induction data with
  | nil => rfl
  | cons s data ih =>
    rw [pcOnDataAvailable]
    by_cases hown : d.IsOwn s
    · rw [List.find?_cons_of_pos (by simpa using hown)]
      exact if_pos hown
    · rw [List.find?_cons_of_neg (by simpa using hown), ← ih]
      exact if_neg hown

theorem pcOnDataAvailable_cases (d : SimulatedDevice) (data : List (Sample PowerConnection)) :
    d.pcOnDataAvailable data = d ∨ ∃ s ∈ data, d.IsOwn s ∧
      d.pcOnDataAvailable data = d.connectedDevices s.data.connectedDevices := by
  rw [pcOnDataAvailable_eq]
  cases hown : data.find? (d.IsOwn ·) with
  | none => exact Or.inl rfl
  | some s =>
    exact Or.inr ⟨s, List.mem_of_find?_eq_some hown, by simpa using List.find?_some hown, rfl⟩

/-- Batches without a connection for the device leave it as it is. -/
theorem foldl_pcOnDataAvailable_of_forall {batches : List (List (Sample PowerConnection))}
    (h : ∀ s ∈ batches.flatten, ¬d.IsOwn s) : batches.foldl pcOnDataAvailable d = d := by
  induction batches with
  | nil => rfl
  | cons data batches ih =>
    have hdata : data.find? (d.IsOwn ·) = none :=
      List.find?_eq_none.mpr fun s hs => by simpa using h s (List.mem_append_left _ hs)
    rw [List.foldl_cons, pcOnDataAvailable_eq, hdata]
    exact ih fun s hs => h s (List.mem_append_right _ hs)

/-- In whatever batches the samples come, a device with one connection among them sets this one. -/
theorem foldl_pcOnDataAvailable_of_filter {batches : List (List (Sample PowerConnection))}
    {s : Sample PowerConnection} (h : batches.flatten.filter (d.IsOwn ·) = [s]) :
    batches.foldl pcOnDataAvailable d = d.connectedDevices s.data.connectedDevices := by
  induction batches with
  | nil => cases h
  | cons data batches ih =>
    rw [List.flatten_cons, List.filter_append] at h
    rw [List.foldl_cons, pcOnDataAvailable_eq, ← List.head?_filter]
    rcases List.append_eq_singleton_iff.mp h with ⟨hdata, hrest⟩ | ⟨hdata, hrest⟩
    · rw [hdata]
      exact ih hrest
    · rw [hdata]
      change batches.foldl pcOnDataAvailable (d.connectedDevices s.data.connectedDevices) = _
      refine foldl_pcOnDataAvailable_of_forall fun s' hs' => ?_
      have hnone := List.filter_eq_nil_iff.mp hrest s' hs'
      rw [decide_eq_true_eq, IsOwn] at hnone
      rwa [IsOwn, deviceId_connectedDevices]

/-! ### Relayed currents -/

/-- What is relayed: a current from an input of the device to the device itself, with an output of
the device at the end. -/
theorem mem_relay {ins outs : List ConnectedDevice} {ec ec' : ElectricCurrent} :
    ec' ∈ d.relay ins outs ec ↔ ∃ pre a, ec.powerPath = pre ++ [a, d.deviceId] ∧
      (∃ i ∈ ins, i.id = a) ∧ ∃ out ∈ outs,
        ec' = ⟨ec.powerPath ++ [out.id], ec.amperage / outs.length⟩ := by
  rw [relay]
  split
  · next b a rest hpath =>
    have hpath' : ec.powerPath = rest.reverse ++ [a, b] := by
      rw [← List.reverse_reverse ec.powerPath, hpath]
      simp
    have hlast : ∀ pre a', ec.powerPath = pre ++ [a', d.deviceId] → a' = a ∧ d.deviceId = b := by
      intro pre a' heq
      rw [hpath'] at heq
      obtain ⟨-, hends⟩ := List.append_inj' heq rfl
      obtain ⟨ha, hb⟩ := List.cons.inj hends
      exact ⟨ha.symm, (List.cons.inj hb).1.symm⟩
    split_ifs with hb hin
    · refine iff_of_false List.not_mem_nil ?_
      rintro ⟨pre, a', heq, -⟩
      exact hb (hlast pre a' heq).2.symm
    · rw [List.mem_map]
      constructor
      · rintro ⟨out, hout, rfl⟩
        refine ⟨rest.reverse, a, ?_, by simpa using hin, out, hout, rfl⟩
        rw [hpath', not_not.mp hb]
      · rintro ⟨-, -, -, -, out, hout, rfl⟩
        exact ⟨out, hout, rfl⟩
    · refine iff_of_false List.not_mem_nil ?_
      rintro ⟨pre, a', heq, hmem, -⟩
      rw [(hlast pre a' heq).1] at hmem
      exact hin (by simpa using hmem)
  · next hshort =>
    refine iff_of_false List.not_mem_nil ?_
    rintro ⟨pre, a, heq, -⟩
    exact hshort d.deviceId a pre.reverse (by simp [heq])

/-- A current counts as received if its path ends with the input device of the load and the load. -/
theorem counts_iff {ec : ElectricCurrent} :
    d.counts ec = true ↔ ∃ pre, ec.powerPath = pre ++ [d.connectedDevId, d.deviceId] := by
  rw [counts]
  split
  · next b a rest hpath =>
    have hpath' : ec.powerPath = rest.reverse ++ [a, b] := by
      rw [← List.reverse_reverse ec.powerPath, hpath]
      simp
    rw [decide_eq_true_eq]
    constructor
    · rintro ⟨rfl, rfl⟩
      exact ⟨_, hpath'⟩
    · rintro ⟨pre, heq⟩
      rw [hpath'] at heq
      obtain ⟨-, hends⟩ := List.append_inj' heq rfl
      obtain ⟨ha, hb⟩ := List.cons.inj hends
      exact ⟨ha, (List.cons.inj hb).1⟩
  · next hshort =>
    refine iff_of_false Bool.false_ne_true ?_
    rintro ⟨pre, heq⟩
    exact hshort d.deviceId d.connectedDevId pre.reverse (by simp [heq])

/-- A load without an input device has the empty id for it. -/
theorem exists_of_connectedDevId (h : d.connectedDevId ≠ "") :
    ∃ x ∈ d.connectedDevicesIn.head?, x.id = d.connectedDevId := by
  rw [connectedDevId] at h ⊢
  cases hhead : d.connectedDevicesIn.head? with
  | none =>
    rw [hhead] at h
    exact absurd rfl h
  | some x => exact ⟨x, rfl, rfl⟩

end SimulatedDevice

end TacticalMicrogrid
