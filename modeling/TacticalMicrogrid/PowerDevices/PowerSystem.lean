import TacticalMicrogrid.PowerDevices.SimulatedDevice
import TacticalMicrogrid.Library.Run
import TacticalMicrogrid.Library.Table

/-!
# Sources, distribution devices and loads

Any number of the programs `power_devices/Source.cpp`, `power_devices/Distribution.cpp` and
`power_devices/Load.cpp`, and the topic of their electric currents. In each program one thread
handles the currents: the simulation thread of a source, and the thread that calls the listener of a
distribution device or of a load. Other threads set the connections and the energy level in between,
so every lock that the thread takes, and every write, is a step of its own. DDS may lose,
duplicate, delay and reorder what is written, but a sample that a listener takes has been written.

## Main definitions

* `PowerProgram`, `Stage`: a program, and how far its thread has come.
* `PowerProgram.sourceThread`, `PowerProgram.distributionThread`, `PowerProgram.loadThread`.
* `Stage.snapshot`: the outputs that a source has copied.
* `PowerSystem`, `PowerSystem.Step`, `PowerSystem.IsInitial`.
* `PowerSystem.next?` computes a step.

## Main results

* `PowerProgram.sourceThread_cases`: what the thread of a source can do.
* `PowerSystem.Step.of_next?`: a computed step is a step.
-/

namespace TacticalMicrogrid

open TransitionSystem

/-- How far the thread that handles currents has come. -/
inductive Stage
  /-- A source waits for connections, a listener for samples. -/
  | idle
  | connected
  | running (connectedDevs : List ConnectedDevice)
  | emitting (connectedDevs : List ConnectedDevice)
  | took (data : List (Sample ElectricCurrent))
  | checked (data : List (Sample ElectricCurrent))
  | hasIn (data : List (Sample ElectricCurrent)) (ins : List ConnectedDevice)
  | relaying (pending : List ElectricCurrent)
deriving DecidableEq

/-- A source, a distribution device or a load. -/
structure PowerProgram extends SimulatedDevice where
  stage : Stage := .idle
deriving DecidableEq

/-- What the thread does next. -/
inductive ThreadAction
  | awaitConnections
  | take (data : List (Sample ElectricCurrent))
  | checkLevel
  | readIn
  | readOut
  | write (sent : Bool)
  | examine
  | finish
deriving DecidableEq

/-- What a thread lets the other programs or the user see. -/
inductive PowerOutput
  | wrote (ec : ElectricCurrent)
  | received (ec : ElectricCurrent)
deriving DecidableEq

namespace PowerProgram

variable (p : PowerProgram)

/-- A write, which may fail. -/
def writeOutput (sent : Bool) (ec : ElectricCurrent) : Option PowerOutput :=
  if sent then some (.wrote ec) else none

/-- `SourceDevice::simulate_power_flow`: the list of the connected devices is copied once. -/
def sourceThread : ThreadAction → Option (Stage × Option PowerOutput)
  | .awaitConnections => match p.stage with
    | .idle => if p.IsConnected then some (.connected, none) else none
    | _ => none
  | .readOut => match p.stage with
    | .connected => some (.running p.connectedDevicesOut, none)
    | _ => none
  | .checkLevel => match p.stage with
    | .running devs => some (if p.essl = .operational then .emitting devs else .running devs, none)
    | _ => none
  | .write sent => match p.stage with
    | .emitting devs => (p.emission devs).map fun ec => (.running devs, writeOutput sent ec)
    | _ => none
  | _ => none

/-- The start of both listeners: they take what is there and look at the energy level. -/
def startBatch : ThreadAction → Option (Stage × Option PowerOutput)
  | .take data => match p.stage with
    | .idle => some (.took data, none)
    | _ => none
  | .checkLevel => match p.stage with
    | .took data => some (if p.essl = .operational then .checked data else .idle, none)
    | _ => none
  | _ => none

/-- `ElectricCurrentDataReaderListenerImpl::on_data_available` of a distribution device. -/
def distributionThread : ThreadAction → Option (Stage × Option PowerOutput)
  | .readIn => match p.stage with
    | .checked data => some (.hasIn data p.connectedDevicesIn, none)
    | _ => none
  | .readOut => match p.stage with
    | .hasIn data ins => some (.relaying (p.relayAll ins p.connectedDevicesOut data), none)
    | _ => none
  | .write sent => match p.stage with
    | .relaying (ec :: pending) => some (.relaying pending, writeOutput sent ec)
    | _ => none
  | .finish => match p.stage with
    | .relaying [] => some (.idle, none)
    | _ => none
  | a => p.startBatch a

/-- `ElectricCurrentDataReaderListenerImpl::on_data_available` of a load: it ends with the first
current that counts as received. -/
def loadThread : ThreadAction → Option (Stage × Option PowerOutput)
  | .examine => match p.stage with
    | .checked (s :: data) =>
      if s.validData ∧ p.counts s.data then some (.idle, some (.received s.data))
      else some (.checked data, none)
    | _ => none
  | .finish => match p.stage with
    | .checked [] => some (.idle, none)
    | _ => none
  | a => p.startBatch a

/-- A step of the thread. -/
def thread (a : ThreadAction) : Option (Stage × Option PowerOutput) :=
  match p.role with
  | .source => p.sourceThread a
  | .distribution => p.distributionThread a
  | .load => p.loadThread a
  | _ => none

end PowerProgram

/-! ### The copy of a source -/

/-- The list of outputs that the simulation thread of a source has copied. -/
def Stage.snapshot : Stage → Option (List ConnectedDevice)
  | .running devs | .emitting devs => some devs
  | _ => none

/-- The simulation thread of a source finds connections, copies the outputs, or goes on with the
list that it has copied. Then it may send a current to the first device of the list. -/
theorem PowerProgram.sourceThread_cases {p : PowerProgram} {act : ThreadAction} {stage : Stage}
    {out : Option PowerOutput} (h : p.sourceThread act = some (stage, out)) :
    (stage = .connected ∧ out = none) ∨ (stage = .running p.connectedDevicesOut ∧ out = none) ∨
      ∃ devs ∈ p.stage.snapshot, stage.snapshot = some devs ∧
        (out = none ∨ ∃ dev ∈ devs.head?, out = some (.wrote ⟨[p.deviceId, dev.id], 10⟩)) := by
  cases act with
  | awaitConnections =>
    simp only [PowerProgram.sourceThread] at h
    split at h
    · split_ifs at h
      obtain ⟨rfl, rfl⟩ := Prod.mk.inj (Option.some.inj h)
      exact Or.inl ⟨rfl, rfl⟩
    · cases h
  | readOut =>
    simp only [PowerProgram.sourceThread] at h
    split at h
    · obtain ⟨rfl, rfl⟩ := Prod.mk.inj (Option.some.inj h)
      exact Or.inr (Or.inl ⟨rfl, rfl⟩)
    · cases h
  | checkLevel =>
    simp only [PowerProgram.sourceThread] at h
    split at h
    · next devs hrunning =>
      obtain ⟨rfl, rfl⟩ := Prod.mk.inj (Option.some.inj h)
      refine Or.inr (Or.inr ⟨devs, by rw [hrunning]; rfl, ?_, Or.inl rfl⟩)
      split_ifs <;> rfl
    · cases h
  | write sent =>
    simp only [PowerProgram.sourceThread] at h
    split at h
    · next devs hemitting =>
      obtain ⟨ec, hec, heq⟩ := Option.map_eq_some_iff.mp h
      obtain ⟨dev, hdev, rfl⟩ := Option.map_eq_some_iff.mp hec
      obtain ⟨rfl, rfl⟩ := Prod.mk.inj heq
      refine Or.inr (Or.inr ⟨devs, by rw [hemitting]; rfl, rfl, ?_⟩)
      cases sent with
      | false => exact Or.inl rfl
      | true => exact Or.inr ⟨dev, hdev, rfl⟩
    · cases h
  | take | readIn | examine | finish => cases h

/-! ### Programs -/

/-- What a program does: it sets its connections or its energy level, or its thread goes on. -/
inductive PowerAction
  | connections (data : List (Sample PowerConnection))
  | energyLevel (essl : EnergyStartStopLevel)
  | thread (a : ThreadAction)
deriving DecidableEq

/-- A step of the program. -/
def PowerProgram.act (p : PowerProgram) : PowerAction → Option (PowerProgram × Option PowerOutput)
  | .connections data =>
    some ({ p with toSimulatedDevice := p.toSimulatedDevice.pcOnDataAvailable data }, none)
  | .energyLevel essl => some ({ p with essl }, none)
  | .thread a => (p.thread a).map fun r => ({ p with stage := r.1 }, r.2)

/-- The programs by their ids, and the currents that have been written. -/
structure PowerSystem where
  programs : Table Identity PowerProgram
  written : List ElectricCurrent := []

namespace PowerSystem

/-- A step of a program, and what it lets the others see. -/
structure Label where
  id : Identity
  action : PowerAction
  output : Option PowerOutput

/-- The currents that a step writes. -/
def outputs : Option PowerOutput → List ElectricCurrent
  | some (.wrote ec) => [ec]
  | _ => []

variable (w : PowerSystem)

/-- What DDS delivers: a current that has been written, and connections to named devices. -/
def Delivers : PowerAction → Prop
  | .thread (.take data) => ∀ s ∈ data, s.validData = true → s.data ∈ w.written
  | .connections data => ∀ s ∈ data, ∀ x ∈ s.data.connectedDevices, x.id ≠ ""
  | _ => True

instance : (a : PowerAction) → Decidable (w.Delivers a)
  | .thread (.take data) => inferInstanceAs (Decidable (∀ s ∈ data, _ → _))
  | .connections data => inferInstanceAs (Decidable (∀ s ∈ data, ∀ x ∈ s.data.connectedDevices, _))
  | .energyLevel _ | .thread .awaitConnections | .thread .checkLevel | .thread .readIn |
    .thread .readOut | .thread (.write _) | .thread .examine | .thread .finish => isTrue trivial

/-- The steps of the system. -/
def Step (l : Label) (w' : PowerSystem) : Prop :=
  w.Delivers l.action ∧ ∃ p p', w.programs.find? l.id = some p ∧
    p.act l.action = some (p', l.output) ∧
      w' = { programs := w.programs.set l.id p', written := w.written ++ outputs l.output }

/-- The step of a program, if it can be taken. -/
def next? (i : Identity × PowerAction) : Option (Label × PowerSystem) :=
  if w.Delivers i.2 then
    match w.programs.find? i.1 with
    | none => none
    | some p => (p.act i.2).map fun r => (⟨i.1, i.2, r.2⟩,
        { programs := w.programs.set i.1 r.1, written := w.written ++ outputs r.2 })
  else none

theorem Step.of_next? (i : Identity × PowerAction) (l : Label) (w' : PowerSystem)
    (h : w.next? i = some (l, w')) : w.Step l w' := by
  rw [next?] at h
  split_ifs at h with hdelivers
  cases hp : w.programs.find? i.1 with
  | none =>
    rw [hp] at h
    cases h
  | some p =>
    rw [hp] at h
    obtain ⟨⟨p', out⟩, hact, heq⟩ := Option.map_eq_some_iff.mp h
    obtain ⟨rfl, rfl⟩ := Prod.mk.inj heq
    exact ⟨hdelivers, p, p', hp, hact, rfl⟩

/-- At the start the programs have no connections, and nothing has been written. -/
def IsInitial : Prop :=
  w.written = [] ∧ ∀ id, ∀ p ∈ w.programs.find? id,
    id ≠ "" ∧ ∃ role, p = { deviceId := id, role }

/-- The role of a device. -/
def roleOf (id : Identity) : Option DeviceRole := (w.programs.find? id).map (·.role)

end PowerSystem

end TacticalMicrogrid
