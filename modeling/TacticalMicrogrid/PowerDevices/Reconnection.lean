import TacticalMicrogrid.PowerDevices.PowerSystem

/-!
# Connections that are delivered again

`PowerDevice::connected_devices` is to set the devices that a device is connected to. A source or a
load has one port, and the last device of the message takes the place of the one that was there. A
distribution device appends, so a message that is delivered again lists its devices twice, and every
current is split among more outputs than there are.

The simulation thread of a source copies the list of its outputs once, before its loop, and sends to
the first device of the copy for ever after. A device that replaces the connected one later gets
nothing.

## Main definitions

* `SimulatedDevice.portAfter`: the only port after a message.
* `SimulatedDevice.SetsConnections`: a message that is delivered again changes nothing.
* `IsSourceRun`: the runs of the program of a source.
* `PowerProgram.EmitsToPeer`: what a step sends goes to the device that is connected.
* `PowerProgram.KeepsPeer`: the condition.

## Main results

* `SimulatedDevice.setsConnections_iff`: when a message sets the connections.
* `emitsToPeer_of_run`: when a source sends to the device that it is connected to.
-/

namespace TacticalMicrogrid

open TransitionSystem

namespace SimulatedDevice

/-! ### Delivered again -/

/-- The list of the devices at the only port after a message: the last device of the message is
there. -/
def portAfter (devices l : List ConnectedDevice) : List ConnectedDevice :=
  match devices.getLast? with
  | some x => x :: l.tail
  | none => l

/-- Setting the connections once more changes nothing, and neither does the `PowerConnection` that
is delivered again change what the device makes of any currents. -/
structure SetsConnections (d : SimulatedDevice) (devices : List ConnectedDevice) : Prop where
  ins : ((d.connectedDevices devices).connectedDevices devices).connectedDevicesIn =
    (d.connectedDevices devices).connectedDevicesIn
  outs : ((d.connectedDevices devices).connectedDevices devices).connectedDevicesOut =
    (d.connectedDevices devices).connectedDevicesOut
  currents : ∀ data, ((d.connectedDevices devices).pcOnDataAvailable
      [⟨⟨d.deviceId, devices⟩, true⟩]).ecOnDataAvailable data =
    (d.connectedDevices devices).ecOnDataAvailable data

section Again

variable {d : SimulatedDevice} {devices l : List ConnectedDevice}

theorem foldl_plug : devices.foldl (fun l x => plug x l) l = portAfter devices l := by
  induction devices using List.reverseRecOn with
  | nil => rfl
  | append_singleton devices x ih =>
    rw [List.foldl_append, ih, portAfter, portAfter, List.getLast?_concat]
    cases devices.getLast? with
    | some y => rfl
    | none => cases l <;> rfl

@[simp] theorem portAfter_portAfter :
    portAfter devices (portAfter devices l) = portAfter devices l := by
  rw [portAfter, portAfter]
  cases devices.getLast? <;> rfl

theorem connectedDevices_source (hrole : d.role = .source) : d.connectedDevices devices =
    { d with connectedDevicesOut := portAfter devices d.connectedDevicesOut } := by
  rw [connectedDevices, ← foldl_plug]
  induction devices generalizing d with
  | nil => rfl
  | cons x devices ih =>
    rw [List.foldl_cons, ih (by rw [connectOne_eq, hrole]), connectOne, hrole]
    rfl

theorem connectedDevices_load (hrole : d.role = .load) : d.connectedDevices devices =
    { d with connectedDevicesIn := portAfter devices d.connectedDevicesIn } := by
  rw [connectedDevices, ← foldl_plug]
  induction devices generalizing d with
  | nil => rfl
  | cons x devices ih =>
    rw [List.foldl_cons, ih (by rw [connectOne_eq, hrole]), connectOne, hrole]
    rfl

/-- A device that is not part of the power simulation has no connections. -/
theorem connectedDevices_of_not (hrole : ¬IsPowerRole d.role) : d.connectedDevices devices = d := by
  have hone : ∀ x, d.connectOne x = d := by
    intro x
    rw [connectOne]
    split
    · next hsource => exact absurd (Or.inl hsource) hrole
    · next hload => exact absurd (Or.inr (Or.inl hload)) hrole
    · next hdistribution => exact absurd (Or.inr (Or.inr hdistribution)) hrole
    · rfl
  rw [connectedDevices]
  induction devices with
  | nil => rfl
  | cons x devices ih => rw [List.foldl_cons, hone, ih]

/-- A distribution device ignores what is not part of the power simulation. -/
theorem connectedDevices_of_forall_not (hrole : d.role = .distribution)
    (h : ∀ x ∈ devices, ¬IsPowerRole x.role) : d.connectedDevices devices = d := by
  have hin : devices.filter (ReceivesFrom d.role ·.role) = [] := by
    refine List.filter_eq_nil_iff.mpr fun x hx => ?_
    rw [decide_eq_true_eq, hrole]
    rintro (hload | ⟨-, hsource | hdistribution⟩)
    · cases hload
    · exact h x hx (Or.inl hsource)
    · exact h x hx (Or.inr (Or.inr hdistribution))
  have hout : devices.filter (SendsTo d.role ·.role) = [] := by
    refine List.filter_eq_nil_iff.mpr fun x hx => ?_
    rw [decide_eq_true_eq, hrole]
    rintro (hsource | ⟨-, hload | hdistribution⟩)
    · cases hsource
    · exact h x hx (Or.inr (Or.inl hload))
    · exact h x hx (Or.inr (Or.inr hdistribution))
  rw [connectedDevices_distribution hrole, hin, hout, List.append_nil, List.append_nil]

theorem setsConnections_of_eq
    (h : (d.connectedDevices devices).connectedDevices devices = d.connectedDevices devices) :
    SetsConnections d devices := by
  refine ⟨by rw [h], by rw [h], fun data => ?_⟩
  rw [pcOnDataAvailable, if_pos ⟨rfl, deviceId_connectedDevices.symm⟩, h]

/-- **Setting the connections.** A message that is delivered again neither changes the lists of a
device nor its currents if and only if the device is no distribution device or the message names no
source, no load and no distribution device; whatever its connections were before. -/
theorem setsConnections_iff (d : SimulatedDevice) (devices : List ConnectedDevice) :
    SetsConnections d devices ↔
      (d.role = .distribution → ∀ x ∈ devices, ¬IsPowerRole x.role) := by
  by_cases hrole : d.role = .distribution
  · rw [forall_prop_of_true hrole]
    have htwice : (d.connectedDevices devices).role = .distribution := by simpa using hrole
    constructor
    · rintro ⟨hin, hout, -⟩ x hx hpower
      rw [connectedDevices_distribution htwice, connectedDevices_distribution hrole] at hin hout
      simp only [List.append_right_eq_self, List.filter_eq_nil_iff, hrole] at hin hout
      have hsource := hin x hx
      have hload := hout x hx
      rw [decide_eq_true_eq] at hsource hload
      rcases hpower with hx | hx | hx
      · exact hsource (Or.inr ⟨rfl, Or.inl hx⟩)
      · exact hload (Or.inr ⟨rfl, Or.inl hx⟩)
      · exact hsource (Or.inr ⟨rfl, Or.inr hx⟩)
    · intro hnone
      refine setsConnections_of_eq ?_
      rw [connectedDevices_of_forall_not hrole hnone, connectedDevices_of_forall_not hrole hnone]
  · refine iff_of_true (setsConnections_of_eq ?_) fun h => absurd h hrole
    by_cases hpower : IsPowerRole d.role
    · rcases hpower with hsource | hload | h
      · rw [connectedDevices_source (by simpa using hsource), connectedDevices_source hsource,
          portAfter_portAfter]
      · rw [connectedDevices_load (by simpa using hload), connectedDevices_load hload,
          portAfter_portAfter]
      · exact absurd h hrole
    · rw [connectedDevices_of_not (by simpa using hpower)]

/-- The only load of a distribution device is listed twice and gets half the current in each of two
samples. -/
theorem lists_load_twice : ¬∀ (d : SimulatedDevice) (devices : List ConnectedDevice),
    SetsConnections d devices := by
  intro h
  have hsets := h { deviceId := "dist", role := .distribution }
    [⟨"src", .source⟩, ⟨"load", .load⟩]
  exact absurd hsets.outs (by decide)

/-- What the load gets then. -/
example : (({ deviceId := "dist", role := .distribution } : SimulatedDevice).connectedDevices
      [⟨"src", .source⟩, ⟨"load", .load⟩, ⟨"src", .source⟩, ⟨"load", .load⟩]).ecOnDataAvailable
        [⟨⟨["src", "dist"], 10⟩, true⟩] =
    [⟨["src", "dist", "load"], 5⟩, ⟨["src", "dist", "load"], 5⟩] := by
  decide +kernel

end Again

end SimulatedDevice

/-! ### The connected device of a source -/

/-- A step of the program of a source, with what it lets the others see. -/
def SourceStep (p : PowerProgram) (l : PowerAction × Option PowerOutput) (p' : PowerProgram) :
    Prop :=
  p.act l.1 = some (p', l.2)

/-- `tr` is a run of the program of a source, which ends in `p`: messages with connections, changes
of the energy level and the steps of the simulation thread, in any order. -/
def IsSourceRun (tr : List (Transition PowerProgram (PowerAction × Option PowerOutput)))
    (p : PowerProgram) : Prop :=
  ∃ id, IsRun SourceStep { deviceId := id, role := .source } tr p

namespace PowerProgram

/-- What a step emits goes from the device to the first device of its current outputs. -/
def EmitsToPeer (t : Transition PowerProgram (PowerAction × Option PowerOutput)) : Prop :=
  ∀ ec, t.label.2 = some (.wrote ec) → ∃ peer, t.source.connectedDevicesOut.head? = some peer ∧
    ec.powerPath = [t.source.deviceId, peer.id]

/-- If the action is a message with connections after the outputs have been copied, and the message
names devices for this source, the last of them is the connected device. -/
def KeepsPeer (p : PowerProgram) : PowerAction → Prop
  | .connections data => p.stage.snapshot ≠ none →
      ∀ s ∈ data.find? (p.IsOwn ·), ∀ x ∈ s.data.connectedDevices.getLast?,
        p.connectedDevicesOut.head?.map (·.id) = some x.id
  | .energyLevel _ | .thread _ => True

instance (p : PowerProgram) : (a : PowerAction) → Decidable (p.KeepsPeer a)
  | .connections data => inferInstanceAs (Decidable (_ → ∀ s ∈ data.find? (p.IsOwn ·), _))
  | .energyLevel _ | .thread _ => isTrue trivial

/-- The copied outputs of a source start with its connected device. -/
structure TracksPeer (p : PowerProgram) : Prop where
  role : p.role = .source
  head : ∀ devs ∈ p.stage.snapshot,
    devs.head?.map (·.id) = p.connectedDevicesOut.head?.map (·.id)

section Source

variable {p p' : PowerProgram} {l : PowerAction × Option PowerOutput}

/-- After its own message a source is connected to the last device of it. -/
theorem head?_portAfter {devices outs : List ConnectedDevice}
    (h : ∀ x ∈ devices.getLast?, outs.head?.map (·.id) = some x.id) :
    (SimulatedDevice.portAfter devices outs).head?.map (·.id) = outs.head?.map (·.id) := by
  rw [SimulatedDevice.portAfter]
  cases hlast : devices.getLast? with
  | none => rfl
  | some x => exact (h x hlast).symm

theorem TracksPeer.connections (h : p.TracksPeer) {data : List (Sample PowerConnection)}
    (hkeeps : p.KeepsPeer (.connections data)) :
    TracksPeer { p with toSimulatedDevice := p.toSimulatedDevice.pcOnDataAvailable data } := by
  rw [SimulatedDevice.pcOnDataAvailable_eq]
  cases hown : data.find? (p.IsOwn ·) with
  | none => exact h
  | some s =>
    change TracksPeer { p with toSimulatedDevice := p.connectedDevices s.data.connectedDevices }
    rw [SimulatedDevice.connectedDevices_source h.role]
    refine ⟨h.role, fun devs hdevs => ?_⟩
    have hkept := hkeeps (fun hnone => by rw [hnone] at hdevs; cases hdevs) s hown
    exact (h.head devs hdevs).trans (head?_portAfter hkept).symm

theorem TracksPeer.step (h : p.TracksPeer) (hkeeps : p.KeepsPeer l.1) (hstep : SourceStep p l p') :
    p'.TracksPeer := by
  obtain ⟨act, out⟩ := l
  cases act with
  | connections data =>
    obtain ⟨rfl, -⟩ := Prod.mk.inj (Option.some.inj hstep)
    exact h.connections hkeeps
  | energyLevel essl =>
    obtain ⟨rfl, -⟩ := Prod.mk.inj (Option.some.inj hstep)
    exact ⟨h.role, h.head⟩
  | thread act =>
    obtain ⟨⟨stage, out'⟩, hthread, heq⟩ := Option.map_eq_some_iff.mp hstep
    obtain ⟨rfl, rfl⟩ := Prod.mk.inj heq
    rw [PowerProgram.thread, h.role] at hthread
    refine ⟨h.role, fun devs hdevs => ?_⟩
    rcases sourceThread_cases hthread with ⟨rfl, -⟩ | ⟨rfl, -⟩ | ⟨devs', hdevs', hkept, -⟩
    · cases hdevs
    · obtain rfl := Option.some.inj hdevs
      rfl
    · obtain rfl := Option.some.inj (hkept.symm.trans hdevs)
      exact h.head devs' hdevs'

theorem TracksPeer.emitsToPeer (h : p.TracksPeer) (hstep : SourceStep p l p') :
    EmitsToPeer ⟨p, l, p'⟩ := by
  intro ec hec
  obtain ⟨act, out⟩ := l
  obtain rfl : out = some (.wrote ec) := hec
  cases act with
  | connections data => cases hstep
  | energyLevel essl => cases hstep
  | thread act =>
    obtain ⟨⟨stage, out⟩, hthread, heq⟩ := Option.map_eq_some_iff.mp hstep
    obtain ⟨rfl, rfl⟩ := Prod.mk.inj heq
    rw [PowerProgram.thread, h.role] at hthread
    rcases sourceThread_cases hthread with
      ⟨-, hnone⟩ | ⟨-, hnone⟩ | ⟨devs, hdevs, -, hnone | ⟨dev, hdev, hwrote⟩⟩
    · cases hnone
    · cases hnone
    · cases hnone
    obtain rfl := PowerOutput.wrote.inj (Option.some.inj hwrote)
    have hhead := h.head devs hdevs
    rw [hdev] at hhead
    obtain ⟨peer, hpeer, hid⟩ := Option.map_eq_some_iff.mp hhead.symm
    exact ⟨peer, hpeer, by rw [hid]⟩

end Source

end PowerProgram

/-! ### Runs -/

open PowerProgram

section Runs

variable {tr : List (Transition PowerProgram (PowerAction × Option PowerOutput))}
  {p : PowerProgram}

/-- **The connected device of a source.** In every run of the program of a source in which every
message with connections that comes after its thread has copied the list ends with the connected
device, every current that it sends goes to the device that it is connected to then. -/
theorem emitsToPeer_of_run (h : IsSourceRun tr p)
    (hkeeps : ∀ t ∈ tr, t.source.KeepsPeer t.label.1) : ∀ t ∈ tr, EmitsToPeer t := by
  obtain ⟨id, hrun⟩ := h
  refine hrun.forall_mem_of_forall (P := TracksPeer) (C := fun p l => p.KeepsPeer l.1) hkeeps
    ?_ ?_ ?_
  · exact ⟨rfl, nofun⟩
  · exact fun p l p' hp hC hstep => hp.step hC hstep
  · exact fun p l p' hp hstep => hp.emitsToPeer hstep

/-- A step of the program of a source, if it can be taken. -/
def SourceStep.next? (p : PowerProgram) (act : PowerAction) :
    Option ((PowerAction × Option PowerOutput) × PowerProgram) :=
  (p.act act).map fun r => ((act, r.2), r.1)

theorem SourceStep.of_next? (p : PowerProgram) (act : PowerAction)
    (l : PowerAction × Option PowerOutput) (p' : PowerProgram)
    (h : SourceStep.next? p act = some (l, p')) : SourceStep p l p' := by
  obtain ⟨⟨p'', out⟩, hact, heq⟩ := Option.map_eq_some_iff.mp h
  obtain ⟨rfl, rfl⟩ := Prod.mk.inj heq
  exact hact

/-- A message that connects the source `src` to another device. -/
def connectTo (id : Identity) : PowerAction := .connections [⟨⟨"src", [⟨id, .load⟩]⟩, true⟩]

/-- A source sends, hears of its only load again, and goes on sending. -/
theorem emitsToPeer_of_redelivery :
    ∃ (tr : List (Transition PowerProgram (PowerAction × Option PowerOutput))) (p : PowerProgram),
      IsSourceRun tr p ∧ (∀ t ∈ tr, t.source.KeepsPeer t.label.1) ∧ (∀ t ∈ tr, EmitsToPeer t) ∧
        p.connectedDevicesOut = [⟨"a", .load⟩] ∧ tr.length = 8 := by
  have hrun := isRun_of_follow SourceStep.of_next?
    (s := { deviceId := "src", role := .source }) [connectTo "a", .thread .awaitConnections,
      .thread .readOut, .thread .checkLevel, .thread (.write true), connectTo "a",
      .thread .checkLevel, .thread (.write true)] rfl
  exact ⟨_, _, ⟨_, hrun⟩, by decide, emitsToPeer_of_run ⟨_, hrun⟩ (by decide), rfl, rfl⟩

/-- The source goes on sending to the device that another one has replaced. -/
theorem emits_to_replaced : ¬∀ (tr : List (Transition PowerProgram (PowerAction ×
    Option PowerOutput))) (p : PowerProgram), IsSourceRun tr p → ∀ t ∈ tr, EmitsToPeer t := by
  intro h
  have hrun := isRun_of_follow SourceStep.of_next?
    (s := { deviceId := "src", role := .source }) [connectTo "a", .thread .awaitConnections,
      .thread .readOut, connectTo "b", .thread .checkLevel, .thread (.write true)] rfl
  have hlast := h _ _ ⟨_, hrun⟩ _ (List.mem_of_getLast? rfl)
  obtain ⟨peer, hpeer, hpath⟩ := hlast _ rfl
  obtain rfl := Option.some.inj hpeer
  exact absurd hpath (by decide)

end Runs

end TacticalMicrogrid
