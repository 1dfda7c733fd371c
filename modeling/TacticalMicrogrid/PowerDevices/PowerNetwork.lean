import TacticalMicrogrid.CLI.Wiring
import TacticalMicrogrid.PowerDevices.SimulatedDevice

/-!
# The network that an operator builds

An operator's session, the microgrid controllers that pass its topologies on, and the power devices.
What the client and the controllers write may be lost, duplicated, delayed and reordered, so a
device may know a part of its connections only. Still its lists follow the cables of the client: an
output is a cable over which the device sends, an input is one over which it receives.

## Main definitions

* `PowerNetwork`, `PowerNetwork.Step`, `PowerNetwork.IsNetworkRun`.
* `PowerNetwork.FollowsCables`, `PowerNetwork.Inv`.

## Main results

* `PowerNetwork.Inv.step`, `PowerNetwork.inv_of_run`: the lists follow the cables.
* `PowerNetwork.remembers_of_run`: what a device has had among its outputs is still a cable.
* `PowerNetwork.Inv.exists_device`: a cable ends at a device of the network.
-/

namespace TacticalMicrogrid

open TransitionSystem

/-- The operator's session, the devices by their ids, the topologies that the client has written and
the connections that the controllers have written. -/
structure PowerNetwork (τ : Type) where
  session : CLISession τ
  devices : Table Identity SimulatedDevice
  topologies : List PowerTopology := []
  connections : List PowerConnection := []

namespace PowerNetwork

/-- What can happen: an event of the session, where the end of `connect-pd` forwards the topology;
samples that reach the listener of a controller or of a device; and a change of an energy level. -/
inductive Event
  | cli (e : CLISession.Event)
  | endConnectPd (now : ℤ) (writeOk : Identity → Bool) (order : List Identity)
      (connections : List PowerConnection)
  | topology (mcId : Identity) (writeOk : Identity → Bool) (data : List (Sample PowerTopology))
  | connection (id : Identity) (data : List (Sample PowerConnection))
  | energyLevel (id : Identity) (essl : EnergyStartStopLevel)

variable {τ : Type}

/-- The controllers report devices of the network, with their roles. -/
def Reports (m : PowerNetwork τ) (c : CLIClient τ) : Prop :=
  ∀ e ∈ c.powerDevices.entries, ∃ d ∈ m.devices.find? e.1, d.role = e.2.deviceInfo.role

instance (m : PowerNetwork τ) (c : CLIClient τ) : Decidable (m.Reports c) :=
  inferInstanceAs (Decidable (∀ e ∈ c.powerDevices.entries, ∃ d ∈ m.devices.find? e.1, _))

/-- A new session, and sources, loads and distribution devices without connections. -/
def IsInitial (m : PowerNetwork τ) : Prop :=
  (∃ id, m.session = ⟨{ deviceId := id }, none⟩) ∧ m.topologies = [] ∧ m.connections = [] ∧
    ∀ id, ∀ d ∈ m.devices.find? id, ∃ role, IsPowerRole role ∧ d = { deviceId := id, role }

section Steps

variable [TimePoint τ] (m : PowerNetwork τ)

/-- The network after an event. -/
def after : Event → PowerNetwork τ
  | .cli e => { m with session := m.session.after e }
  | .endConnectPd now writeOk order connections =>
    { m with
      session := m.session.after .endConnectPd
      topologies := m.topologies ++
        (m.session.client.forwardTopology now writeOk connections order).toList }
  | .topology mcId writeOk data =>
    { m with
      connections := m.connections ++
        ({ deviceId := mcId } : Controller).ptOnDataAvailable writeOk data }
  | .connection id data => { m with devices := m.devices.modify id (·.pcOnDataAvailable data) }
  | .energyLevel id essl => { m with devices := m.devices.modify id ({ · with essl }) }

/-- When an event can happen. -/
def Enabled : Event → Prop
  | .cli .endConnectPd => False
  | .cli e => m.session.Enabled e ∧ m.Reports (m.session.after e).client
  | .endConnectPd _ _ order connections => m.session.Enabled .endConnectPd ∧
      order.Perm m.session.client.controllers.keys ∧
      m.session.client.ListsConnections connections
  | .topology _ _ data => ∀ s ∈ data, s.validData = true → s.data ∈ m.topologies
  | .connection _ data => ∀ s ∈ data, s.validData = true → s.data ∈ m.connections
  | .energyLevel _ _ => True

instance : (e : Event) → Decidable (m.Enabled e)
  | .cli .endConnectPd => isFalse id
  | .cli (.deviceInfo _ _) | .cli (.heartbeat _ _) | .cli (.listPd _) | .cli (.startStop _ _ _ _) |
    .cli (.connectPd _ _ _) | .cli (.answer _) => inferInstanceAs (Decidable (_ ∧ _))
  | .endConnectPd _ _ _ _ => inferInstanceAs (Decidable (_ ∧ _ ∧ _))
  | .topology _ _ data => inferInstanceAs (Decidable (∀ s ∈ data, _ → _))
  | .connection _ data => inferInstanceAs (Decidable (∀ s ∈ data, _ → _))
  | .energyLevel _ _ => isTrue trivial

/-- The steps of the network. -/
def Step (e : Event) (m' : PowerNetwork τ) : Prop := m.Enabled e ∧ m' = m.after e

/-- The step for an event, if it can be taken. -/
def next? (e : Event) : Option (Event × PowerNetwork τ) :=
  if m.Enabled e then some (e, m.after e) else none

theorem step_of_next? (e e' : Event) (m' : PowerNetwork τ) (h : m.next? e = some (e', m')) :
    m.Step e' m' := by
  obtain ⟨henabled, rfl, rfl⟩ := of_guard_eq_some h
  exact ⟨henabled, rfl⟩

/-- `tr` is a run of a network, which ends in `m`. -/
def IsNetworkRun (tr : List (Transition (PowerNetwork τ) Event)) (m : PowerNetwork τ) : Prop :=
  ∃ m₀ : PowerNetwork τ, m₀.IsInitial ∧ IsRun Step m₀ tr m

end Steps

/-! ### The lists follow the cables -/

/-- The lists of a device are cables of the client, in the directions that the device gives them; a
distribution device at the other end is an input and an output. -/
structure FollowsCables (c : CLIClient τ) (id : Identity) (d : SimulatedDevice) : Prop where
  deviceId : d.deviceId = id
  role : IsPowerRole d.role
  out : ∀ x ∈ d.connectedDevicesOut, x ∈ c.cablesOf id ∧ SendsTo d.role x.role
  input : ∀ x ∈ d.connectedDevicesIn, x ∈ c.cablesOf id ∧ ReceivesFrom d.role x.role
  both : d.role = .distribution → ∀ x : ConnectedDevice, x.role = .distribution →
    (x ∈ d.connectedDevicesIn ↔ x ∈ d.connectedDevicesOut)

theorem FollowsCables.mono {c c' : CLIClient τ} {id : Identity} {d : SimulatedDevice}
    (h : FollowsCables c id d) (hcables : ∀ x ∈ c.cablesOf id, x ∈ c'.cablesOf id) :
    FollowsCables c' id d where
  deviceId := h.deviceId
  role := h.role
  out x hx := (h.out x hx).imp_left (hcables x)
  input x hx := (h.input x hx).imp_left (hcables x)
  both := h.both

/-- Connections that are cables keep the lists at the cables. -/
theorem FollowsCables.connectedDevices {c : CLIClient τ} {id : Identity} {d : SimulatedDevice}
    {devices : List ConnectedDevice} (h : FollowsCables c id d)
    (hcables : ∀ x ∈ devices, x ∈ c.cablesOf id) :
    FollowsCables c id (d.connectedDevices devices) := by
  constructor
  · rw [SimulatedDevice.deviceId_connectedDevices, h.deviceId]
  · rw [SimulatedDevice.role_connectedDevices]
    exact h.role
  · intro x hx
    rw [SimulatedDevice.role_connectedDevices]
    rcases SimulatedDevice.mem_out_connectedDevices hx with hx | ⟨hx, hsends⟩
    · exact h.out x hx
    · exact ⟨hcables x hx, hsends⟩
  · intro x hx
    rw [SimulatedDevice.role_connectedDevices]
    rcases SimulatedDevice.mem_in_connectedDevices hx with hx | ⟨hx, hreceives⟩
    · exact h.input x hx
    · exact ⟨hcables x hx, hreceives⟩
  · intro hrole x hx
    rw [SimulatedDevice.role_connectedDevices] at hrole
    rw [SimulatedDevice.connectedDevices_distribution hrole, List.mem_append, List.mem_append,
      h.both hrole x hx, List.mem_filter, List.mem_filter]
    simp [SendsTo, ReceivesFrom, hrole, hx]

/-- The connections name cables of the client. -/
def AreCables (c : CLIClient τ) (connections : List PowerConnection) : Prop :=
  ∀ pc ∈ connections, ∀ x ∈ pc.connectedDevices, x ∈ c.cablesOf pc.pdId

/-- What holds in every state of a network. -/
structure Inv (m : PowerNetwork τ) : Prop where
  wired : m.session.Wired
  reports : m.Reports m.session.client
  topologies : ∀ pt ∈ m.topologies, AreCables m.session.client pt.connections
  connections : AreCables m.session.client m.connections
  devices : ∀ id, ∀ d ∈ m.devices.find? id, FollowsCables m.session.client id d

/-- What the past of a network says about its present: the outputs that a device has had are cables,
and it has kept its role. -/
def Remembers (tr : List (Transition (PowerNetwork τ) Event)) (m : PowerNetwork τ) : Prop :=
  ∀ t ∈ tr, ∀ a, ∀ d ∈ t.source.devices.find? a,
    (∀ x ∈ d.connectedDevicesOut, x ∈ m.session.client.cablesOf a) ∧
      ∃ d' ∈ m.devices.find? a, d'.role = d.role

variable {m m' : PowerNetwork τ}

theorem inv_of_isInitial (h : m.IsInitial) : m.Inv := by
  obtain ⟨⟨id, hsession⟩, htopologies, hconnections, hdevices⟩ := h
  constructor
  · rw [hsession]
    exact CLISession.wired_new id
  · rw [hsession]
    exact fun e he => absurd he List.not_mem_nil
  · rw [htopologies]
    exact fun pt hpt => absurd hpt List.not_mem_nil
  · rw [hconnections]
    exact fun pc hpc => absurd hpc List.not_mem_nil
  · intro id' d hd
    obtain ⟨role, hrole, rfl⟩ := hdevices id' d hd
    exact ⟨rfl, hrole, nofun, nofun, fun _ x _ => Iff.rfl⟩

/-- A device changes, but not its role. -/
theorem Inv.modify {id : Identity} {f : SimulatedDevice → SimulatedDevice} (h : m.Inv)
    (hrole : ∀ d, (f d).role = d.role)
    (hf : ∀ d, FollowsCables m.session.client id d → FollowsCables m.session.client id (f d)) :
    Inv { m with devices := m.devices.modify id f } := by
  refine ⟨h.wired, fun e he => ?_, h.topologies, h.connections, fun id' d hd => ?_⟩
  · obtain ⟨d, hd, hd'⟩ := h.reports e he
    rw [Table.find?_modify]
    split_ifs with hid
    · rw [hid] at hd
      rw [Option.mem_def.mp hd]
      exact ⟨f d, rfl, by rw [hrole, hd']⟩
    · exact ⟨d, hd, hd'⟩
  · rw [Table.find?_modify] at hd
    split_ifs at hd with hid
    · obtain ⟨d', hd', rfl⟩ := Option.map_eq_some_iff.mp hd
      rw [hid]
      exact hf d' (h.devices id d' hd')
    · exact h.devices id' d hd

section InvSteps

variable [TimePoint τ]

/-- The session goes on, and the cables stay. -/
theorem Inv.session {e : CLISession.Event} {s : CLISession τ} (h : m.Inv)
    (hstep : m.session.Step e s) (hreports : m.Reports s.client) :
    Inv { m with session := s } := by
  have hmono : ∀ a, ∀ x ∈ m.session.client.cablesOf a, x ∈ s.client.cablesOf a :=
    fun a x hx => hstep.mem_cablesOf_iff.mpr (Or.inl hx)
  exact ⟨h.wired.step hstep, hreports,
    fun pt hpt pc hpc x hx => hmono _ x (h.topologies pt hpt pc hpc x hx),
    fun pc hpc x hx => hmono _ x (h.connections pc hpc x hx),
    fun id d hd => (h.devices id d hd).mono (hmono id)⟩

/-- The lists follow the cables after every step. -/
theorem Inv.step {e : Event} (h : m.Inv) (hstep : m.Step e m') : m'.Inv := by
  obtain ⟨henabled, rfl⟩ := hstep
  cases e with
  | cli e =>
    have hsession : m.session.Step e (m.session.after e) ∧
        m.Reports (m.session.after e).client := by
      cases e with
      | endConnectPd => exact henabled.elim
      | deviceInfo | heartbeat | listPd | startStop | connectPd | answer =>
        exact ⟨⟨henabled.1, rfl⟩, henabled.2⟩
    exact h.session hsession.1 hsession.2
  | endConnectPd now writeOk order connections =>
    obtain ⟨hend, -, hlists⟩ := henabled
    have hsession := h.session ⟨hend, rfl⟩ h.reports
    refine ⟨hsession.wired, hsession.reports, fun pt hpt => ?_, hsession.connections,
      hsession.devices⟩
    rcases List.mem_append.mp hpt with hpt | hpt
    · exact hsession.topologies pt hpt
    · have hsent := CLIClient.connections_forwardTopology _ (Option.mem_toList.mp hpt)
      rw [hsent]
      intro pc hpc x hx
      change x ∈ m.session.client.cablesOf pc.pdId
      rw [← (hlists.2 pc hpc).2, List.mem_toFinset]
      exact hx
  | topology mcId writeOk data =>
    refine ⟨h.wired, h.reports, h.topologies, fun pc hpc => ?_, h.devices⟩
    rcases List.mem_append.mp hpc with hpc | hpc
    · exact h.connections pc hpc
    · obtain ⟨s, hs, hvalid, hpc⟩ := Controller.exists_of_mem_ptOnDataAvailable hpc
      exact h.topologies s.data (henabled s hs hvalid) pc hpc
  | connection id data =>
    refine h.modify (fun d => ?_) fun d hd => ?_
    · rcases d.pcOnDataAvailable_cases data with heq | ⟨s, -, -, heq⟩
      · rw [heq]
      · rw [heq, SimulatedDevice.role_connectedDevices]
    · rcases d.pcOnDataAvailable_cases data with heq | ⟨s, hs, hown, heq⟩
      · rwa [heq]
      · rw [heq]
        refine hd.connectedDevices fun x hx => ?_
        have hcable := h.connections s.data (henabled s hs hown.1) x hx
        rwa [hown.2, hd.deviceId] at hcable
  | energyLevel id essl =>
    exact h.modify (fun d => rfl) fun d hd => ⟨hd.deviceId, hd.role, hd.out, hd.input, hd.both⟩

/-- Cables stay, and the devices keep their roles. -/
theorem Step.keeps {e : Event} (hstep : m.Step e m') :
    (∀ a, ∀ x ∈ m.session.client.cablesOf a, x ∈ m'.session.client.cablesOf a) ∧
      ∀ a, ∀ d ∈ m.devices.find? a, ∃ d' ∈ m'.devices.find? a, d'.role = d.role := by
  obtain ⟨henabled, rfl⟩ := hstep
  have hmodify : ∀ (id : Identity) (f : SimulatedDevice → SimulatedDevice),
      (∀ d, (f d).role = d.role) → ∀ a, ∀ d ∈ m.devices.find? a,
        ∃ d' ∈ (m.devices.modify id f).find? a, d'.role = d.role := by
    intro id f hrole a d hd
    rw [Table.find?_modify]
    split_ifs with hid
    · rw [← hid, Option.mem_def.mp hd]
      exact ⟨f d, rfl, hrole d⟩
    · exact ⟨d, hd, rfl⟩
  cases e with
  | cli e =>
    refine ⟨fun a x hx => ?_, fun a d hd => ⟨d, hd, rfl⟩⟩
    have hsession : m.session.Step e (m.session.after e) := by
      cases e with
      | endConnectPd => exact henabled.elim
      | deviceInfo | heartbeat | listPd | startStop | connectPd | answer => exact ⟨henabled.1, rfl⟩
    exact hsession.mem_cablesOf_iff.mpr (Or.inl hx)
  | endConnectPd => exact ⟨fun a x hx => hx, fun a d hd => ⟨d, hd, rfl⟩⟩
  | topology => exact ⟨fun a x hx => hx, fun a d hd => ⟨d, hd, rfl⟩⟩
  | connection id data =>
    refine ⟨fun a x hx => hx, hmodify id _ fun d => ?_⟩
    rcases d.pcOnDataAvailable_cases data with heq | ⟨s, -, -, heq⟩
    · rw [heq]
    · rw [heq, SimulatedDevice.role_connectedDevices]
  | energyLevel id essl => exact ⟨fun a x hx => hx, hmodify id _ fun d => rfl⟩

theorem inv_of_run {tr : List (Transition (PowerNetwork τ) Event)} (h : IsNetworkRun tr m) :
    m.Inv := by
  obtain ⟨m₀, h₀, hrun⟩ := h
  exact hrun.invariant (inv_of_isInitial h₀) fun _ _ _ hinv hstep => hinv.step hstep

theorem inv_of_mem {tr : List (Transition (PowerNetwork τ) Event)} (h : IsNetworkRun tr m)
    {t : Transition (PowerNetwork τ) Event} (ht : t ∈ tr) : t.source.Inv := by
  obtain ⟨m₀, h₀, hrun⟩ := h
  obtain ⟨pre, hbefore, -⟩ := hrun.of_mem ht
  exact inv_of_run ⟨m₀, h₀, hbefore⟩

theorem remembers_of_run {tr : List (Transition (PowerNetwork τ) Event)} (h : IsNetworkRun tr m) :
    Remembers tr m := by
  obtain ⟨m₀, h₀, hrun⟩ := h
  refine hrun.traceInvariant (P := Remembers) (fun t ht => absurd ht List.not_mem_nil)
    fun tr m e m' hrun hpast hstep => ?_
  obtain ⟨hcables, hroles⟩ := hstep.keeps
  intro t ht a d hd
  rcases List.mem_append.mp ht with ht | ht
  · obtain ⟨hout, d', hd', hrole⟩ := hpast t ht a d hd
    obtain ⟨d'', hd'', hrole'⟩ := hroles a d' hd'
    exact ⟨fun x hx => hcables a x (hout x hx), d'', hd'', hrole'.trans hrole⟩
  · obtain rfl := List.mem_singleton.mp ht
    have hinv := inv_of_run ⟨m₀, h₀, hrun⟩
    exact ⟨fun x hx => hcables a x ((hinv.devices a d hd).out x hx).1, hroles a d hd⟩

end InvSteps

/-- A cable ends at another device of the network, with the role that the cable names. -/
theorem Inv.exists_device (h : m.Inv) {a : Identity} {x : ConnectedDevice}
    (hx : x ∈ m.session.client.cablesOf a) : x.id ≠ a ∧ ∃ d ∈ m.devices.find? x.id,
      d.role = x.role := by
  have hwiring := h.wired.validWiring
  obtain ⟨pd, hpd, heq⟩ := Option.map_eq_some_iff.mp (hwiring.role a x hx)
  obtain ⟨d, hd, hrole⟩ := h.reports ⟨x.id, pd⟩ (Table.mem_entries_iff.mpr hpd)
  exact ⟨hwiring.irrefl a x hx, d, hd, by rw [hrole, ← heq]⟩

end PowerNetwork

end TacticalMicrogrid
