import TacticalMicrogrid.PowerDevices.Relaying
import Mathlib.Data.List.Chain

/-!
# Which loads are supplied

A device decides from the last two entries of a path whether a current is for it, and it knows its
own connections only. Once every device has taken its connections, what the devices do together is
what the operator has built: a load receives a current along a path exactly if the path is a line of
cables from a source to the load that passes through distribution devices only, all of them
operational.

## Main definitions

* `PowerNetwork.TakesCable`: the device takes a connection with the cable.
* `PowerNetwork.IsSupplyLine`: a line of cables from a source to a load.
* `PowerNetwork.Receives`: the load counts a current with the path as received.

## Main results

* `PowerNetwork.lists_of_run`: a device that has taken its cables lists them in their directions.
* `PowerNetwork.receives_iff_of_run`: the paths to a load are the supply lines.
-/

namespace TacticalMicrogrid

open TransitionSystem Descent

/-! ### Lists that only grow -/

namespace SimulatedDevice

variable {d : SimulatedDevice} {devices : List ConnectedDevice} {x : ConnectedDevice}

/-- A device with one port keeps a peer once it has one. -/
theorem plug_ne_nil (other : ConnectedDevice) (l : List ConnectedDevice) : plug other l ≠ [] := by
  cases l with
  | nil => exact List.cons_ne_nil other []
  | cons a l => exact List.cons_ne_nil other l

/-- What a device knows of its connection to a peer: a device with one port has some peer in the
direction of the connection, and a distribution device has this one. -/
structure Lists (d : SimulatedDevice) (x : ConnectedDevice) : Prop where
  source : d.role = .source → d.connectedDevicesOut ≠ []
  load : d.role = .load → d.connectedDevicesIn ≠ []
  out : d.role = .distribution → SendsTo d.role x.role → x ∈ d.connectedDevicesOut
  input : d.role = .distribution → ReceivesFrom d.role x.role → x ∈ d.connectedDevicesIn

theorem Lists.connectOne (h : d.Lists x) (other : ConnectedDevice) :
    (d.connectOne other).Lists x := by
  rw [connectOne_eq]
  constructor <;> simp only
  · intro hrole
    rw [if_pos hrole]
    exact plug_ne_nil other _
  · intro hrole
    rw [if_pos hrole]
    exact plug_ne_nil other _
  · intro hrole hsends
    rw [if_neg (by rw [hrole]; decide)]
    split_ifs
    · exact List.mem_append_left _ (h.out hrole hsends)
    · exact h.out hrole hsends
  · intro hrole hreceives
    rw [if_neg (by rw [hrole]; decide)]
    split_ifs
    · exact List.mem_append_left _ (h.input hrole hreceives)
    · exact h.input hrole hreceives

/-- Setting the connection to a peer lists it. -/
theorem lists_connectOne (d : SimulatedDevice) (x : ConnectedDevice) :
    (d.connectOne x).Lists x := by
  rw [connectOne_eq]
  constructor <;> simp only
  · intro hrole
    rw [if_pos hrole]
    exact plug_ne_nil x _
  · intro hrole
    rw [if_pos hrole]
    exact plug_ne_nil x _
  · intro hrole hsends
    rw [if_neg (by rw [hrole]; decide), if_pos hsends]
    exact List.mem_append_right _ List.mem_cons_self
  · intro hrole hreceives
    rw [if_neg (by rw [hrole]; decide), if_pos hreceives]
    exact List.mem_append_right _ List.mem_cons_self

theorem Lists.connectedDevices (h : d.Lists x) (devices : List ConnectedDevice) :
    (d.connectedDevices devices).Lists x := by
  rw [SimulatedDevice.connectedDevices]
  induction devices generalizing d with
  | nil => exact h
  | cons other devices ih => exact ih (h.connectOne other)

theorem lists_connectedDevices (hx : x ∈ devices) : (d.connectedDevices devices).Lists x := by
  obtain ⟨before, rest, rfl⟩ := List.append_of_mem hx
  rw [SimulatedDevice.connectedDevices, List.foldl_append, List.foldl_cons]
  exact (lists_connectOne _ x).connectedDevices rest

end SimulatedDevice

namespace PowerNetwork

variable {τ : Type}

/-! ### Connections that have been taken -/

/-- The connection of a batch that a device obeys: the first one that is its own. -/
def obeyed (a : Identity) (data : List (Sample PowerConnection)) : List ConnectedDevice :=
  match data.find? fun s => s.validData ∧ s.data.pdId = a with
  | some s => s.data.connectedDevices
  | none => []

/-- The device takes a connection with the cable. -/
def TakesCable (a : Identity) (x : ConnectedDevice) : Event → Prop
  | .connection id data => id = a ∧ x ∈ obeyed a data
  | _ => False

instance (a : Identity) (x : ConnectedDevice) : (e : Event) → Decidable (TakesCable a x e)
  | .connection _ _ => inferInstanceAs (Decidable (_ ∧ _))
  | .cli _ | .endConnectPd _ _ _ _ | .topology _ _ _ | .energyLevel _ _ => isFalse id

theorem pcOnDataAvailable_eq_obeyed {d : SimulatedDevice} (data : List (Sample PowerConnection)) :
    d.pcOnDataAvailable data = d.connectedDevices (obeyed d.deviceId data) := by
  rw [SimulatedDevice.pcOnDataAvailable_eq, obeyed]
  change (match data.find? fun s => decide (s.validData = true ∧ s.data.pdId = d.deviceId) with
    | some s => d.connectedDevices s.data.connectedDevices
    | none => d) = _
  cases data.find? fun s => decide (s.validData = true ∧ s.data.pdId = d.deviceId) with
  | none => rfl
  | some s => rfl

/-- The device has taken all its cables. -/
def HasTakenCables (tr : List (Transition (PowerNetwork τ) Event)) (m : PowerNetwork τ)
    (a : Identity) : Prop :=
  ∀ x ∈ m.session.client.cablesOf a, ∃ t ∈ tr, TakesCable a x t.label

instance (tr : List (Transition (PowerNetwork τ) Event)) (m : PowerNetwork τ) (a : Identity) :
    Decidable (HasTakenCables tr m a) :=
  inferInstanceAs (Decidable (∀ x ∈ m.session.client.cablesOf a, ∃ t ∈ tr, _))

section Runs

variable [TimePoint τ] {m m' : PowerNetwork τ} {tr : List (Transition (PowerNetwork τ) Event)}
  {a b : Identity} {x : ConnectedDevice}

/-- A device lists what it has listed, and a cable that it takes. -/
theorem Step.lists {e : Event} (hstep : m.Step e m') (hid : ∀ d ∈ m.devices.find? a, d.deviceId = a)
    (h : TakesCable a x e ∨ ∀ d ∈ m.devices.find? a, d.Lists x) :
    ∀ d ∈ m'.devices.find? a, d.Lists x := by
  obtain ⟨-, rfl⟩ := hstep
  cases e with
  | cli | endConnectPd | topology => exact h.resolve_left id
  | connection id data =>
    intro d hd
    rw [after, Table.find?_modify] at hd
    split_ifs at hd with ha
    · obtain ⟨d', hd', rfl⟩ := Option.map_eq_some_iff.mp hd
      rw [← ha] at hd'
      rw [pcOnDataAvailable_eq_obeyed, hid d' hd']
      rcases h with ⟨-, hx⟩ | h
      · exact SimulatedDevice.lists_connectedDevices hx
      · exact (h d' hd').connectedDevices _
    · rcases h with ⟨rfl, -⟩ | h
      · exact absurd rfl ha
      · exact h d hd
  | energyLevel id essl =>
    intro d hd
    rw [after, Table.find?_modify] at hd
    replace h := h.resolve_left (by simp [TakesCable])
    split_ifs at hd with ha
    · obtain ⟨d', hd', rfl⟩ := Option.map_eq_some_iff.mp hd
      rw [← ha] at hd'
      obtain ⟨hsource, hload, hout, hin⟩ := h d' hd'
      exact ⟨hsource, hload, hout, hin⟩
    · exact h d hd

/-- A device goes on listing a cable that it has taken. -/
theorem lists_of_run (h : IsNetworkRun tr m) (hx : ∃ t ∈ tr, TakesCable a x t.label) :
    ∀ d ∈ m.devices.find? a, d.Lists x := by
  obtain ⟨m₀, h₀, hrun⟩ := h
  refine hrun.traceInvariant (P := fun tr m => (∃ t ∈ tr, TakesCable a x t.label) →
    ∀ d ∈ m.devices.find? a, d.Lists x) (fun ⟨t, ht, _⟩ => absurd ht List.not_mem_nil) ?_ hx
  intro tr m e m' hrun ih hstep htakes
  have hinv := inv_of_run ⟨m₀, h₀, hrun⟩
  refine hstep.lists (fun d hd => (hinv.devices a d hd).deviceId) ?_
  obtain ⟨t, ht, htakes⟩ := htakes
  rcases List.mem_append.mp ht with ht | ht
  · exact Or.inr (ih ⟨t, ht, htakes⟩)
  · obtain rfl := List.mem_singleton.mp ht
    exact Or.inl htakes

end Runs

/-! ### Supply lines -/

section Lines

variable (m : PowerNetwork τ)

/-- The device has the role, and is operational. -/
def Operates (role : DeviceRole) (a : Identity) : Prop :=
  ∃ d ∈ m.devices.find? a, d.role = role ∧ d.essl = .operational

/-- There is a cable between the devices. -/
def HasCable (a b : Identity) : Prop := ∃ x ∈ m.session.client.cablesOf a, x.id = b

/-- The path goes from the device over operational distribution devices, by cables. -/
def IsLine (a b : Identity) (hubs path : List Identity) : Prop :=
  path = a :: (hubs ++ [b]) ∧ (∀ c ∈ hubs, m.Operates .distribution c) ∧ path.IsChain m.HasCable

/-- The path is a line of cables from an operational source over operational distribution devices to
the load, which is operational. -/
def IsSupplyLine (b : Identity) (path : List Identity) : Prop :=
  ∃ a hubs, m.IsLine a b hubs path ∧ m.Operates .source a ∧ m.Operates .load b

instance (role : DeviceRole) (a : Identity) : Decidable (m.Operates role a) :=
  inferInstanceAs (Decidable (∃ d ∈ m.devices.find? a, _))

instance (a b : Identity) : Decidable (m.HasCable a b) :=
  inferInstanceAs (Decidable (∃ x ∈ m.session.client.cablesOf a, _))

instance (a b : Identity) (hubs path : List Identity) : Decidable (m.IsLine a b hubs path) :=
  inferInstanceAs (Decidable (_ ∧ _ ∧ _))

/-- The load counts a current with the path as received: one that an operational source emits, or
that descends from it. -/
def Receives (tr : List (Transition (PowerNetwork τ) Event)) (b : Identity)
    (path : List Identity) : Prop :=
  ∃ a ec ec', m.Operates .source a ∧ Emits tr m a ec ∧ Descends m.relays ec ec' ∧
    ec'.powerPath = path ∧ ∃ d ∈ m.devices.find? b, d.role = .load ∧ d.essl = .operational ∧
      d.counts ec' = true

end Lines

section Cables

variable {m : PowerNetwork τ} {a b c : Identity} {x y : ConnectedDevice} {d : SimulatedDevice}
  {ec ec' : ElectricCurrent} {hubs path : List Identity}

/-- A cable is entered at both ends, with the roles of the devices. -/
theorem Inv.exists_symm (h : m.Inv) (hx : x ∈ m.session.client.cablesOf a) :
    ∃ y ∈ m.session.client.cablesOf x.id, y.id = a ∧ ∃ d ∈ m.devices.find? a, d.role = y.role := by
  have hwiring := h.wired.validWiring
  obtain ⟨y, hy⟩ := Option.isSome_iff_exists.mp
    (hwiring.known a (Finset.ne_empty_of_mem hx))
  have hcable := (hwiring.symm a x.id y hy x (hwiring.role a x hx)).mp hx
  have hid := CLIClient.id_of_deviceOf hy
  obtain ⟨-, d, hd, hrole⟩ := h.exists_device hcable
  rw [hid] at hd
  exact ⟨y, hcable, hid, d, hd, hrole⟩

theorem Inv.hasCable_symm (h : m.Inv) (hcable : m.HasCable a b) : m.HasCable b a := by
  obtain ⟨x, hx, rfl⟩ := hcable
  obtain ⟨y, hy, hid, -⟩ := h.exists_symm hx
  exact ⟨y, hy, hid⟩

/-- A cable names the role of the device at its other end. -/
theorem Inv.role_of_cable (h : m.Inv) (hx : x ∈ m.session.client.cablesOf a)
    (hd : m.devices.find? x.id = some d) : x.role = d.role := by
  obtain ⟨-, d', hd', hrole⟩ := h.exists_device hx
  obtain rfl := Option.some.inj (hd.symm.trans hd')
  exact hrole.symm

/-- A source or a load has one cable at most. -/
theorem Inv.cable_unique (h : m.Inv) (hd : m.devices.find? a = some d)
    (hrole : d.role = .source ∨ d.role = .load) (hx : x ∈ m.session.client.cablesOf a)
    (hy : y ∈ m.session.client.cablesOf a) : x = y := by
  have hwiring := h.wired.validWiring
  obtain ⟨own, hown⟩ := Option.isSome_iff_exists.mp
    (hwiring.known a (Finset.ne_empty_of_mem hx))
  obtain ⟨pd, hpd, rfl⟩ := Option.map_eq_some_iff.mp hown
  obtain ⟨d', hd', hreported⟩ := h.reports ⟨a, pd⟩ (Table.mem_entries_iff.mpr hpd)
  obtain rfl := Option.some.inj (hd.symm.trans hd')
  have hsingle := hwiring.single a _ hown (by
    change CLIClient.isSinglePortDevice pd.deviceInfo.role = true
    rcases hrole with hrole | hrole <;> rw [← hreported, hrole] <;> rfl)
  exact Finset.card_le_one.mp hsingle x hx y hy

/-- The first output of a source is the device at the end of its cable. -/
theorem Inv.head?_out (h : m.Inv) (hd : m.devices.find? a = some d) (hrole : d.role = .source)
    (hx : x ∈ m.session.client.cablesOf a) (hlists : d.Lists x) :
    d.connectedDevicesOut.head? = some x := by
  obtain ⟨y, l, hout⟩ := List.exists_cons_of_ne_nil (hlists.source hrole)
  have hy := ((h.devices a d hd).out y (hout ▸ List.mem_cons_self)).1
  rw [hout, List.head?_cons, h.cable_unique hd (Or.inl hrole) hy hx]

/-- The input device of a load is the one at the end of its cable. -/
theorem Inv.connectedDevId_eq (h : m.Inv) (hd : m.devices.find? b = some d) (hrole : d.role = .load)
    (hx : x ∈ m.session.client.cablesOf b) (hlists : d.Lists x) : d.connectedDevId = x.id := by
  obtain ⟨y, l, hin⟩ := List.exists_cons_of_ne_nil (hlists.load hrole)
  have hy := ((h.devices b d hd).input y (hin ▸ List.mem_cons_self)).1
  rw [SimulatedDevice.connectedDevId, hin, List.head?_cons, h.cable_unique hd (Or.inr hrole) hy hx]
  rfl

/-- A distribution device relays a current from the other end of a cable, unless this is a load. -/
theorem Inv.relaysFrom_of_hasCable (h : m.Inv) (hhub : m.Operates .distribution b)
    (hlists : ∀ d ∈ m.devices.find? b, ∀ x ∈ m.session.client.cablesOf b, d.Lists x)
    (hcable : m.HasCable b a) (ha : ∃ d ∈ m.devices.find? a, d.role = .source ∨
      d.role = .distribution) : m.RelaysFrom b a := by
  obtain ⟨d, hd, hrole, hlevel⟩ := hhub
  obtain ⟨x, hx, rfl⟩ := hcable
  obtain ⟨d', hd', hrole'⟩ := ha
  rw [← h.role_of_cable hx hd'] at hrole'
  exact ⟨d, hd, hrole, hlevel, x, (hlists d hd x hx).input hrole (Or.inr ⟨hrole, hrole'⟩), rfl⟩

/-- A distribution device sends power over a cable, unless this ends at a source. -/
theorem Inv.sendsPower_of_hasCable (h : m.Inv) (hhub : m.Operates .distribution b)
    (hlists : ∀ d ∈ m.devices.find? b, ∀ x ∈ m.session.client.cablesOf b, d.Lists x)
    (hcable : m.HasCable b c) (hc : ∃ d ∈ m.devices.find? c, d.role = .load ∨
      d.role = .distribution) : m.SendsPower b c := by
  obtain ⟨d, hd, hrole, -⟩ := hhub
  obtain ⟨x, hx, rfl⟩ := hcable
  obtain ⟨d', hd', hrole'⟩ := hc
  rw [← h.role_of_cable hx hd'] at hrole'
  exact ⟨d, hd, x, (hlists d hd x hx).out hrole (Or.inr ⟨hrole, hrole'⟩), rfl⟩

/-! ### Currents and lines -/

theorem IsLine.concat (h : m.IsLine a b hubs path) (hhub : m.Operates .distribution b)
    (hcable : m.HasCable b c) : m.IsLine a c (hubs ++ [b]) (path ++ [c]) := by
  obtain ⟨rfl, hhubs, hchain⟩ := h
  refine ⟨by simp, fun c' hc' => ?_, List.isChain_append.mpr ⟨hchain, List.isChain_singleton c, ?_⟩⟩
  · rcases List.mem_append.mp hc' with hc' | hc'
    · exact hhubs c' hc'
    · rwa [List.mem_singleton.mp hc']
  · intro last hlast next hnext
    rw [← List.cons_append, List.getLast?_concat] at hlast
    obtain rfl := Option.some.inj hlast
    obtain rfl := Option.some.inj hnext
    exact hcable

/-- The device before the end of a line is joined to it; it is the source or a distribution
device. -/
theorem IsLine.exists_before (h : m.IsLine a b hubs path) :
    ∃ pre p, path = pre ++ [p, b] ∧ m.HasCable p b ∧ (p = a ∨ m.Operates .distribution p) := by
  obtain ⟨rfl, hhubs, hchain⟩ := h
  have hne := List.cons_ne_nil a hubs
  have hmem : (a :: hubs).getLast hne ∈ a :: hubs := List.getLast_mem hne
  rw [← List.cons_append] at hchain
  refine ⟨(a :: hubs).dropLast, (a :: hubs).getLast hne, ?_, ?_, ?_⟩
  · rw [← List.cons_append]
    conv_lhs => rw [← List.dropLast_append_getLast hne, List.append_assoc]
    rfl
  · exact (List.isChain_append.mp hchain).2.2 _ (List.getLast?_eq_some_getLast hne) b rfl
  · rcases List.mem_cons.mp hmem with heq | hmem
    · exact Or.inl heq
    · exact Or.inr (hhubs _ hmem)

/-- The path of a current is a line. -/
theorem Inv.isLine_of_descends (h : m.Inv) (hpath : ec.powerPath = [a, b])
    (hcable : m.HasCable a b) (hec : Descends m.relays ec ec') :
    ∃ hubs c, m.IsLine a c hubs ec'.powerPath := by
  refine hec.induction_on (P := fun ec' => ∃ hubs c, m.IsLine a c hubs ec'.powerPath)
    ⟨[], b, hpath, nofun, hpath ▸ List.isChain_pair.mpr hcable⟩ ?_
  rintro ec₁ ec₂ - ⟨hubs, c, hline⟩ hrelay
  obtain ⟨pre, a', b', x, hpath₁, ⟨d, hd, hrole, hlevel, -⟩, ⟨d', hd', y, hy, rfl⟩, hpath₂⟩ :=
    h.path_of_mem_relays hrelay
  have hlast : c = b' := by
    have hends := congrArg List.getLast? (hline.1.symm.trans hpath₁)
    rw [← List.cons_append, List.getLast?_concat] at hends
    simpa using hends
  obtain rfl := hlast
  rw [hpath₂]
  exact ⟨_, _, hline.concat ⟨d, hd, hrole, hlevel⟩ ⟨y, ((h.devices c d' hd').out y hy).1, rfl⟩⟩

/-- Along every line that does not end at a source, the devices relay what the source emits. -/
theorem Inv.exists_descends (h : m.Inv)
    (hlists : ∀ a, ∀ d ∈ m.devices.find? a, ∀ x ∈ m.session.client.cablesOf a, d.Lists x)
    (hd : m.devices.find? a = some d) (hrole : d.role = .source) (hline : m.IsLine a b hubs path)
    (hb : ∃ d ∈ m.devices.find? b, d.role = .load ∨ d.role = .distribution) :
    ∃ ec, d.emission d.connectedDevicesOut = some ec ∧
      ∃ ec', Descends m.relays ec ec' ∧ ec'.powerPath = path := by
  induction hubs using List.reverseRecOn generalizing b path with
  | nil =>
    obtain ⟨rfl, -, hchain⟩ := hline
    obtain ⟨x, hx, rfl⟩ := List.isChain_pair.mp hchain
    rw [SimulatedDevice.emission, h.head?_out hd hrole hx (hlists a d hd x hx)]
    exact ⟨_, rfl, _, Descends.refl, by rw [(h.devices a d hd).deviceId]; rfl⟩
  | append_singleton hubs c ih =>
    obtain ⟨rfl, hhubs, hchain⟩ := hline
    have hsplit : a :: (hubs ++ [c] ++ [b]) = (a :: (hubs ++ [c])) ++ [b] := by simp
    rw [hsplit] at hchain
    obtain ⟨hchain', -, hlast⟩ := List.isChain_append.mp hchain
    have hc := hhubs c (List.mem_append_right hubs List.mem_cons_self)
    have hcb : m.HasCable c b :=
      hlast c (by rw [← List.cons_append, List.getLast?_concat]; rfl) b rfl
    have hline' : m.IsLine a c hubs (a :: (hubs ++ [c])) :=
      ⟨rfl, fun c' hc' => hhubs c' (List.mem_append_left _ hc'), hchain'⟩
    obtain ⟨ec, hec, ec₁, hdescends, hpath₁⟩ := ih hline' <| by
      obtain ⟨dc, hdc, hcrole, -⟩ := hc
      exact ⟨dc, hdc, Or.inr hcrole⟩
    obtain ⟨pre, p, hpath, hpc, hp⟩ := hline'.exists_before
    have hprole : ∃ d ∈ m.devices.find? p, d.role = .source ∨ d.role = .distribution := by
      rcases hp with rfl | ⟨dp, hdp, hrole', -⟩
      · exact ⟨d, hd, Or.inl hrole⟩
      · exact ⟨dp, hdp, Or.inr hrole'⟩
    have hrelays := h.relaysFrom_of_hasCable hc (hlists c) (h.hasCable_symm hpc) hprole
    have hsends := h.sendsPower_of_hasCable hc (hlists c) hcb hb
    obtain ⟨ec₂, hec₂, hpath₂⟩ := h.exists_mem_relays (hpath₁.trans hpath) hrelays hsends
    exact ⟨ec, hec, ec₂, hdescends.step hec₂, by rw [hpath₂, hpath₁, hsplit]⟩

end Cables

/-- What a source emits goes over its cable. -/
theorem Emits.exists_cable [TimePoint τ] {tr : List (Transition (PowerNetwork τ) Event)}
    {m : PowerNetwork τ} {a : Identity} {ec : ElectricCurrent} (h : IsNetworkRun tr m)
    (hec : Emits tr m a ec) : ∃ b, ec.powerPath = [a, b] ∧ m.HasCable a b := by
  obtain ⟨d, hd, -, hec⟩ := hec
  obtain ⟨x, hx, rfl⟩ := Option.map_eq_some_iff.mp hec
  have hmem := List.mem_of_mem_head? hx
  rcases hd with hd | ⟨t, ht, hd⟩
  · have hfollows := (inv_of_run h).devices a d hd
    exact ⟨x.id, by rw [hfollows.deviceId], x, (hfollows.out x hmem).1, rfl⟩
  · have hid := ((inv_of_mem h ht).devices a d hd).deviceId
    exact ⟨x.id, by rw [hid], x, (remembers_of_run h t ht a d hd).1 x hmem, rfl⟩

/-- **Supply.** In every network that an operator can build, once every device has taken its
cables, a load receives a current along a path exactly if the path is a line of cables from an
operational source over operational distribution devices to the load. -/
theorem receives_iff_of_run [TimePoint τ] {tr : List (Transition (PowerNetwork τ) Event)}
    {m : PowerNetwork τ} (h : IsNetworkRun tr m)
    (htaken : ∀ a ∈ m.devices.keys, HasTakenCables tr m a) (b : Identity) (path : List Identity) :
    m.Receives tr b path ↔ m.IsSupplyLine b path := by
  have hinv := inv_of_run h
  have hlists : ∀ a, ∀ d ∈ m.devices.find? a, ∀ x ∈ m.session.client.cablesOf a, d.Lists x :=
    fun a d hd x hx => lists_of_run h
      (htaken a (AList.mem_keys.mp (Table.mem_of_find? hd)) x hx) d hd
  constructor
  · rintro ⟨a, ec, ec', hsource, hec, hdescends, rfl, d, hd, hload, hlevel, hcounts⟩
    obtain ⟨b', hpath, hcable⟩ := hec.exists_cable h
    obtain ⟨hubs, c, hline⟩ := hinv.isLine_of_descends hpath hcable hdescends
    obtain ⟨pre, hends⟩ := SimulatedDevice.counts_iff.mp hcounts
    have hlast := congrArg List.getLast? (hline.1.symm.trans hends)
    rw [← List.cons_append, List.getLast?_concat, (hinv.devices b d hd).deviceId] at hlast
    obtain rfl : c = b := by simpa using hlast
    exact ⟨a, hubs, hline, hsource, d, hd, hload, hlevel⟩
  · rintro ⟨a, hubs, hline, ⟨da, hda, hsource, hlevel⟩, d, hd, hload, hlevel'⟩
    obtain ⟨ec, hec, ec', hdescends, hpath⟩ :=
      hinv.exists_descends hlists hda hsource hline ⟨d, hd, Or.inl hload⟩
    obtain ⟨pre, p, hends, hcable, -⟩ := hline.exists_before
    obtain ⟨x, hx, hid⟩ := hinv.hasCable_symm hcable
    have hpeer := hinv.connectedDevId_eq hd hload hx (hlists b d hd x hx)
    refine ⟨a, ec, ec', ⟨da, hda, hsource, hlevel⟩, ⟨da, Or.inl hda, hsource, hec⟩, hdescends,
      hpath, d, hd, hload, hlevel', SimulatedDevice.counts_iff.mpr ⟨pre, ?_⟩⟩
    rw [hpath, hends, hpeer, hid, (hinv.devices b d hd).deviceId]

/-- A lamp at a distribution device with a source receives power from the source. -/
theorem receives_of_hub : ∃ (tr : List (Transition (PowerNetwork ExactTime) Event))
      (m : PowerNetwork ExactTime), IsNetworkRun tr m ∧
    (∀ a ∈ m.devices.keys, HasTakenCables tr m a) ∧
    m.Receives tr "lamp" ["gen", "hub", "lamp"] ∧ ¬m.Receives tr "lamp" ["gen", "lamp"] := by
  have h₀ : hub.IsInitial := isInitial_ofDevices (by decide)
  obtain ⟨tr, m, hrun, htaken, hline, hsource, hload, hnot⟩ :=
    exists_isRun_of_follow step_of_next?
      (P := fun tr m => (∀ a ∈ m.devices.keys, HasTakenCables tr m a) ∧
        m.IsLine "gen" "lamp" ["hub"] ["gen", "hub", "lamp"] ∧ m.Operates .source "gen" ∧
          m.Operates .load "lamp" ∧ ¬m.HasCable "gen" "lamp")
      (s := hub) (connectEvents [⟨"gen", .source⟩, ⟨"hub", .distribution⟩, ⟨"lamp", .load⟩]
        ["y", "", "Y"] [⟨"gen", [⟨"hub", .distribution⟩]⟩,
          ⟨"hub", [⟨"gen", .source⟩, ⟨"lamp", .load⟩]⟩, ⟨"lamp", [⟨"hub", .distribution⟩]⟩])
      (by decide +kernel)
  have hnetwork : IsNetworkRun tr m := ⟨_, h₀, hrun⟩
  refine ⟨tr, m, hnetwork, htaken, (receives_iff_of_run hnetwork htaken _ _).mpr
    ⟨"gen", ["hub"], hline, hsource, hload⟩, fun hreceives => hnot ?_⟩
  obtain ⟨a, hubs, ⟨hpath, -, hchain⟩, -⟩ :=
    (receives_iff_of_run hnetwork htaken _ _).mp hreceives
  exact List.isChain_pair.mp hchain

end PowerNetwork

end TacticalMicrogrid
