import TacticalMicrogrid.Library.Descent
import TacticalMicrogrid.PowerDevices.PowerNetwork

/-!
# Relaying over the network

A current descends from another one if a distribution device relays it. An operator may connect two
distribution devices. Each of them is then an input and an output of the other one, so they return a
current to each other without end. Where no source feeds such a pair, a current has at most three
devices on its path: the source, a distribution device and a load.

## Main definitions

* `PowerNetwork.relays`: the currents that the devices write when they take one.
* `PowerNetwork.RelayingEnds`.
* `PowerNetwork.Echoes`: a source feeds two connected distribution devices.

## Main results

* `PowerNetwork.Inv.relayingEnds`: relaying ends where there is no echo.
* `PowerNetwork.Inv.generation_ne_nil_of_echoes`: an echo does not end.
* `PowerNetwork.relayingEnds_iff_of_run`.
-/

namespace TacticalMicrogrid

open TransitionSystem Descent

namespace PowerNetwork

variable {τ : Type} (m : PowerNetwork τ)

/-- The currents that the distribution devices write when all devices take a current. -/
def relays (ec : ElectricCurrent) : List ElectricCurrent :=
  m.devices.entries.flatMap fun e =>
    if e.2.role = .distribution then e.2.ecOnDataAvailable [⟨ec, true⟩] else []

/-- In the run `tr` that ends in `m`, the source `a` emits a current: the list of the devices that
it sends power to may be from any time of the run. -/
def Emits (tr : List (Transition (PowerNetwork τ) Event)) (m : PowerNetwork τ) (a : Identity)
    (ec : ElectricCurrent) : Prop :=
  ∃ d, (m.devices.find? a = some d ∨ ∃ t ∈ tr, t.source.devices.find? a = some d) ∧
    d.role = .source ∧ d.emission d.connectedDevicesOut = some ec

/-- Relaying a current ends: no device is twice on the path of a current that descends from it, so
that no path is longer than there are devices, and finitely many currents descend from it. -/
structure RelayingEnds (ec : ElectricCurrent) : Prop where
  nodup : ∀ ec', Descends m.relays ec ec' → ec'.powerPath.Nodup
  length_le : ∀ ec', Descends m.relays ec ec' → ec'.powerPath.length ≤ m.devices.keys.length
  ends : ∃ n, generation m.relays ec n = []
  finite : {ec' | Descends m.relays ec ec'}.Finite

/-- A distribution device that relays currents from another device. -/
def RelaysFrom (b : Identity) (a : Identity) : Prop :=
  ∃ d ∈ m.devices.find? b, d.role = .distribution ∧ d.essl = .operational ∧ d.HasIn a

/-- The device sends power to another one. -/
def SendsPower (a b : Identity) : Prop := ∃ d ∈ m.devices.find? a, d.HasOut b

/-- The source `a` feeds the distribution device `b`, which is connected to another distribution
device. -/
def Echoes (a b : Identity) : Prop :=
  m.RelaysFrom b a ∧ ∃ c, m.SendsPower b c ∧ m.RelaysFrom c b

variable {m}

/-! ### Relayed paths -/

section Relays

variable {a b c : Identity} {ec ec' : ElectricCurrent}

/-- What is relayed has a path to a distribution device and one of its outputs behind it. -/
theorem Inv.path_of_mem_relays (h : m.Inv) (hec : ec' ∈ m.relays ec) : ∃ pre a b x,
    ec.powerPath = pre ++ [a, b] ∧ m.RelaysFrom b a ∧ m.SendsPower b x ∧
      ec'.powerPath = ec.powerPath ++ [x] := by
  obtain ⟨⟨b, d⟩, hentry, hec⟩ := List.mem_flatMap.mp hec
  have hd := Table.mem_entries_iff.mp hentry
  simp only at hec
  split_ifs at hec with hrole
  · rw [SimulatedDevice.ecOnDataAvailable] at hec
    split_ifs at hec with hlevel
    · cases hec
    · obtain ⟨s, hs, hec⟩ := List.mem_flatMap.mp hec
      obtain rfl := List.mem_singleton.mp (List.mem_filter.mp hs).1
      obtain ⟨pre, a, hpath, hin, x, hx, rfl⟩ := SimulatedDevice.mem_relay.mp hec
      rw [(h.devices b d hd).deviceId] at hpath
      exact ⟨pre, a, b, x.id, hpath, ⟨d, hd, hrole, not_not.mp hlevel, hin⟩, ⟨d, hd, x, hx, rfl⟩,
        rfl⟩
  · cases hec

/-- A distribution device relays a current from an input to every output. -/
theorem Inv.exists_mem_relays (h : m.Inv) {pre : List Identity} {x : Identity}
    (hpath : ec.powerPath = pre ++ [a, b]) (hrelays : m.RelaysFrom b a)
    (hsends : m.SendsPower b x) :
    ∃ ec' ∈ m.relays ec, ec'.powerPath = ec.powerPath ++ [x] := by
  obtain ⟨d, hd, hrole, hlevel, hin⟩ := hrelays
  obtain ⟨d', hd', y, hy, rfl⟩ := hsends
  obtain rfl := Option.some.inj (hd.symm.trans hd')
  refine ⟨⟨ec.powerPath ++ [y.id], ec.amperage / d.connectedDevicesOut.length⟩, ?_, rfl⟩
  refine List.mem_flatMap.mpr ⟨⟨b, d⟩, Table.mem_entries_iff.mpr hd, ?_⟩
  simp only [if_pos hrole, SimulatedDevice.ecOnDataAvailable, hlevel]
  refine List.mem_flatMap.mpr ⟨⟨ec, true⟩, by simp, SimulatedDevice.mem_relay.mpr ?_⟩
  exact ⟨pre, a, by rw [hpath, (h.devices b d hd).deviceId], hin, y, hy, rfl⟩

/-- A device sends power to another device of the network. -/
theorem Inv.of_sendsPower (h : m.Inv) (hsends : m.SendsPower a b) :
    b ≠ a ∧ b ∈ m.devices.keys := by
  obtain ⟨d, hd, x, hx, rfl⟩ := hsends
  obtain ⟨hne, d', hd', -⟩ := h.exists_device ((h.devices a d hd).out x hx).1
  exact ⟨hne, AList.mem_keys.mp (Table.mem_of_find? hd')⟩

/-- Two connected distribution devices feed each other. -/
theorem Inv.relaysFrom_symm (h : m.Inv) (hsends : m.SendsPower b c) (hb : m.RelaysFrom b a)
    (hc : m.RelaysFrom c b) : m.SendsPower c b ∧ m.RelaysFrom b c := by
  obtain ⟨db, hdb, hbrole, hblevel, -⟩ := hb
  obtain ⟨dc, hdc, hcrole, -, y, hy, rfl⟩ := hc
  obtain ⟨db', hdb', x, hx, rfl⟩ := hsends
  obtain rfl := Option.some.inj (hdb.symm.trans hdb')
  have hfb := h.devices _ db hdb
  have hfc := h.devices _ dc hdc
  obtain ⟨-, d, hd, hyrole⟩ := h.exists_device (hfc.input y hy).1
  obtain rfl := Option.some.inj (hdb.symm.trans hd)
  obtain ⟨-, d, hd, hxrole⟩ := h.exists_device (hfb.out x hx).1
  obtain rfl := Option.some.inj (hdc.symm.trans hd)
  exact ⟨⟨dc, hdc, y, (hfc.both hcrole y (hyrole.symm.trans hbrole)).mp hy, rfl⟩,
    db, hdb, hbrole, hblevel, x, (hfb.both hbrole x (hxrole.symm.trans hcrole)).mpr hx, rfl⟩

/-- What descends from an emission that has no echo: the emission, and what the first distribution
device makes of it. -/
theorem Inv.path_of_descends (h : m.Inv) (hpath : ec.powerPath = [a, b]) (hecho : ¬m.Echoes a b)
    (hec : Descends m.relays ec ec') : ec'.powerPath = [a, b] ∨
      ∃ x, m.RelaysFrom b a ∧ m.SendsPower b x ∧ ec'.powerPath = [a, b, x] := by
  refine hec.induction_on (P := fun ec' => ec'.powerPath = [a, b] ∨
    ∃ x, m.RelaysFrom b a ∧ m.SendsPower b x ∧ ec'.powerPath = [a, b, x]) (Or.inl hpath) ?_
  intro ec₁ ec₂ _ h₁ h₂
  obtain ⟨pre, a', b', x, hpath₁, hrelays, hsends, hpath₂⟩ := h.path_of_mem_relays h₂
  rcases h₁ with h₁ | ⟨y, hrelays', hsends', h₁⟩
  · rw [h₁] at hpath₁ hpath₂
    have hsplit : [] ++ [a, b] = pre ++ [a', b'] := hpath₁
    obtain ⟨-, hends⟩ := List.append_inj' hsplit rfl
    obtain ⟨ha, hb⟩ := List.cons.inj hends
    rw [← ha, ← (List.cons.inj hb).1] at hrelays
    rw [← (List.cons.inj hb).1] at hsends
    exact Or.inr ⟨x, hrelays, hsends, hpath₂⟩
  · rw [h₁] at hpath₁
    have hsplit : [a] ++ [b, y] = pre ++ [a', b'] := hpath₁
    obtain ⟨-, hends⟩ := List.append_inj' hsplit rfl
    obtain ⟨hb, hy⟩ := List.cons.inj hends
    rw [← hb, ← (List.cons.inj hy).1] at hrelays
    exact absurd ⟨hrelays', y, hsends', hrelays⟩ hecho

/-- Without an echo, relaying an emission ends. -/
theorem Inv.relayingEnds (h : m.Inv) {d : SimulatedDevice} (hd : m.devices.find? a = some d)
    (hrole : d.role = .source) (hba : b ≠ a) (hbmem : b ∈ m.devices.keys)
    (hpath : ec.powerPath = [a, b]) (hecho : ¬m.Echoes a b) : m.RelayingEnds ec := by
  have hamem : a ∈ m.devices.keys := AList.mem_keys.mp (Table.mem_of_find? hd)
  have hnodup : ∀ ec', Descends m.relays ec ec' →
      ec'.powerPath.Nodup ∧ ∀ x ∈ ec'.powerPath, x ∈ m.devices.keys := by
    intro ec' hec
    rcases h.path_of_descends hpath hecho hec with hpath' | ⟨x, hrelays, hsends', hpath'⟩
    · rw [hpath']
      exact ⟨by simp [hba.symm], by simp [hamem, hbmem]⟩
    · obtain ⟨hxb, hxmem⟩ := h.of_sendsPower hsends'
      have hxa : x ≠ a := by
        rintro rfl
        obtain ⟨db, hdb, hbrole, -, -⟩ := hrelays
        obtain ⟨db', hdb', y, hy, rfl⟩ := hsends'
        obtain rfl := Option.some.inj (hdb.symm.trans hdb')
        obtain ⟨hcable, hto⟩ := (h.devices b db hdb).out y hy
        obtain ⟨-, d', hd', hyrole⟩ := h.exists_device hcable
        obtain rfl := Option.some.inj (hd.symm.trans hd')
        rw [← hyrole, hrole, hbrole] at hto
        exact absurd hto (by decide)
      rw [hpath']
      exact ⟨by simp [hba.symm, hxb.symm, hxa.symm], by simp [hamem, hbmem, hxmem]⟩
  have hends : generation m.relays ec 2 = [] := by
    refine generation_eq_nil_of_forall fun ec₁ hec₁ => List.eq_nil_iff_forall_not_mem.mpr ?_
    intro ec₂ hec₂
    have hdescends : Descends m.relays ec ec₂ := Descends.step ⟨1, hec₁⟩ hec₂
    obtain ⟨ec₀, hec₀, hfirst⟩ := mem_generation_succ.mp hec₁
    obtain rfl := List.mem_singleton.mp hec₀
    obtain ⟨_, _, _, _, -, -, -, hpath₁⟩ := h.path_of_mem_relays hfirst
    obtain ⟨_, _, _, _, -, -, -, hpath₂⟩ := h.path_of_mem_relays hec₂
    rw [hpath₁, hpath] at hpath₂
    rcases h.path_of_descends hpath hecho hdescends with hpath' | ⟨_, -, -, hpath'⟩ <;>
      simp [hpath'] at hpath₂
  refine ⟨fun ec' hec => (hnodup ec' hec).1, fun ec' hec => ?_, ⟨2, hends⟩,
    finite_descendants hends⟩
  exact ((hnodup ec' hec).1.subperm (hnodup ec' hec).2).length_le

/-- An echo goes on for ever: every generation of the emission has a current on its way between the
two distribution devices. -/
theorem Inv.exists_generation_of_echoes (h : m.Inv) (hpath : ec.powerPath = [a, b])
    (hb : m.RelaysFrom b a) (hsends : m.SendsPower b c) (hc : m.RelaysFrom c b) (n : ℕ) :
    ∃ ec' ∈ generation m.relays ec (n + 1), ∃ pre,
      ec'.powerPath = pre ++ [b, c] ∨ ec'.powerPath = pre ++ [c, b] := by
  obtain ⟨hsends', hb'⟩ := h.relaysFrom_symm hsends hb hc
  induction n with
  | zero =>
    have hpath' : ec.powerPath = [] ++ [a, b] := hpath
    obtain ⟨ec', hec, hpath₁⟩ := h.exists_mem_relays hpath' hb hsends
    refine ⟨ec', mem_generation_succ.mpr ⟨ec, List.mem_singleton_self ec, hec⟩, [a], Or.inl ?_⟩
    rw [hpath₁, hpath]
    rfl
  | succ n ih =>
    obtain ⟨ec₁, hec₁, pre, hpath₁ | hpath₁⟩ := ih
    · obtain ⟨ec₂, hec₂, hpath₂⟩ := h.exists_mem_relays hpath₁ hc hsends'
      refine ⟨ec₂, mem_generation_succ.mpr ⟨ec₁, hec₁, hec₂⟩, pre ++ [b], Or.inr ?_⟩
      rw [hpath₂, hpath₁]
      simp
    · obtain ⟨ec₂, hec₂, hpath₂⟩ := h.exists_mem_relays hpath₁ hb' hsends
      refine ⟨ec₂, mem_generation_succ.mpr ⟨ec₁, hec₁, hec₂⟩, pre ++ [c], Or.inl ?_⟩
      rw [hpath₂, hpath₁]
      simp

theorem Inv.generation_ne_nil_of_echoes (h : m.Inv) (hpath : ec.powerPath = [a, b])
    (hecho : m.Echoes a b) (n : ℕ) : generation m.relays ec n ≠ [] := by
  obtain ⟨hb, c, hsends, hc⟩ := hecho
  cases n with
  | zero => exact List.cons_ne_nil ec []
  | succ n =>
    obtain ⟨ec', hec, -⟩ := h.exists_generation_of_echoes hpath hb hsends hc n
    exact List.ne_nil_of_mem hec

end Relays

/-- What a source emits goes from it to another device of the network. -/
theorem Emits.exists_path [TimePoint τ] {tr : List (Transition (PowerNetwork τ) Event)}
    {a : Identity} {ec : ElectricCurrent} (h : IsNetworkRun tr m) (hec : Emits tr m a ec) :
    (∃ d ∈ m.devices.find? a, d.role = .source) ∧
      ∃ b, ec.powerPath = [a, b] ∧ b ≠ a ∧ b ∈ m.devices.keys := by
  obtain ⟨d, hd, hrole, hec⟩ := hec
  have hinv := inv_of_run h
  obtain ⟨x, hx, rfl⟩ := Option.map_eq_some_iff.mp hec
  have hmem := List.mem_of_mem_head? hx
  have hpast : x ∈ m.session.client.cablesOf a ∧ d.deviceId = a ∧
      ∃ d' ∈ m.devices.find? a, d'.role = d.role := by
    rcases hd with hd | ⟨t, ht, hd⟩
    · have hfollows := hinv.devices a d hd
      exact ⟨(hfollows.out x hmem).1, hfollows.deviceId, d, hd, rfl⟩
    · obtain ⟨hout, hkept⟩ := remembers_of_run h t ht a d hd
      exact ⟨hout x hmem, ((inv_of_mem h ht).devices a d hd).deviceId, hkept⟩
  obtain ⟨hcable, hid, d', hd', hrole'⟩ := hpast
  obtain ⟨hne, d'', hd'', -⟩ := hinv.exists_device hcable
  exact ⟨⟨d', hd', hrole'.trans hrole⟩, x.id, by rw [hid], hne,
    AList.mem_keys.mp (Table.mem_of_find? hd'')⟩

/-- **Relaying.** In every network that an operator can build, relaying the currents that the
sources emit ends exactly when no source feeds a distribution device that is connected to another
one. -/
theorem relayingEnds_iff_of_run [TimePoint τ] {tr : List (Transition (PowerNetwork τ) Event)}
    (h : IsNetworkRun tr m) :
    (∀ a ec, Emits tr m a ec → m.RelayingEnds ec) ↔
      ∀ a ec, Emits tr m a ec → ∀ b, ec.powerPath = [a, b] → ¬m.Echoes a b := by
  have hinv := inv_of_run h
  refine forall₃_congr fun a ec hec => ?_
  obtain ⟨⟨d, hd, hrole⟩, b, hpath, hne, hmem⟩ := hec.exists_path h
  constructor
  · intro hends b' hpath' hecho
    obtain ⟨n, hn⟩ := hends.ends
    exact hinv.generation_ne_nil_of_echoes hpath' hecho n hn
  · intro hechoes
    exact hinv.relayingEnds hd hrole hne hmem hpath (hechoes b hpath)

/-! ### Two networks -/

/-- A new session and new devices. -/
def ofDevices (τ : Type) (devices : List ConnectedDevice) : PowerNetwork τ where
  session := ⟨{ deviceId := "cli" }, none⟩
  devices := devices.foldl (fun t d => t.set d.id { deviceId := d.id, role := d.role }) ∅

theorem isInitial_ofDevices {devices : List ConnectedDevice}
    (h : ∀ d ∈ devices, IsPowerRole d.role) : (ofDevices τ devices).IsInitial := by
  refine ⟨⟨"cli", rfl⟩, rfl, rfl, fun id d hd => ?_⟩
  obtain ⟨x, hx, rfl, rfl⟩ := Table.exists_of_find?_foldl_set hd
  exact ⟨x.role, h x hx, rfl⟩

/-- The operator connects the devices, the controller passes the topology on, and every device takes
its connection. -/
def connectEvents (devices : List ConnectedDevice) (answers : List String)
    (connections : List PowerConnection) : List Event :=
  (CLISession.connectEvents devices answers).dropLast.map .cli ++
    [.endConnectPd 0 (fun _ => true) ["mc"] connections,
      .topology "mc" (fun _ => true) [⟨⟨"mc", connections⟩, true⟩]] ++
    connections.map fun pc => .connection pc.pdId [⟨pc, true⟩]

/-- Where there is one distribution device only, there is no echo. -/
theorem Inv.not_echoes (h : m.Inv) (hone : ∀ e ∈ m.devices.entries, ∀ e' ∈ m.devices.entries,
    e.2.role = .distribution → e'.2.role = .distribution → e.1 = e'.1) (a b : Identity) :
    ¬m.Echoes a b := by
  rintro ⟨⟨db, hdb, hbrole, -⟩, c, hsends, dc, hdc, hcrole, -⟩
  exact (h.of_sendsPower hsends).1 (hone ⟨c, dc⟩ (Table.mem_entries_iff.mpr hdc) ⟨b, db⟩
    (Table.mem_entries_iff.mpr hdb) hcrole hbrole)

/-- A source, a distribution device and a load. -/
def hub : PowerNetwork ExactTime :=
  ofDevices ExactTime [⟨"gen", .source⟩, ⟨"hub", .distribution⟩, ⟨"lamp", .load⟩]

/-- Relaying ends at the load. -/
theorem relayingEnds_of_hub : ∃ (tr : List (Transition (PowerNetwork ExactTime) Event))
      (m : PowerNetwork ExactTime), IsNetworkRun tr m ∧
    (∃ ec, Emits tr m "gen" ec ∧ ∃ ec', Descends m.relays ec ec' ∧
      ec'.powerPath = ["gen", "hub", "lamp"]) ∧
    ∀ a ec, Emits tr m a ec → m.RelayingEnds ec := by
  have h₀ : hub.IsInitial := isInitial_ofDevices (by decide)
  obtain ⟨tr, m, hrun, ⟨d, hd, hrole, hec⟩, ⟨ec', hec', hpath⟩, hone⟩ :=
    exists_isRun_of_follow step_of_next?
      (P := fun _ m => (∃ d ∈ m.devices.find? "gen", d.role = .source ∧
          d.emission d.connectedDevicesOut = some ⟨["gen", "hub"], 10⟩) ∧
        (∃ ec' ∈ generation m.relays ⟨["gen", "hub"], 10⟩ 1,
          ec'.powerPath = ["gen", "hub", "lamp"]) ∧
        ∀ e ∈ m.devices.entries, ∀ e' ∈ m.devices.entries,
          e.2.role = .distribution → e'.2.role = .distribution → e.1 = e'.1)
      (s := hub)
      (connectEvents [⟨"gen", .source⟩, ⟨"hub", .distribution⟩, ⟨"lamp", .load⟩] ["y", "", "Y"]
        [⟨"gen", [⟨"hub", .distribution⟩]⟩, ⟨"hub", [⟨"gen", .source⟩, ⟨"lamp", .load⟩]⟩,
          ⟨"lamp", [⟨"hub", .distribution⟩]⟩]) (by decide +kernel)
  have hnetwork : IsNetworkRun tr m := ⟨_, h₀, hrun⟩
  exact ⟨tr, m, hnetwork, ⟨_, ⟨d, Or.inl hd, hrole, hec⟩, ec', ⟨1, hec'⟩, hpath⟩,
    (relayingEnds_iff_of_run hnetwork).mpr fun a ec _ b _ =>
      (inv_of_run hnetwork).not_echoes hone a b⟩

/-- A source and two distribution devices. -/
def bus : PowerNetwork ExactTime :=
  ofDevices ExactTime [⟨"gen", .source⟩, ⟨"hub", .distribution⟩, ⟨"bus", .distribution⟩]

/-- If the distribution devices are connected, the current returns to the first of them. -/
theorem relay_returns : ∃ (tr : List (Transition (PowerNetwork ExactTime) Event))
      (m : PowerNetwork ExactTime), IsNetworkRun tr m ∧ ∃ ec, Emits tr m "gen" ec ∧
    (∃ ec', Descends m.relays ec ec' ∧ ec'.powerPath = ["gen", "hub", "bus", "hub"]) ∧
    ¬m.RelayingEnds ec := by
  have h₀ : bus.IsInitial := isInitial_ofDevices (by decide)
  obtain ⟨tr, m, hrun, ⟨d, hd, hrole, hec⟩, ec', hec', hpath⟩ :=
    exists_isRun_of_follow step_of_next?
      (P := fun _ m => (∃ d ∈ m.devices.find? "gen", d.role = .source ∧
          d.emission d.connectedDevicesOut = some ⟨["gen", "hub"], 10⟩) ∧
        ∃ ec' ∈ generation m.relays ⟨["gen", "hub"], 10⟩ 2,
          ec'.powerPath = ["gen", "hub", "bus", "hub"])
      (s := bus) (connectEvents [⟨"gen", .source⟩, ⟨"hub", .distribution⟩, ⟨"bus", .distribution⟩]
        ["y", "n", "y"]
        [⟨"gen", [⟨"hub", .distribution⟩]⟩, ⟨"hub", [⟨"gen", .source⟩, ⟨"bus", .distribution⟩]⟩,
          ⟨"bus", [⟨"hub", .distribution⟩]⟩]) (by decide +kernel)
  refine ⟨tr, m, ⟨_, h₀, hrun⟩, _, ⟨d, Or.inl hd, hrole, hec⟩, ⟨ec', ⟨2, hec'⟩, hpath⟩, ?_⟩
  intro hends
  have hnodup := hends.nodup ec' ⟨2, hec'⟩
  rw [hpath] at hnodup
  exact absurd hnodup (by decide)

end PowerNetwork

end TacticalMicrogrid
