import TacticalMicrogrid.CLI.Wiring
import TacticalMicrogrid.PowerDevices.SimulatedDevice
import Mathlib.Data.List.TakeWhile

/-!
# The directions of the connections

The operator's client decides which devices may be connected from their ports alone. A device
decides from its own role or from that of its peer in which direction a connection carries power.
The two ends of a connection agree, unless they are two sources or two loads: a source sends to
every peer and takes from none, and a load takes from every peer and sends to none.

## Main definitions

* `CLIClient.Delivers`: the devices have set the connections of the topology.
* `DirectionsAgree`.
* `IsOneWay`: a pair of two sources or of two loads.

## Main results

* `sendsTo_iff_receivesFrom_iff`: when two roles agree on the direction.
* `CLIClient.Delivers.mem_out_iff`, `CLIClient.Delivers.mem_in_iff`: the lists of the devices.
* `directionsAgree_iff_of_session`.
-/

namespace TacticalMicrogrid

open TransitionSystem

/-- Two sources, or two loads. -/
def IsOneWay (r r' : DeviceRole) : Prop :=
  r = .source ∧ r' = .source ∨ r = .load ∧ r' = .load

instance (r r' : DeviceRole) : Decidable (IsOneWay r r') :=
  inferInstanceAs (Decidable (_ ∧ _ ∨ _ ∧ _))

theorem IsOneWay.symm {r r' : DeviceRole} (h : IsOneWay r r') : IsOneWay r' r :=
  h.imp And.symm And.symm

/-- The ends of a connection agree on its direction unless they are two sources or two loads. -/
theorem sendsTo_iff_receivesFrom_iff {r r' : DeviceRole} (h : IsPowerRole r) (h' : IsPowerRole r') :
    (SendsTo r r' ↔ ReceivesFrom r' r) ↔ ¬IsOneWay r r' := by
  rcases h with rfl | rfl | rfl <;> rcases h' with rfl | rfl | rfl <;> decide

/-! ### Delivery -/

/-- The ends of every connection between the devices agree on its direction. -/
def DirectionsAgree (ids : Set Identity) (net : Identity → SimulatedDevice) : Prop :=
  ∀ a ∈ ids, ∀ b ∈ ids, (net a).HasOut b ↔ (net b).HasIn a

namespace CLIClient

variable {τ : Type} {c : CLIClient τ} {connections written : List PowerConnection}
  {net : Identity → SimulatedDevice} {a b : Identity} {d da db x : ConnectedDevice}

/-- Every device of `power_devices_` had no connections, and has taken each written connection
once, in any batches. -/
def Delivers (c : CLIClient τ) (written : List PowerConnection) (net : Identity → SimulatedDevice) :
    Prop :=
  ∀ a, ∀ d ∈ c.deviceOf a, ∃ batches : List (List (Sample PowerConnection)),
    batches.flatten.Perm (written.map fun pc => ⟨pc, true⟩) ∧
      net a = batches.foldl SimulatedDevice.pcOnDataAvailable { deviceId := a, role := d.role }

theorem filter_eq_singleton_of_nodup {α β : Type} [DecidableEq β] {f : α → β} {l : List α} {x : α}
    (hnodup : (l.map f).Nodup) (hx : x ∈ l) : l.filter (f · = f x) = [x] := by
  induction l with
  | nil => cases hx
  | cons y l ih =>
    obtain ⟨hnot, hnodup⟩ := List.nodup_cons.mp hnodup
    rcases List.mem_cons.mp hx with rfl | hx
    · rw [List.filter_cons_of_pos (by simp), List.filter_eq_nil_iff.mpr]
      intro z hz heq
      exact hnot (List.mem_map.mpr ⟨z, hz, by simpa using heq⟩)
    · rw [List.filter_cons_of_neg, ih hnodup hx]
      simp only [decide_eq_true_eq]
      exact fun heq => hnot (List.mem_map.mpr ⟨x, hx, heq.symm⟩)

/-- The connections list the cables of a device, in one connection or in none. -/
theorem ListsConnections.filter_eq (h : c.ListsConnections connections) (a : Identity) :
    (∃ pc, connections.filter (·.pdId = a) = [pc] ∧ pc.connectedDevices.Nodup ∧
      pc.connectedDevices.toFinset = c.cablesOf a) ∨
      connections.filter (·.pdId = a) = [] ∧ c.cablesOf a = ∅ := by
  obtain ⟨hkeys, hdevices⟩ := h
  by_cases ha : a ∈ c.powerConnections
  · obtain ⟨pc, hpc, rfl⟩ := List.mem_map.mp (hkeys.mem_iff.mpr (AList.mem_keys.mp ha))
    have hnodup := hkeys.nodup_iff.mpr (AList.keys_nodup c.powerConnections)
    exact Or.inl ⟨pc, filter_eq_singleton_of_nodup hnodup hpc, hdevices pc hpc⟩
  · refine Or.inr ⟨List.filter_eq_nil_iff.mpr fun pc hpc heq => ha ?_, ?_⟩
    · rw [AList.mem_keys, ← hkeys.mem_iff]
      exact List.mem_map.mpr ⟨pc, hpc, by simpa using heq⟩
    · rw [cablesOf, Table.find?_eq_none.mpr ha]
      rfl

/-- A device lists its cables in their directions. -/
theorem Delivers.lists_eq (hlists : c.ListsConnections connections)
    (h : c.Delivers connections net) (hd : c.deviceOf a = some d) (hrole : IsPowerRole d.role)
    (hport : isSinglePortDevice d.role = true → (c.cablesOf a).card ≤ 1) :
    ∃ devices : List ConnectedDevice, devices.toFinset = c.cablesOf a ∧
      (net a).connectedDevicesIn = devices.filter (ReceivesFrom d.role ·.role) ∧
      (net a).connectedDevicesOut = devices.filter (SendsTo d.role ·.role) := by
  obtain ⟨batches, hbatches, heq⟩ := h a d hd
  let fresh : SimulatedDevice := { deviceId := a, role := d.role }
  have hown := hbatches.filter (fresh.IsOwn ·)
  rw [List.filter_map] at hown
  have hfilter : connections.filter ((fun s => decide (fresh.IsOwn s)) ∘ fun pc => ⟨pc, true⟩) =
      connections.filter (·.pdId = a) :=
    List.filter_congr fun pc _ => by simp [SimulatedDevice.IsOwn, fresh]
  rw [hfilter] at hown
  rcases hlists.filter_eq a with ⟨pc, hpc, hnodup, hcables⟩ | ⟨hnone, hcables⟩
  · rw [hpc] at hown
    have hone : d.role = .source ∨ d.role = .load → pc.connectedDevices.length ≤ 1 := by
      intro hsingle
      rw [← List.toFinset_card_of_nodup hnodup, hcables]
      refine hport ?_
      rcases hsingle with hsingle | hsingle <;> rw [hsingle] <;> rfl
    rw [heq, SimulatedDevice.foldl_pcOnDataAvailable_of_filter (List.perm_singleton.mp hown),
      SimulatedDevice.connectedDevices_fresh (d := fresh) rfl rfl hrole hone]
    exact ⟨_, hcables, rfl, rfl⟩
  · rw [hnone] at hown
    have hnothing : ∀ s ∈ batches.flatten, ¬fresh.IsOwn s := fun s hs hmine =>
      List.not_mem_nil (hown.mem_iff.mp (List.mem_filter.mpr ⟨hs, by simpa using hmine⟩))
    rw [heq, SimulatedDevice.foldl_pcOnDataAvailable_of_forall hnothing]
    exact ⟨[], by simp [hcables], rfl, rfl⟩

theorem ValidWiring.exists_filter_iff (hc : c.ValidWiring) {devices : List ConnectedDevice}
    (hcables : devices.toFinset = c.cablesOf a) (hb : c.deviceOf b = some db)
    (carries : DeviceRole → Prop) [DecidablePred carries] :
    (∃ x ∈ devices.filter (carries ·.role), x.id = b) ↔ db ∈ c.cablesOf a ∧ carries db.role := by
  simp only [List.mem_filter, decide_eq_true_eq]
  constructor
  · rintro ⟨x, ⟨hx, hcarries⟩, rfl⟩
    rw [← List.mem_toFinset, hcables] at hx
    obtain rfl := Option.some.inj ((hc.role a x hx).symm.trans hb)
    exact ⟨hx, hcarries⟩
  · rintro ⟨hx, hcarries⟩
    rw [← hcables, List.mem_toFinset] at hx
    exact ⟨db, ⟨hx, hcarries⟩, id_of_deviceOf hb⟩

/-- The outputs of a device are the cables over which it sends. -/
theorem Delivers.hasOut_iff (h : c.Delivers connections net)
    (hlists : c.ListsConnections connections)
    (hc : c.ValidWiring) (ha : c.deviceOf a = some da) (hb : c.deviceOf b = some db)
    (hrole : IsPowerRole da.role) :
    (net a).HasOut b ↔ db ∈ c.cablesOf a ∧ SendsTo da.role db.role := by
  obtain ⟨devices, hcables, -, hout⟩ := h.lists_eq hlists ha hrole (hc.single a da ha)
  rw [SimulatedDevice.HasOut, hout]
  exact hc.exists_filter_iff hcables hb _

/-- The inputs of a device are the cables over which it receives. -/
theorem Delivers.hasIn_iff (h : c.Delivers connections net)
    (hlists : c.ListsConnections connections)
    (hc : c.ValidWiring) (ha : c.deviceOf a = some da) (hb : c.deviceOf b = some db)
    (hrole : IsPowerRole da.role) :
    (net a).HasIn b ↔ db ∈ c.cablesOf a ∧ ReceivesFrom da.role db.role := by
  obtain ⟨devices, hcables, hin, -⟩ := h.lists_eq hlists ha hrole (hc.single a da ha)
  rw [SimulatedDevice.HasIn, hin]
  exact hc.exists_filter_iff hcables hb _

/-- The devices agree exactly when no cable joins two sources or two loads. -/
theorem Delivers.directionsAgree_iff (h : c.Delivers connections net)
    (hlists : c.ListsConnections connections) (hc : c.ValidWiring)
    (hroles : ∀ a, ∀ d ∈ c.deviceOf a, IsPowerRole d.role) :
    DirectionsAgree {a | (c.deviceOf a).isSome} net ↔
      ∀ a, ∀ da ∈ c.deviceOf a, ∀ db ∈ c.cablesOf a, ¬IsOneWay da.role db.role := by
  constructor
  · intro hagree a da ha db hdb
    have hb := hc.role a db hdb
    have hiff := hagree a (by simp [Option.mem_def.mp ha]) db.id (by simp [hb])
    rw [h.hasOut_iff hlists hc ha hb (hroles a da ha),
      h.hasIn_iff hlists hc hb ha (hroles _ db hb), ← hc.symm a _ da ha db hb,
      and_congr_right_iff] at hiff
    exact (sendsTo_iff_receivesFrom_iff (hroles a da ha) (hroles _ db hb)).mp (hiff hdb)
  · intro hcables a hsome b hsome'
    obtain ⟨da, ha⟩ := Option.isSome_iff_exists.mp hsome
    obtain ⟨db, hb⟩ := Option.isSome_iff_exists.mp hsome'
    rw [h.hasOut_iff hlists hc ha hb (hroles a da ha),
      h.hasIn_iff hlists hc hb ha (hroles b db hb), ← hc.symm a b da ha db hb]
    exact and_congr_right fun hdb =>
      (sendsTo_iff_receivesFrom_iff (hroles a da ha) (hroles b db hb)).mpr (hcables a da ha db hdb)

/-- The devices after each has taken all connections in one batch. -/
def delivered (c : CLIClient τ) (written : List PowerConnection) (id : Identity) :
    SimulatedDevice :=
  SimulatedDevice.pcOnDataAvailable
    { deviceId := id, role := ((c.deviceOf id).map (·.role)).getD .unknown }
    (written.map fun pc => ⟨pc, true⟩)

theorem delivers_delivered (c : CLIClient τ) (written : List PowerConnection) :
    c.Delivers written (c.delivered written) := by
  intro a d hd
  refine ⟨[written.map fun pc => ⟨pc, true⟩], by simp, ?_⟩
  rw [delivered, Option.mem_def.mp hd]
  rfl

/-- A property of the roles in `power_devices_`, by its entries. -/
theorem forall_deviceOf_iff {P : DeviceRole → Prop} :
    (∀ a, ∀ d ∈ c.deviceOf a, P d.role) ↔ ∀ e ∈ c.powerDevices.entries, P e.2.deviceInfo.role := by
  constructor
  · rintro h ⟨id, pd⟩ hentry
    have hfind := Table.mem_entries_iff.mp hentry
    exact h id ⟨id, pd.deviceInfo.role⟩ (by rw [deviceOf, hfind]; rfl)
  · intro h a d hd
    obtain ⟨pd, hfind, rfl⟩ := Option.map_eq_some_iff.mp hd
    exact h ⟨a, pd⟩ (Table.mem_entries_iff.mpr hfind)

end CLIClient

/-- The controller that a topology is for writes all its connections. -/
theorem Controller.ptOnDataAvailable_of_own {mc : Controller} {pt : PowerTopology}
    (hmc : mc.deviceId = pt.mcId) :
    mc.ptOnDataAvailable (fun _ => true) [⟨pt, true⟩] = pt.connections := by
  rw [ptOnDataAvailable, if_pos ⟨rfl, hmc.symm⟩]
  exact List.takeWhile_eq_self_iff.mpr fun _ _ => rfl

/-- The cables of a session join a one-way pair exactly when the operator has accepted one. -/
theorem IsSession.forall_cable_iff {τ : Type} [TimePoint τ]
    {tr : List (Transition (CLISession τ) CLISession.Event)} {s : CLISession τ}
    (h : IsSession tr s) :
    (∀ a, ∀ da ∈ s.client.deviceOf a, ∀ db ∈ s.client.cablesOf a, ¬IsOneWay da.role db.role) ↔
      ∀ t ∈ tr, ∀ p ∈ t.source.accepted t.label, ¬IsOneWay p.1.role p.2.role := by
  have hwiring := h.wired.validWiring
  constructor
  · intro hcables t ht p hp
    have hp₂ := (mem_cablesOf_iff_of_session h p.1.id p.2).mpr ⟨t, ht, p, hp, Or.inl ⟨rfl, rfl⟩⟩
    have hp₁ := (mem_cablesOf_iff_of_session h p.2.id p.1).mpr ⟨t, ht, p, hp, Or.inr ⟨rfl, rfl⟩⟩
    exact hcables p.1.id p.1 (hwiring.role _ _ hp₁) p.2 hp₂
  · intro haccepted a da ha db hdb
    obtain ⟨t, ht, p, hp, ⟨rfl, rfl⟩ | ⟨rfl, rfl⟩⟩ := (mem_cablesOf_iff_of_session h a db).mp hdb
    · have hp₁ := (mem_cablesOf_iff_of_session h p.2.id p.1).mpr ⟨t, ht, p, hp, Or.inr ⟨rfl, rfl⟩⟩
      obtain rfl := Option.some.inj ((hwiring.role _ _ hp₁).symm.trans ha)
      exact haccepted t ht p hp
    · have hp₂ := (mem_cablesOf_iff_of_session h p.1.id p.2).mpr ⟨t, ht, p, hp, Or.inl ⟨rfl, rfl⟩⟩
      obtain rfl := Option.some.inj ((hwiring.role _ _ hp₂).symm.trans ha)
      exact fun honeway => haccepted t ht p hp honeway.symm

/-- **Directions.** For every session over sources, loads and distribution devices, the devices that
have set the connections of its topology agree on the direction of every connection exactly when
the operator has accepted no pair of two sources and no pair of two loads. -/
theorem directionsAgree_iff_of_session {τ : Type} [TimePoint τ]
    {tr : List (Transition (CLISession τ) CLISession.Event)} {s : CLISession τ}
    (h : IsSession tr s) (hroles : ∀ a, ∀ d ∈ s.client.deviceOf a, IsPowerRole d.role)
    {connections : List PowerConnection} (hlists : s.client.ListsConnections connections)
    {now : ℤ} {writeOk : Identity → Bool} {order : List Identity} {pt : PowerTopology}
    (hsent : s.client.forwardTopology now writeOk connections order = some pt) {mc : Controller}
    (hmc : mc.deviceId = pt.mcId) {net : Identity → SimulatedDevice}
    (hnet : s.client.Delivers (mc.ptOnDataAvailable (fun _ => true) [⟨pt, true⟩]) net) :
    DirectionsAgree {a | (s.client.deviceOf a).isSome} net ↔
      ∀ t ∈ tr, ∀ p ∈ t.source.accepted t.label, ¬IsOneWay p.1.role p.2.role := by
  rw [Controller.ptOnDataAvailable_of_own hmc,
      CLIClient.connections_forwardTopology _ hsent] at hnet
  rw [hnet.directionsAgree_iff hlists h.wired.validWiring hroles, h.forall_cable_iff]

/-- The cables of a source and a load at a distribution device. -/
def hubConnections : List PowerConnection :=
  [⟨"gen", [⟨"hub", .distribution⟩]⟩, ⟨"hub", [⟨"gen", .source⟩, ⟨"lamp", .load⟩]⟩,
    ⟨"lamp", [⟨"hub", .distribution⟩]⟩]

/-- A source and a load at a distribution device agree with it. -/
theorem directionsAgree_of_hub : ∃ (tr : List (Transition (CLISession ExactTime) CLISession.Event))
      (s : CLISession ExactTime) (net : Identity → SimulatedDevice), IsSession tr s ∧
    s.client.Delivers hubConnections net ∧ (net "gen").HasOut "hub" ∧ (net "hub").HasIn "gen" ∧
    DirectionsAgree {a | (s.client.deviceOf a).isSome} net :=
  have hrun := isSession_of_follow "cli" (CLISession.connectEvents
    [⟨"gen", .source⟩, ⟨"hub", .distribution⟩, ⟨"lamp", .load⟩] ["y", "", "Y"]) rfl
  have hnet := CLIClient.delivers_delivered _ hubConnections
  ⟨_, _, _, hrun, hnet, by decide, by decide, (directionsAgree_iff_of_session hrun
    (CLIClient.forall_deviceOf_iff.mpr (by decide)) (by decide)
    (rfl : CLIClient.forwardTopology _ 0 (fun _ => true) hubConnections ["mc"] =
      some ⟨"mc", hubConnections⟩)
    (rfl : ({ deviceId := "mc" } : Controller).deviceId = "mc") hnet).mpr (by decide)⟩

/-- The cable of two sources. -/
def sourceConnections : List PowerConnection :=
  [⟨"gen", [⟨"solar", .source⟩]⟩, ⟨"solar", [⟨"gen", .source⟩]⟩]

/-- Two connected sources both send power to the other one, and neither takes it. -/
theorem sources_disagree : ∃ (tr : List (Transition (CLISession ExactTime) CLISession.Event))
      (s : CLISession ExactTime) (net : Identity → SimulatedDevice), IsSession tr s ∧
    (∀ a, ∀ d ∈ s.client.deviceOf a, IsPowerRole d.role) ∧
    s.client.ListsConnections sourceConnections ∧
    s.client.forwardTopology 0 (fun _ => true) sourceConnections ["mc"] =
      some ⟨"mc", sourceConnections⟩ ∧
    s.client.Delivers sourceConnections net ∧
    (net "gen").HasOut "solar" ∧ ¬(net "solar").HasIn "gen" ∧
    ¬DirectionsAgree {a | (s.client.deviceOf a).isSome} net :=
  have hrun := isSession_of_follow "cli" (CLISession.connectEvents
    [⟨"gen", .source⟩, ⟨"solar", .source⟩] ["y"]) rfl
  have hnet := CLIClient.delivers_delivered _ sourceConnections
  ⟨_, _, _, hrun, CLIClient.forall_deviceOf_iff.mpr (by decide), by decide, rfl, hnet, by decide,
    by decide, fun hagree => absurd ((hagree "gen" (by decide) "solar" (by decide)).mp (by decide))
      (by decide)⟩

end TacticalMicrogrid
