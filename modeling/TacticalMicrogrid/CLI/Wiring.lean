import TacticalMicrogrid.CLI.CLIClient
import TacticalMicrogrid.Library.PortGraph

/-!
# The cables that an operator lays

`connect-pd` of `cli/CLIClient.cpp` asks the operator about one pair of power devices after the
other. For each accepted pair it enters both devices into `power_connections_`, each under the id of
the other one. What it builds is a graph: the cables of a device name its neighbours with the roles
that `power_devices_` holds for them. `can_connect` checks both ends before a cable is laid, so a
device with one port never gets a second cable.

## Main definitions

* `CLIClient.Represents`: `power_connections_` is a graph over the devices of `power_devices_`.
* `CLIClient.ValidWiring`.
* `CLISession.accepted`: the pair that an answer accepts.
* `CLISession.Wired`: the invariant of a session.

## Main results

* `CLIClient.Represents.connect`: a cable is an edge of the graph.
* `validWiring_of_session`: the wiring is valid after every step of a session.
* `mem_cablesOf_iff_of_session`: the cables are those that the operator has accepted.
-/

namespace TacticalMicrogrid

open TransitionSystem PortGraph

namespace CLIClient

variable {τ : Type} {c c' : CLIClient τ} {G : SimpleGraph Identity} {d d₁ d₂ : ConnectedDevice}
  {a : Identity}

/-! ### One cable -/

/-- A pair may be connected if it is no pair of one device and each end has a free port. -/
theorem canConnect_iff : c.canConnect d₁ d₂ = true ↔ d₁.id ≠ d₂.id ∧
    (c.cablesOf d₁.id = ∅ ∨ isSinglePortDevice d₁.role = false) ∧
      (c.cablesOf d₂.id = ∅ ∨ isSinglePortDevice d₂.role = false) := by
  rw [canConnect]
  split_ifs with hid hfree hempty
  · simp [hid]
  · simpa [hid, hempty] using hfree
  · simp [hid, hempty] at hfree ⊢
    exact fun _ => hfree
  · simp only [Bool.not_eq_true'] at hfree
    simp [hfree]

theorem cablesOf_addCable (id : Identity) : (c.addCable id d).cablesOf a =
    if a = id then insert d (c.cablesOf id) else c.cablesOf a := by
  rw [cablesOf, addCable, Table.find?_set]
  split_ifs <;> rfl

/-- A cable is entered at both ends. -/
theorem mem_cablesOf_connect (hne : d₁.id ≠ d₂.id) : d ∈ (c.connect d₁ d₂).cablesOf a ↔
    d ∈ c.cablesOf a ∨ a = d₁.id ∧ d = d₂ ∨ a = d₂.id ∧ d = d₁ := by
  rw [connect, cablesOf_addCable]
  split_ifs with h₂
  · rw [cablesOf_addCable, if_neg hne.symm, Finset.mem_insert, h₂]
    simp [hne.symm, or_comm]
  · rw [cablesOf_addCable]
    split_ifs with h₁
    · simp [h₁, hne, or_comm]
    · simp [h₁, h₂]

/-! ### The graph -/

/-- The device is one of `power_devices_` with a single port. -/
def HasSinglePort (c : CLIClient τ) (id : Identity) : Prop :=
  ∃ d ∈ c.deviceOf id, isSinglePortDevice d.role = true

/-- The cables of a device name its neighbours, with their roles. -/
structure Represents (c : CLIClient τ) (G : SimpleGraph Identity) : Prop where
  mem_cablesOf : ∀ a d, d ∈ c.cablesOf a ↔ G.Adj a d.id ∧ c.deviceOf d.id = some d
  known : ∀ a b, G.Adj a b → ∃ d, c.deviceOf b = some d

theorem id_of_deviceOf (h : c.deviceOf a = some d) : d.id = a := by
  obtain ⟨pd, -, rfl⟩ := Option.map_eq_some_iff.mp h
  rfl

/-- A device without cables has no neighbour. -/
theorem Represents.not_adj (h : c.Represents G) (hempty : c.cablesOf a = ∅) (b : Identity) :
    ¬G.Adj a b := by
  intro hadj
  obtain ⟨d, hd⟩ := h.known a b hadj
  obtain rfl := id_of_deviceOf hd
  exact Finset.notMem_empty d (hempty ▸ (h.mem_cablesOf a d).mpr ⟨hadj, hd⟩)

/-- **A cable is an edge.** Connecting two devices of `power_devices_` joins them in the graph. -/
theorem Represents.connect (h : c.Represents G) (hd₁ : c.deviceOf d₁.id = some d₁)
    (hd₂ : c.deviceOf d₂.id = some d₂) (hne : d₁.id ≠ d₂.id) :
    (c.connect d₁ d₂).Represents (G ⊔ SimpleGraph.edge d₁.id d₂.id) := by
  have hdevice : ∀ id, (c.connect d₁ d₂).deviceOf id = c.deviceOf id := fun _ => rfl
  constructor
  · intro a d
    rw [mem_cablesOf_connect hne, h.mem_cablesOf, hdevice, SimpleGraph.sup_adj,
      SimpleGraph.edge_adj]
    constructor
    · rintro (⟨hadj, hd⟩ | ⟨rfl, rfl⟩ | ⟨rfl, rfl⟩)
      · exact ⟨Or.inl hadj, hd⟩
      · exact ⟨Or.inr ⟨Or.inl ⟨rfl, rfl⟩, hne⟩, hd₂⟩
      · exact ⟨Or.inr ⟨Or.inr ⟨rfl, rfl⟩, hne.symm⟩, hd₁⟩
    · rintro ⟨hadj | ⟨⟨rfl, hid⟩ | ⟨rfl, hid⟩, -⟩, hd⟩
      · exact Or.inl ⟨hadj, hd⟩
      · rw [hid, hd₂] at hd
        exact Or.inr (Or.inl ⟨rfl, (Option.some.inj hd).symm⟩)
      · rw [hid, hd₁] at hd
        exact Or.inr (Or.inr ⟨rfl, (Option.some.inj hd).symm⟩)
  · intro a b hadj
    rw [hdevice]
    rw [SimpleGraph.sup_adj, SimpleGraph.edge_adj] at hadj
    rcases hadj with hadj | ⟨⟨-, rfl⟩ | ⟨-, rfl⟩, -⟩
    · exact h.known a b hadj
    · exact ⟨d₂, hd₂⟩
    · exact ⟨d₁, hd₁⟩

/-- `can_connect` leaves a single-port device with one cable. -/
theorem Represents.portBounded_connect (h : c.Represents G) (hports : PortBounded G c.HasSinglePort)
    (hd₁ : c.deviceOf d₁.id = some d₁) (hd₂ : c.deviceOf d₂.id = some d₂)
    (hcan : c.canConnect d₁ d₂ = true) :
    PortBounded (G ⊔ SimpleGraph.edge d₁.id d₂.id) (c.connect d₁ d₂).HasSinglePort := by
  obtain ⟨-, hfree₁, hfree₂⟩ := canConnect_iff.mp hcan
  have hfree : ∀ d, c.deviceOf d.id = some d →
      (c.cablesOf d.id = ∅ ∨ isSinglePortDevice d.role = false) →
        c.HasSinglePort d.id → ∀ x, ¬G.Adj d.id x := by
    rintro d hd hfree ⟨d', hd', hsingle⟩
    obtain rfl := Option.some.inj (hd.symm.trans hd')
    rcases hfree with hempty | hmulti
    · exact h.not_adj hempty
    · exact absurd (hmulti.symm.trans hsingle) Bool.false_ne_true
  exact hports.sup_edge (hfree d₁ hd₁ hfree₁) (hfree d₂ hd₂ hfree₂)

/-- `power_connections_` is a valid wiring over the roles held in `power_devices_`. -/
structure ValidWiring (c : CLIClient τ) : Prop where
  known : ∀ a, c.cablesOf a ≠ ∅ → (c.deviceOf a).isSome
  irrefl : ∀ a, ∀ d ∈ c.cablesOf a, d.id ≠ a
  symm : ∀ a b, ∀ da ∈ c.deviceOf a, ∀ db ∈ c.deviceOf b,
    (db ∈ c.cablesOf a ↔ da ∈ c.cablesOf b)
  role : ∀ a, ∀ d ∈ c.cablesOf a, c.deviceOf d.id = some d
  functional : ∀ a, ∀ d ∈ c.cablesOf a, ∀ d' ∈ c.cablesOf a, d.id = d'.id → d = d'
  single : ∀ a, ∀ d ∈ c.deviceOf a, isSinglePortDevice d.role = true → (c.cablesOf a).card ≤ 1

theorem Represents.validWiring (h : c.Represents G) (hports : PortBounded G c.HasSinglePort) :
    c.ValidWiring where
  known a hne := by
    obtain ⟨d, hd⟩ := Finset.nonempty_iff_ne_empty.mpr hne
    obtain ⟨da, hda⟩ := h.known d.id a ((h.mem_cablesOf a d).mp hd).1.symm
    rw [hda]
    rfl
  irrefl a d hd heq := by
    obtain ⟨hadj, -⟩ := (h.mem_cablesOf a d).mp hd
    rw [heq] at hadj
    exact G.irrefl hadj
  symm a b da hda db hdb := by
    rw [h.mem_cablesOf, h.mem_cablesOf, id_of_deviceOf hda, id_of_deviceOf hdb, G.adj_comm]
    exact and_congr_right fun _ => iff_of_true hdb hda
  role a d hd := ((h.mem_cablesOf a d).mp hd).2
  functional a d hd d' hd' hid := by
    have hrole := ((h.mem_cablesOf a d).mp hd).2
    rw [hid, ((h.mem_cablesOf a d').mp hd').2] at hrole
    exact (Option.some.inj hrole).symm
  single a d hd hsingle := by
    refine Finset.card_le_one.mpr fun x hx y hy => ?_
    obtain ⟨hadjx, hrolex⟩ := (h.mem_cablesOf a x).mp hx
    obtain ⟨hadjy, hroley⟩ := (h.mem_cablesOf a y).mp hy
    rw [hports a ⟨d, hd, hsingle⟩ x.id y.id hadjx hadjy, hroley] at hrolex
    exact (Option.some.inj hrolex).symm

/-- The graph depends on the devices and the cables only. -/
theorem Represents.congr (h : c.Represents G) (hdevices : c'.powerDevices = c.powerDevices)
    (hcables : c'.powerConnections = c.powerConnections) : c'.Represents G := by
  refine ⟨fun a d => ?_, fun a b hadj => ?_⟩
  · rw [cablesOf, hcables, deviceOf, hdevices]
    exact h.mem_cablesOf a d
  · rw [deviceOf, hdevices]
    exact h.known a b hadj

end CLIClient

/-! ### Sessions -/

namespace CLISession

variable {τ : Type} [TimePoint τ] {s s' : CLISession τ} {G : SimpleGraph Identity}

omit [TimePoint τ] in
/-- The pair of devices that an answer connects. -/
def accepted (s : CLISession τ) : Event → Option (ConnectedDevice × ConnectedDevice)
  | .answer lines =>
    match s.asking with
    | some (p :: _) =>
      if s.client.canConnect p.1 p.2 ∧ CLIClient.readAnswer lines = some true then some p else none
    | _ => none
  | _ => none

/-- The client has a valid wiring, and all devices that are still to be asked about are in
`power_devices_`. -/
structure Wired (s : CLISession τ) : Prop where
  graph : ∃ G, s.client.Represents G ∧ PortBounded G s.client.HasSinglePort
  known : ∀ pairs ∈ s.asking, ∀ p ∈ pairs,
    s.client.deviceOf p.1.id = some p.1 ∧ s.client.deviceOf p.2.id = some p.2

omit [TimePoint τ] in
/-- The invariant depends on the devices, the cables and the open questions only. -/
theorem Wired.congr (h : s.Wired) (hdevices : s'.client.powerDevices = s.client.powerDevices)
    (hcables : s'.client.powerConnections = s.client.powerConnections)
    (hasking : ∀ pairs ∈ s'.asking, ∃ pairs' ∈ s.asking, pairs ⊆ pairs') : s'.Wired := by
  have hdevice : s'.client.deviceOf = s.client.deviceOf := by
    funext id
    rw [CLIClient.deviceOf, hdevices]
    rfl
  constructor
  · obtain ⟨G, hG, hports⟩ := h.graph
    refine ⟨G, hG.congr hdevices hcables, hports.congr fun a b _ hsingle => ?_⟩
    rwa [CLIClient.HasSinglePort, hdevice] at hsingle
  · intro pairs hpairs p hp
    obtain ⟨pairs', hpairs', hsub⟩ := hasking pairs hpairs
    rw [hdevice]
    exact h.known pairs' hpairs' p (hsub hp)

omit [TimePoint τ] in
theorem Wired.validWiring (h : s.Wired) : s.client.ValidWiring := by
  obtain ⟨G, hG, hports⟩ := h.graph
  exact hG.validWiring hports

theorem mem_of_mem_pairsOf {α : Type} {l : List α} {p : α × α} (h : p ∈ pairsOf l) :
    p.1 ∈ l ∧ p.2 ∈ l := by
  induction l with
  | nil => cases h
  | cons a l ih =>
    rcases List.mem_append.mp h with h | h
    · obtain ⟨b, hb, rfl⟩ := List.mem_map.mp h
      exact ⟨List.mem_cons_self, List.mem_cons_of_mem _ hb⟩
    · exact ⟨List.mem_cons_of_mem _ (ih h).1, List.mem_cons_of_mem _ (ih h).2⟩

/-- The events outside `connect-pd` leave the devices and the cables as they are. -/
theorem unchanged_of_step {e : Event} (h : s.Step e s') (hother : ¬e.IsConnecting) :
    s'.client.powerDevices = s.client.powerDevices ∧
      s'.client.powerConnections = s.client.powerConnections ∧
        (s'.asking = s.asking ∨ s'.asking = none) := by
  obtain ⟨⟨cs, ms, hclient⟩, hasking⟩ := h.client_eq hother
  rw [hclient]
  exact ⟨rfl, rfl, hasking⟩

/-- The start of `connect-pd` leaves the cables, and the devices unless there are none. -/
theorem unchanged_of_connectPd {col : CLIClient.Collection} {order : List Identity}
    {devices : List ConnectedDevice} (h : s.Step (.connectPd col order devices) s') :
    s'.client.powerConnections = s.client.powerConnections ∧
      (s'.client.powerDevices = s.client.powerDevices ∨ s.client.powerDevices.keys = []) := by
  obtain ⟨henabled, rfl⟩ := h
  obtain ⟨t, ht⟩ := s.client.collectIfEmpty_eq henabled.2.1
  simp only [after, CLIClient.consolidateIfEmpty, CLIClient.consolidatePowerDevices, ht]
  split_ifs with hnone
  · exact ⟨rfl, Or.inr hnone⟩
  · exact ⟨rfl, Or.inl rfl⟩

/-- A step adds the cable that it accepts. -/
theorem Step.mem_cablesOf_iff {e : Event} (h : s.Step e s') {a : Identity} {d : ConnectedDevice} :
    d ∈ s'.client.cablesOf a ↔ d ∈ s.client.cablesOf a ∨
      ∃ p ∈ s.accepted e, a = p.1.id ∧ d = p.2 ∨ a = p.2.id ∧ d = p.1 := by
  cases e with
  | answer lines =>
    obtain ⟨⟨pairs, hasking, p, hp, -⟩, rfl⟩ := h
    rcases s with ⟨client, asking⟩
    obtain rfl : asking = some pairs := hasking
    cases pairs with
    | nil => cases hp
    | cons p pairs =>
      rcases p with ⟨d₁, d₂⟩
      simp only [after, accepted]
      split_ifs with haccepted
      · have hne := (CLIClient.canConnect_iff.mp haccepted.1).1
        rw [CLIClient.mem_cablesOf_connect hne]
        simp
      · simp
  | connectPd col order devices =>
    rw [CLIClient.cablesOf, (unchanged_of_connectPd h).1]
    simp [accepted, CLIClient.cablesOf]
  | deviceInfo | heartbeat | listPd | startStop | endConnectPd =>
    rw [CLIClient.cablesOf, (unchanged_of_step h id).2.1]
    simp [accepted, CLIClient.cablesOf]

omit [TimePoint τ] in
/-- While there are no devices there are no cables. -/
theorem Wired.of_no_devices (h : s.Wired) (hnone : s.client.powerDevices.keys = []) :
    s.client.Represents ⊥ := by
  have hdevice : ∀ id, s.client.deviceOf id = none := fun id => by
    rw [CLIClient.deviceOf, Option.map_eq_none_iff, Table.find?_eq_none, AList.mem_keys, hnone]
    exact List.not_mem_nil
  obtain ⟨G, hG, -⟩ := h.graph
  refine ⟨fun a d => iff_of_false (fun hd => ?_) (fun hd => hd.1.elim), fun a b hadj => hadj.elim⟩
  have hrole := ((hG.mem_cablesOf a d).mp hd).2
  rw [hdevice] at hrole
  cases hrole

omit [TimePoint τ] in
/-- A new client has no cables. -/
theorem wired_new (id : Identity) : (⟨{ deviceId := id }, none⟩ : CLISession τ).Wired := by
  refine ⟨⟨⊥, ⟨fun a d => ?_, fun a b hadj => hadj.elim⟩, portBounded_bot⟩, nofun⟩
  exact iff_of_false (Finset.notMem_empty d) fun hd => hd.1.elim

/-- The invariant is kept by every step. -/
theorem Wired.step {e : Event} (hs : s.Wired) (h : s.Step e s') : s'.Wired := by
  cases e with
  | answer lines =>
    obtain ⟨henabled, rfl⟩ := h
    obtain ⟨pairs, hasking, -⟩ := henabled
    rcases s with ⟨client, asking⟩
    obtain rfl : asking = some pairs := hasking
    cases pairs with
    | nil => exact hs
    | cons p pairs =>
      rcases p with ⟨d₁, d₂⟩
      obtain ⟨hd₁, hd₂⟩ := hs.known _ rfl (d₁, d₂) List.mem_cons_self
      have hrest : ∀ p ∈ pairs,
          client.deviceOf p.1.id = some p.1 ∧ client.deviceOf p.2.id = some p.2 :=
        fun p hp => hs.known _ rfl p (List.mem_cons_of_mem _ hp)
      simp only [after]
      split_ifs with haccepted
      · obtain ⟨G, hG, hports⟩ := hs.graph
        have hne := (CLIClient.canConnect_iff.mp haccepted.1).1
        refine ⟨⟨_, hG.connect hd₁ hd₂ hne,
          hG.portBounded_connect hports hd₁ hd₂ haccepted.1⟩, ?_⟩
        rintro _ ⟨⟩ p hp
        exact hrest p hp
      · refine ⟨hs.graph, ?_⟩
        rintro _ ⟨⟩ p hp
        exact hrest p hp
  | connectPd col order devices =>
    obtain ⟨hcables, hdevices⟩ := unchanged_of_connectPd h
    obtain ⟨henabled, rfl⟩ := h
    refine ⟨?_, ?_⟩
    · rcases hdevices with hdevices | hnone
      · obtain ⟨G, hG, hports⟩ := hs.graph
        refine ⟨G, hG.congr hdevices hcables, hports.congr fun a b _ hsingle => ?_⟩
        obtain ⟨d, hd, hport⟩ := hsingle
        rw [CLIClient.deviceOf, hdevices] at hd
        exact ⟨d, hd, hport⟩
      · refine ⟨⊥, ⟨fun a d => ?_, fun a b hadj => hadj.elim⟩, portBounded_bot⟩
        rw [CLIClient.cablesOf, hcables]
        refine iff_of_false (fun hd => ?_) fun hd => hd.1.elim
        exact (((hs.of_no_devices hnone).mem_cablesOf a d).mp hd).1.elim
    · rintro _ ⟨⟩ p hp
      obtain ⟨hp₁, hp₂⟩ := mem_of_mem_pairsOf hp
      exact ⟨henabled.2.2.2.2 p.1 hp₁, henabled.2.2.2.2 p.2 hp₂⟩
  | deviceInfo | heartbeat | listPd | startStop | endConnectPd =>
    obtain ⟨hdevices, hcables, hasking⟩ := unchanged_of_step h id
    refine hs.congr hdevices hcables fun pairs hpairs => ?_
    rcases hasking with hasking | hasking
    · exact ⟨pairs, hasking ▸ hpairs, fun _ => id⟩
    · rw [hasking] at hpairs
      cases hpairs

end CLISession

theorem IsSession.wired {τ : Type} [TimePoint τ]
    {tr : List (Transition (CLISession τ) CLISession.Event)} {s : CLISession τ}
    (h : IsSession tr s) : s.Wired := by
  obtain ⟨id, hrun⟩ := h
  exact hrun.invariant (CLISession.wired_new id) fun _ _ _ hs hstep => hs.step hstep

/-- **Valid wiring.** After every step of a session `power_connections_` is a valid wiring over the
roles held in `power_devices_`. -/
theorem validWiring_of_session {τ : Type} [TimePoint τ]
    {tr : List (Transition (CLISession τ) CLISession.Event)} {s : CLISession τ}
    (h : IsSession tr s) : s.client.ValidWiring :=
  h.wired.validWiring

/-- A controller reports the devices, and the operator answers the questions of `connect-pd`. -/
def CLISession.connectEvents (devices : List ConnectedDevice) (answers : List String) :
    List CLISession.Event :=
  [.deviceInfo 0 (.valid { deviceId := "mc", role := .microgridController }),
    .connectPd ⟨0, ["mc"], fun _ => .taken [.valid ⟨"mc", devices.map fun d =>
      ⟨{ deviceId := d.id, role := d.role }, .operational, none⟩⟩]⟩ ["mc"] devices] ++
    answers.map (fun line => .answer [line]) ++ [.endConnectPd]

/-- A source and a load at a distribution device. The operator is not asked about the source and
the load. -/
theorem validWiring_of_hub : ∃ (tr : List (Transition (CLISession ExactTime) CLISession.Event))
      (s : CLISession ExactTime), IsSession tr s ∧
    s.client.cablesOf "hub" = {⟨"gen", .source⟩, ⟨"lamp", .load⟩} ∧
    s.client.cablesOf "gen" = {⟨"hub", .distribution⟩} ∧ s.client.ValidWiring :=
  have hrun := isSession_of_follow "cli" (CLISession.connectEvents
    [⟨"gen", .source⟩, ⟨"hub", .distribution⟩, ⟨"lamp", .load⟩] ["y", "", "Y"]) rfl
  ⟨_, _, hrun, by decide, by decide, validWiring_of_session hrun⟩

/-- The cables of a session are those that the operator has accepted. -/
theorem mem_cablesOf_iff_of_session {τ : Type} [TimePoint τ]
    {tr : List (Transition (CLISession τ) CLISession.Event)} {s : CLISession τ}
    (h : IsSession tr s) (a : Identity) (d : ConnectedDevice) :
    d ∈ s.client.cablesOf a ↔ ∃ t ∈ tr, ∃ p ∈ t.source.accepted t.label,
      a = p.1.id ∧ d = p.2 ∨ a = p.2.id ∧ d = p.1 := by
  obtain ⟨id, hrun⟩ := h
  refine hrun.traceInvariant (P := fun tr s => d ∈ s.client.cablesOf a ↔ ∃ t ∈ tr,
    ∃ p ∈ t.source.accepted t.label, a = p.1.id ∧ d = p.2 ∨ a = p.2.id ∧ d = p.1) ?_ ?_
  · exact iff_of_false (Finset.notMem_empty d) fun ⟨t, ht, _⟩ => List.not_mem_nil ht
  · intro tr s e s' hrun hs hstep
    rw [hstep.mem_cablesOf_iff, hs]
    simp only [List.mem_append, List.mem_singleton, or_and_right, exists_or, exists_eq_left]

end TacticalMicrogrid
