import TacticalMicrogrid.Common.Timer
import TacticalMicrogrid.Controller.Controller
import TacticalMicrogrid.Library.Run
import Mathlib.Data.Finset.Insert

/-!
# The command line of an operator

`cli/CLIClient.h` and `cli/CLIClient.cpp`: the client keeps the microgrid controllers it has heard
of, the power devices that each of them has last reported, and the cables that the operator has
laid between the devices. A function holds `data_m_` for as long as it touches these tables, so it
is one step; `connect-pd` gives the lock up between two questions to the operator, so each of its
questions is a step of its own.

The tables are hash maps, so a function that iterates over one has the order of the keys as an
argument. What DDS answers is an argument too. The displays, the log messages and the commands
that only forward a text to a controller are left out.

## Main definitions

* `CLIClient`, `CLIClient.processDeviceInfo`, `CLIClient.processHeartbeat`.
* `CLIClient.collectPowerDevices`, `CLIClient.sendPowerDevicesRequest`.
* `CLIClient.sendStartStopRequest`, `CLIClient.parse`.
* `CLIClient.canConnect`, `CLIClient.connect`, `CLIClient.consolidatePowerDevices`.
* `CLIClient.ListsConnections`, `CLIClient.forwardTopology`: the topology of the cables.
* `CLIClient.entryAfter`, `CLIClient.replyOf`: what a request leaves listed for its controller.
* `CLISession`, `CLISession.Step`, `IsSession`: the client with the questions it has to ask.

## Main results

* `CLIClient.collectPowerDevices_eq`: what is listed for a controller after the devices have been
  collected.
* `CLIClient.parse_ne_empty`: an argument is not empty.
* `CLISession.Step.client_eq`: what happens outside the questions of `connect-pd`.
* `isSession_of_follow`: computed sessions are sessions.
-/

namespace TacticalMicrogrid

open TransitionSystem

/-- `CLIClient::ControllerStatus`. -/
inductive ControllerStatus
  | available
  | unavailable
deriving DecidableEq, Repr

/-- `CLIClient::ControllerInfo`. -/
structure ControllerInfo (τ : Type) where
  info : DeviceInfo
  lastHb : τ

/-- The state of a `CLIClient`. -/
structure CLIClient (τ : Type) where
  deviceId : Identity
  controllers : Table Identity (ControllerInfo τ) := ∅
  mcToDevices : Table Identity PowerDevices := ∅
  powerDevices : PowerDevices := ∅
  powerConnections : Table Identity (Finset ConnectedDevice) := ∅

/-- What a request for power devices meets: a write, a condition, a wait or a take that fails, or
the samples that are taken. -/
inductive RequestOutcome
  | failed
  | taken (data : List (InfoSample PowerDevicesReply))

namespace CLIClient

/-- `missed_controller_delay`. -/
def missedControllerDelay : Duration := Sec 3

/-- `lost_controller_delay`. -/
def lostControllerDelay : Duration := Sec 6

/-- `unavail_controller_delay`. -/
def unavailControllerDelay : Duration := missedControllerDelay + lostControllerDelay

/-! ### Lines -/

/-- A blank or a tabulator. -/
def isWhitespace (ch : Char) : Bool := ch = ' ' ∨ ch = '\t'

/-- What `CLIClient::parse` returns: the first word of a line, and the rest of the line if there is
one. The searches of the source are in `TacticalMicrogrid.CLI.Grammar`. -/
def parse (input : String) : String × Option String :=
  let trimmed := ((input.toList.dropWhile isWhitespace).reverse.dropWhile isWhitespace).reverse
  let op := trimmed.takeWhile (!isWhitespace ·)
  let arg := (trimmed.dropWhile (!isWhitespace ·)).dropWhile isWhitespace
  (String.ofList op, if arg = [] then none else some (String.ofList arg))

/-- An argument is not empty. -/
theorem parse_ne_empty {input arg : String} (h : (parse input).2 = some arg) : arg ≠ "" := by
  simp only [parse] at h
  split_ifs at h with harg
  obtain rfl := Option.some.inj h
  rwa [Ne, String.ofList_eq_empty_iff]

/-- `CLIClient::tolower`. -/
def tolower (s : String) : String := String.ofList (s.toList.map Char.toLower)

/-- The operator priority that `CLIClient::run_cli` asks for: `start` and `stop` are the commands
with one. -/
def startStopPriority (input : String) : Option OperatorPriorityType :=
  match tolower (parse input).1 with
  | "start" => some .alwaysOperate
  | "stop" => some .neverOperate
  | _ => none

/-- The answer that the operator types: lines that are no answer are read until there is one. -/
def readAnswer : List String → Option Bool
  | [] => none
  | line :: lines =>
    if line = "" ∨ line = "y" ∨ line = "Y" then some true
    else if line = "n" ∨ line = "N" then some false
    else readAnswer lines

section Tables

variable {τ : Type} (c : CLIClient τ)

/-! ### Requests for power devices -/

/-- The devices of a reply are added to those listed for the controller. -/
def addPowerDevices (mcId : Identity) (devices : List PowerDeviceInfo) : CLIClient τ :=
  { c with
    mcToDevices := c.mcToDevices.set mcId (devices.foldl
      (fun pds pd => pds.set pd.deviceInfo.deviceId pd) ((c.mcToDevices.find? mcId).getD ∅)) }

/-- The loop of `CLIClient::send_power_devices_request` over the samples taken: it ends with the
first sample of the controller. -/
def receivePowerDevices (mcId : Identity) : List (InfoSample PowerDevicesReply) → CLIClient τ
  | [] => c
  | s :: data =>
    if s.data.mcId ≠ mcId then receivePowerDevices mcId data
    else if s.validData then c.addPowerDevices mcId s.data.devices
    else if s.instanceState = .notAliveDisposed then
      { c with mcToDevices := c.mcToDevices.erase mcId }
    else c

/-- `CLIClient::send_power_devices_request`. -/
def sendPowerDevicesRequest (mcId : Identity) : RequestOutcome → CLIClient τ × Bool
  | .failed => (c, false)
  | .taken data => (c.receivePowerDevices mcId data, true)

/-- The request that `CLIClient::send_start_stop_request` writes for a controller. -/
def intentRequest (pdId : Identity) (opt : OperatorPriorityType) (mcId : Identity) :
    OperatorIntentRequest where
  requestId := ⟨c.deviceId⟩
  sequenceId := 0
  desiredOperatorIntent := ⟨⟨mcId⟩, .operatorDefined, [⟨pdId, false, ⟨opt⟩⟩]⟩

/-! ### Cables -/

/-- `CLIClient::is_single_port_device`. -/
def isSinglePortDevice : DeviceRole → Bool
  | .source | .load | .storage => true
  | _ => false

/-- The cables of a device. -/
def cablesOf (id : Identity) : Finset ConnectedDevice := (c.powerConnections.find? id).getD ∅

/-- `CLIClient::can_connect`. -/
def canConnect (d₁ d₂ : ConnectedDevice) : Bool :=
  if d₁.id = d₂.id then false
  else if c.cablesOf d₁.id = ∅ ∨ !isSinglePortDevice d₁.role then
    if c.cablesOf d₂.id = ∅ then true else !isSinglePortDevice d₂.role
  else false

/-- `power_connections_[id].insert(d)`. -/
def addCable (id : Identity) (d : ConnectedDevice) : CLIClient τ :=
  { c with powerConnections := c.powerConnections.set id (insert d (c.cablesOf id)) }

/-- `CLIClient::connect`. -/
def connect (d₁ d₂ : ConnectedDevice) : CLIClient τ := (c.addCable d₁.id d₂).addCable d₂.id d₁

/-- The loop of `CLIClient::consolidate_power_devices`, for an order of the keys of
`mc_to_devices_`. A device that is there is kept. -/
def consolidate (order : List Identity) : CLIClient τ :=
  { c with
    powerDevices := order.foldl (fun pds mcId =>
      ((c.mcToDevices.find? mcId).getD ∅).entries.foldl (fun pds e => pds.insertNew e.1 e.2) pds)
      c.powerDevices }

/-- A device of `power_devices_` as its cables name it. -/
def deviceOf (id : Identity) : Option ConnectedDevice :=
  (c.powerDevices.find? id).map fun pd => ⟨id, pd.deviceInfo.role⟩

end Tables

variable {τ : Type} [TimePoint τ] (c : CLIClient τ)

/-! ### Controllers -/

/-- `CLIClient::controller_status`. -/
def controllerStatus (now : ℤ) (lastHeartbeat : τ) : ControllerStatus :=
  match TimePoint.age now lastHeartbeat with
  | some age => if age < unavailControllerDelay then .available else .unavailable
  | none => .unavailable

/-- `CLIClient::process_device_info`. -/
def processDeviceInfo (now : ℤ) (di : InfoSample DeviceInfo) : CLIClient τ :=
  if di.validData then
    if di.data.role = .microgridController then
      { c with
        controllers := c.controllers.insertNew di.data.deviceId ⟨di.data, TimePoint.now now⟩ }
    else c
  else if di.instanceState = .notAliveDisposed then
    { c with controllers := c.controllers.erase di.data.deviceId }
  else c

/-- `CLIClient::process_heartbeat`. -/
def processHeartbeat (now : ℤ) (hb : InfoSample Heartbeat) : CLIClient τ :=
  if hb.validData then
    { c with
      controllers :=
        c.controllers.modify hb.data.deviceId ({ · with lastHb := TimePoint.now now }) }
  else if hb.instanceState = .notAliveDisposed then
    { c with controllers := c.controllers.erase hb.data.deviceId }
  else c

/-- A controller of `controllers_` that is available at a clock reading. -/
def Available (now : ℤ) (mcId : Identity) : Prop :=
  ∃ info ∈ c.controllers.find? mcId, controllerStatus now info.lastHb = .available

instance (now : ℤ) (mcId : Identity) : Decidable (c.Available now mcId) :=
  inferInstanceAs (Decidable (∃ info ∈ c.controllers.find? mcId, _))

/-! ### Commands -/

/-- What a call of `CLIClient::collect_power_devices` meets: the clock reading, the order of the
keys of `controllers_`, and how each request ends. -/
structure Collection where
  now : ℤ
  order : List Identity
  outcome : Identity → RequestOutcome

/-- The body of the loop of `CLIClient::collect_power_devices`, for a key of `controllers_`. -/
def collectFrom (col : Collection) (r : CLIClient τ × Bool) (mcId : Identity) :
    CLIClient τ × Bool :=
  match r.1.controllers.find? mcId with
  | none => r
  | some info =>
    if controllerStatus col.now info.lastHb = .available then
      let (c, ok) := r.1.sendPowerDevicesRequest mcId (col.outcome mcId)
      (c, r.2 && ok)
    else ({ r.1 with mcToDevices := r.1.mcToDevices.erase mcId }, r.2)

/-- `CLIClient::collect_power_devices`. -/
def collectPowerDevices (col : Collection) : CLIClient τ × Bool :=
  col.order.foldl (collectFrom col) (c, true)

/-- The requests that `CLIClient::collect_power_devices` writes: one for each controller that is
available. The loop changes no controller, and a write that fails is only logged. -/
def collectRequests (col : Collection) : List PowerDevicesRequest :=
  (col.order.filter (c.Available col.now ·)).map fun mcId => ⟨mcId⟩

/-- `collect_power_devices` if `mc_to_devices_` is empty. -/
def collectIfEmpty (col : Collection) : CLIClient τ :=
  if c.mcToDevices.keys = [] then (c.collectPowerDevices col).1 else c

/-- The requests for power devices that are written if `mc_to_devices_` is empty. -/
def collectRequestsIfEmpty (col : Collection) : List PowerDevicesRequest :=
  if c.mcToDevices.keys = [] then c.collectRequests col else []

/-- The loop of `CLIClient::send_start_stop_request` over the keys of `mc_to_devices_`: it returns
at a controller that is not in `controllers_`. -/
def addressControllers (now : ℤ) (pdId : Identity) (opt : OperatorPriorityType) :
    List Identity → List OperatorIntentRequest
  | [] => []
  | mcId :: order =>
    match c.controllers.find? mcId with
    | none => []
    | some info =>
      if controllerStatus now info.lastHb = .unavailable then
        addressControllers now pdId opt order
      else c.intentRequest pdId opt mcId :: addressControllers now pdId opt order

/-- `CLIClient::send_start_stop_request`, where `order` is an order of the keys of
`mc_to_devices_`. It returns the requests it writes; a write that fails is only logged. -/
def sendStartStopRequest (opArg : String × Option String) (opt : OperatorPriorityType)
    (col : Collection) (now : ℤ) (order : List Identity) :
    CLIClient τ × List OperatorIntentRequest :=
  match opArg.2 with
  | none => (c, [])
  | some pdId =>
    let c := c.collectIfEmpty col
    (c, c.addressControllers now pdId opt order)

/-- The connections of the topology that `CLIClient::connect_power_devices` builds: one for each key
of `power_connections_`, with the devices of its set, in some order. -/
def ListsConnections (connections : List PowerConnection) : Prop :=
  (connections.map (·.pdId)).Perm c.powerConnections.keys ∧ ∀ pc ∈ connections,
    pc.connectedDevices.Nodup ∧ pc.connectedDevices.toFinset = c.cablesOf pc.pdId

/-- The last loop of `CLIClient::connect_power_devices` over the keys of `controllers_`: the
topology goes to the first available controller for which the write succeeds. -/
def forwardTopology (now : ℤ) (writeOk : Identity → Bool) (connections : List PowerConnection) :
    List Identity → Option PowerTopology
  | [] => none
  | mcId :: order =>
    match c.controllers.find? mcId with
    | none => forwardTopology now writeOk connections order
    | some info =>
      if controllerStatus now info.lastHb = .unavailable then
        forwardTopology now writeOk connections order
      else if writeOk mcId then some ⟨mcId, connections⟩
      else forwardTopology now writeOk connections order

omit [TimePoint τ] in
instance (connections : List PowerConnection) : Decidable (c.ListsConnections connections) :=
  inferInstanceAs (Decidable (_ ∧ _))

/-- The topology that is forwarded has the connections. -/
theorem connections_forwardTopology {now : ℤ} {writeOk : Identity → Bool}
    {connections : List PowerConnection} {order : List Identity} {pt : PowerTopology}
    (h : c.forwardTopology now writeOk connections order = some pt) :
    pt.connections = connections := by
  induction order with
  | nil => cases h
  | cons mcId order ih =>
    rw [forwardTopology] at h
    cases hinfo : c.controllers.find? mcId with
    | none =>
      rw [hinfo] at h
      exact ih h
    | some info =>
      simp only [hinfo] at h
      split_ifs at h
      · exact ih h
      · rw [← Option.some.inj h]
      · exact ih h

/-- `CLIClient::consolidate_power_devices`. -/
def consolidatePowerDevices (col : Collection) (order : List Identity) : CLIClient τ :=
  (c.collectIfEmpty col).consolidate order

/-- The first step of `CLIClient::connect_power_devices`. -/
def consolidateIfEmpty (col : Collection) (order : List Identity) : CLIClient τ :=
  if c.powerDevices.keys = [] then c.consolidatePowerDevices col order else c

/-! ### What is listed for a controller -/

/-- What `mc_to_devices_` has for a controller after a request to it. -/
def entryAfter (mcId : Identity) (entry : Option PowerDevices) :
    RequestOutcome → Option PowerDevices
  | .failed => entry
  | .taken data =>
    match data.find? (·.data.mcId = mcId) with
    | none => entry
    | some s =>
      if s.validData then some (s.data.devices.foldl
        (fun pds pd => pds.set pd.deviceInfo.deviceId pd) (entry.getD ∅))
      else if s.instanceState = .notAliveDisposed then none
      else entry

/-- The valid reply of a controller that a request meets. -/
def replyOf (mcId : Identity) : RequestOutcome → Option PowerDevicesReply
  | .failed => none
  | .taken data =>
    match data.find? (·.data.mcId = mcId) with
    | none => none
    | some s => if s.validData then some s.data else none

section Collect

variable {c}

/-- A valid reply is added to what is listed. -/
theorem entryAfter_of_replyOf {mcId : Identity} {outcome : RequestOutcome}
    {reply : PowerDevicesReply} (h : replyOf mcId outcome = some reply)
    (entry : Option PowerDevices) :
    entryAfter mcId entry outcome = some (reply.devices.foldl
      (fun pds pd => pds.set pd.deviceInfo.deviceId pd) (entry.getD ∅)) := by
  cases outcome with
  | failed => cases h
  | taken data =>
    simp only [replyOf, entryAfter] at h ⊢
    cases hs : data.find? (·.data.mcId = mcId) with
    | none =>
      rw [hs] at h
      cases h
    | some s =>
      simp only [hs] at h ⊢
      split_ifs at h ⊢
      obtain rfl := Option.some.inj h
      rfl

/-- Without a valid reply nothing new is listed. -/
theorem entryAfter_none_of_replyOf {mcId : Identity} {outcome : RequestOutcome}
    (h : replyOf mcId outcome = none) : entryAfter mcId none outcome = none := by
  cases outcome with
  | failed => rfl
  | taken data =>
    simp only [replyOf, entryAfter] at h ⊢
    cases hs : data.find? (·.data.mcId = mcId) with
    | none => rfl
    | some s =>
      simp only [hs] at h ⊢
      split_ifs at h ⊢ <;> rfl

omit [TimePoint τ] in
/-- A request changes what is listed for its controller only. -/
theorem sendPowerDevicesRequest_eq (mcId : Identity) (outcome : RequestOutcome) :
    ∃ t, (c.sendPowerDevicesRequest mcId outcome).1 = { c with mcToDevices := t } ∧
      ∀ k, t.find? k = if k = mcId then entryAfter mcId (c.mcToDevices.find? mcId) outcome
        else c.mcToDevices.find? k := by
  have hself : ∀ k, c.mcToDevices.find? k =
      if k = mcId then c.mcToDevices.find? mcId else c.mcToDevices.find? k := fun k => by
    split_ifs with hk
    · rw [hk]
    · rfl
  cases outcome with
  | failed => exact ⟨_, rfl, hself⟩
  | taken data =>
    simp only [sendPowerDevicesRequest, entryAfter]
    induction data with
    | nil => exact ⟨_, rfl, hself⟩
    | cons s data ih =>
      rw [receivePowerDevices]
      by_cases hmc : s.data.mcId = mcId
      · rw [List.find?_cons_of_pos (by simpa using hmc), if_neg (not_not.mpr hmc)]
        simp only
        split_ifs
        · exact ⟨_, rfl, fun k => Table.find?_set ..⟩
        · exact ⟨_, rfl, fun k => Table.find?_erase ..⟩
        · exact ⟨_, rfl, hself⟩
      · rw [List.find?_cons_of_neg (by simpa using hmc), if_pos hmc]
        exact ih

/-- One round of the loop of `collect_power_devices`. -/
theorem collectFrom_eq (col : Collection) (r : CLIClient τ × Bool) (mcId : Identity) :
    ∃ t, (collectFrom col r mcId).1 = { r.1 with mcToDevices := t } ∧ ∀ k, t.find? k =
      if k = mcId ∧ mcId ∈ r.1.controllers then
        if r.1.Available col.now mcId then
          entryAfter mcId (r.1.mcToDevices.find? mcId) (col.outcome mcId)
        else none
      else r.1.mcToDevices.find? k := by
  rw [collectFrom]
  cases hinfo : r.1.controllers.find? mcId with
  | none =>
    refine ⟨r.1.mcToDevices, rfl, fun k => ?_⟩
    rw [if_neg fun h => Table.find?_eq_none.mp hinfo h.2]
  | some info =>
    have hmem : mcId ∈ r.1.controllers := Table.mem_of_find? hinfo
    have havailable : r.1.Available col.now mcId ↔
        controllerStatus col.now info.lastHb = .available := by simp [Available, hinfo]
    simp only [hmem, and_true, havailable]
    split_ifs with hstatus
    · obtain ⟨t, ht, hfind⟩ := r.1.sendPowerDevicesRequest_eq mcId (col.outcome mcId)
      exact ⟨t, ht, hfind⟩
    · refine ⟨_, rfl, fun k => ?_⟩
      rw [Table.find?_erase]

/-- What is listed for a controller after the power devices have been collected: what its request
leaves if it is available, nothing if it is known and not available, and what was listed before if
it is not known. Nothing but `mc_to_devices_` changes. -/
theorem collectPowerDevices_eq {col : Collection} (horder : col.order.Perm c.controllers.keys) :
    ∃ t, (c.collectPowerDevices col).1 = { c with mcToDevices := t } ∧ ∀ k, t.find? k =
      if k ∈ c.controllers then
        if c.Available col.now k then entryAfter k (c.mcToDevices.find? k) (col.outcome k) else none
      else c.mcToDevices.find? k := by
  have hloop : ∀ (order : List Identity) (r : CLIClient τ × Bool), order.Nodup →
      ∃ t, (order.foldl (collectFrom col) r).1 = { r.1 with mcToDevices := t } ∧ ∀ k, t.find? k =
        if k ∈ order ∧ k ∈ r.1.controllers then
          if r.1.Available col.now k then
            entryAfter k (r.1.mcToDevices.find? k) (col.outcome k)
          else none
        else r.1.mcToDevices.find? k := by
    intro order
    induction order with
    | nil => exact fun r _ => ⟨_, rfl, fun k => by simp⟩
    | cons mcId order ih =>
      intro r hnodup
      obtain ⟨hnot, hnodup⟩ := List.nodup_cons.mp hnodup
      obtain ⟨t, ht, hfind⟩ := collectFrom_eq col r mcId
      obtain ⟨t', ht', hfind'⟩ := ih (collectFrom col r mcId) hnodup
      refine ⟨t', ?_, fun k => ?_⟩
      · rw [List.foldl_cons, ht', ht]
      · rw [hfind' k, ht]
        change (if k ∈ order ∧ k ∈ r.1.controllers then
          if r.1.Available col.now k then entryAfter k (t.find? k) (col.outcome k) else none
          else t.find? k) = _
        rw [hfind k]
        by_cases hk : k = mcId
        · obtain rfl := hk
          simp [hnot]
        · simp [hk]
  obtain ⟨t, ht, hfind⟩ := hloop col.order (c, true)
    (horder.nodup_iff.mpr (AList.keys_nodup c.controllers))
  refine ⟨t, ht, fun k => ?_⟩
  rw [hfind k]
  simp only [horder.mem_iff, AList.mem_keys, and_self]

theorem collectIfEmpty_eq {col : Collection} (horder : col.order.Perm c.controllers.keys) :
    ∃ t, c.collectIfEmpty col = { c with mcToDevices := t } := by
  rw [collectIfEmpty]
  split_ifs
  · obtain ⟨t, ht, -⟩ := c.collectPowerDevices_eq horder
    exact ⟨t, ht⟩
  · exact ⟨_, rfl⟩

end Collect

end CLIClient

/-! ### Sessions -/

/-- The pairs of the loops of `CLIClient::connect_power_devices`: each element of a list with each
later one. -/
def pairsOf {α : Type} : List α → List (α × α)
  | [] => []
  | a :: l => l.map (a, ·) ++ pairsOf l

/-- A client, and the pairs that `connect-pd` has still to ask about while it runs. -/
structure CLISession (τ : Type) where
  client : CLIClient τ
  asking : Option (List (ConnectedDevice × ConnectedDevice)) := none

namespace CLISession

/-- What can happen to a client: a sample, a command, or an answer to a question of
`connect-pd`. -/
inductive Event
  | deviceInfo (now : ℤ) (di : InfoSample DeviceInfo)
  | heartbeat (now : ℤ) (hb : InfoSample Heartbeat)
  | listPd (col : CLIClient.Collection)
  | startStop (input : String) (col : CLIClient.Collection) (now : ℤ) (order : List Identity)
  | connectPd (col : CLIClient.Collection) (order : List Identity) (devices : List ConnectedDevice)
  | answer (lines : List String)
  | endConnectPd

variable {τ : Type} [TimePoint τ] (s : CLISession τ)

/-- The session after an event. -/
def after : Event → CLISession τ
  | .deviceInfo now di => { s with client := s.client.processDeviceInfo now di }
  | .heartbeat now hb => { s with client := s.client.processHeartbeat now hb }
  | .listPd col => { s with client := (s.client.collectPowerDevices col).1 }
  | .startStop input col now order =>
    match CLIClient.startStopPriority input with
    | none => s
    | some opt =>
      { s with
        client := (s.client.sendStartStopRequest (CLIClient.parse input) opt col now order).1 }
  | .connectPd col order devices =>
    { client := s.client.consolidateIfEmpty col order, asking := some (pairsOf devices) }
  | .answer lines =>
    match s.asking with
    | some ((d₁, d₂) :: pairs) =>
      { client := if s.client.canConnect d₁ d₂ ∧ CLIClient.readAnswer lines = some true then
          s.client.connect d₁ d₂ else s.client
        asking := some pairs }
    | _ => s
  | .endConnectPd => { s with asking := none }

/-- The list holds the devices of `power_devices_`, in some order. -/
def ListsDevices (c : CLIClient τ) (devices : List ConnectedDevice) : Prop :=
  (devices.map (·.id)).Perm c.powerDevices.keys ∧
    ∀ d ∈ devices, c.deviceOf d.id = some d

/-- When an event can happen: the orders are orders of the keys of the tables, a command is read
when no question is open, and a question waits for an answer. -/
def Enabled : Event → Prop
  | .deviceInfo _ _ | .heartbeat _ _ => True
  | .listPd col => s.asking = none ∧ col.order.Perm s.client.controllers.keys
  | .startStop _ col _ order => s.asking = none ∧ col.order.Perm s.client.controllers.keys ∧
      order.Perm (s.client.collectIfEmpty col).mcToDevices.keys
  | .connectPd col order devices => s.asking = none ∧ col.order.Perm s.client.controllers.keys ∧
      order.Perm (s.client.collectIfEmpty col).mcToDevices.keys ∧
      ListsDevices (s.client.consolidateIfEmpty col order) devices
  | .answer lines => ∃ pairs ∈ s.asking, ∃ p ∈ pairs.head?,
      s.client.canConnect p.1 p.2 → (CLIClient.readAnswer lines).isSome
  | .endConnectPd => s.asking = some []

omit [TimePoint τ] in
instance (c : CLIClient τ) (devices : List ConnectedDevice) : Decidable (ListsDevices c devices) :=
  inferInstanceAs (Decidable (_ ∧ _))

instance : (e : Event) → Decidable (s.Enabled e)
  | .deviceInfo _ _ | .heartbeat _ _ => isTrue trivial
  | .listPd _ => inferInstanceAs (Decidable (_ ∧ _))
  | .startStop _ _ _ _ => inferInstanceAs (Decidable (_ ∧ _ ∧ _))
  | .connectPd _ _ _ => inferInstanceAs (Decidable (_ ∧ _ ∧ _ ∧ _))
  | .answer _ => inferInstanceAs (Decidable (∃ pairs ∈ s.asking, ∃ p ∈ pairs.head?, _))
  | .endConnectPd => inferInstanceAs (Decidable (s.asking = some []))

/-- The steps of a session. -/
def Step (e : Event) (s' : CLISession τ) : Prop := s.Enabled e ∧ s' = s.after e

/-- The step for an event, if it can be taken. -/
def next? (e : Event) : Option (Event × CLISession τ) :=
  if s.Enabled e then some (e, s.after e) else none

theorem step_of_next? (e e' : Event) (s' : CLISession τ) (h : s.next? e = some (e', s')) :
    s.Step e' s' := by
  obtain ⟨henabled, rfl, rfl⟩ := of_guard_eq_some h
  exact ⟨henabled, rfl⟩

variable {s} {s' : CLISession τ}

/-- The event starts the questions of `connect-pd` or answers one. -/
def Event.IsConnecting : Event → Prop
  | .connectPd _ _ _ | .answer _ => True
  | _ => False

/-- The other events change the tables of the controllers only. -/
theorem Step.client_eq {e : Event} (h : s.Step e s') (hother : ¬e.IsConnecting) :
    (∃ cs ms, s'.client = { s.client with controllers := cs, mcToDevices := ms }) ∧
      (s'.asking = s.asking ∨ s'.asking = none) := by
  obtain ⟨henabled, rfl⟩ := h
  cases e with
  | deviceInfo now di =>
    rw [after, CLIClient.processDeviceInfo]
    split_ifs <;> exact ⟨⟨_, _, rfl⟩, Or.inl rfl⟩
  | heartbeat now hb =>
    rw [after, CLIClient.processHeartbeat]
    split_ifs <;> exact ⟨⟨_, _, rfl⟩, Or.inl rfl⟩
  | listPd col =>
    obtain ⟨t, ht, -⟩ := s.client.collectPowerDevices_eq henabled.2
    rw [after, ht]
    exact ⟨⟨_, _, rfl⟩, Or.inl rfl⟩
  | startStop input col now order =>
    obtain ⟨t, ht⟩ := s.client.collectIfEmpty_eq henabled.2.1
    simp only [after, CLIClient.sendStartStopRequest, ht]
    cases CLIClient.startStopPriority input with
    | none => exact ⟨⟨_, _, rfl⟩, Or.inl rfl⟩
    | some opt => cases (CLIClient.parse input).2 <;> exact ⟨⟨_, _, rfl⟩, Or.inl rfl⟩
  | connectPd | answer => exact absurd trivial hother
  | endConnectPd => exact ⟨⟨_, _, rfl⟩, Or.inr rfl⟩

/-- The client keeps its id. -/
theorem Step.deviceId_eq {e : Event} (h : s.Step e s') :
    s'.client.deviceId = s.client.deviceId := by
  cases e with
  | connectPd col order devices =>
    obtain ⟨henabled, rfl⟩ := h
    obtain ⟨t, ht⟩ := s.client.collectIfEmpty_eq henabled.2.1
    simp only [after, CLIClient.consolidateIfEmpty, CLIClient.consolidatePowerDevices, ht]
    split_ifs <;> rfl
  | answer lines =>
    obtain ⟨-, rfl⟩ := h
    rw [after]
    split
    · split_ifs <;> rfl
    · rfl
  | deviceInfo | heartbeat | listPd | startStop | endConnectPd =>
    obtain ⟨⟨cs, ms, hclient⟩, -⟩ := h.client_eq id
    rw [hclient]

end CLISession

/-- `tr` is a run of a new client, which ends in `s`. -/
def IsSession {τ : Type} [TimePoint τ] (tr : List (Transition (CLISession τ) CLISession.Event))
    (s : CLISession τ) : Prop :=
  ∃ id, IsRun CLISession.Step ⟨{ deviceId := id }, none⟩ tr s

/-- The computed run along a list of events is a session. -/
theorem isSession_of_follow {τ : Type} [TimePoint τ] (id : Identity) (es : List CLISession.Event)
    {tr : List (Transition (CLISession τ) CLISession.Event)} {s : CLISession τ}
    (h : follow CLISession.next? ⟨{ deviceId := id }, none⟩ es = some (tr, s)) : IsSession tr s :=
  ⟨id, isRun_of_follow CLISession.step_of_next? es h⟩

end TacticalMicrogrid
