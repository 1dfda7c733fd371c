import TacticalMicrogrid.CLI.CLIClient

/-!
# The power devices listed for the controllers

`mc_to_devices_` of `cli/CLIClient.h` caches, for each controller, the power devices that select it.
`collect_power_devices` brings the cache up to date, but only where it looks: it walks over
`controllers_`, so it keeps the entry of a controller that a disposal has removed from there, and it
adds the devices of a reply to those listed before, so it keeps a device that has moved to another
controller.

## Main definitions

* `CLIClient.KeysAvailable`, `CLIClient.KeysKnown`.
* `CLISession.collectCall`: the call of `collect_power_devices` in an event.
* `Microgrid`, `IsMicrogridRun`: a session and the controllers that answer its requests.
* `Microgrid.Answered`, `Microgrid.ListsReplied`.
* `Microgrid.Takes`, `Microgrid.KeepsEntry`, `Microgrid.NamedAreReplied`: the condition on what
  happened before a collection.

## Main results

* `keysAvailable_iff_of_session`: the entries after a collection are those of available controllers
  exactly when no entry before it belonged to an unknown controller.
* `keysKnown_of_forall`: what is enough for that.
* `IsMicrogridRun.listed_iff`: the devices listed for a controller are those of its replies since
  its entry was last removed.
* `listsReplied_iff_of_run`: the devices listed after a collection are those of the replies exactly
  when no device of an earlier reply has left the reply of its controller while the entry stayed.
-/

namespace TacticalMicrogrid

open TransitionSystem

variable {τ : Type} [TimePoint τ]

/-! ### Entries of controllers -/

namespace CLIClient

variable {c : CLIClient τ} {col : Collection}

/-- Every controller with an entry is in `controllers_` and available. -/
def KeysAvailable (c : CLIClient τ) (now : ℤ) : Prop := ∀ k ∈ c.mcToDevices.keys, c.Available now k

omit [TimePoint τ] in
/-- Every controller with an entry is in `controllers_`. -/
def KeysKnown (c : CLIClient τ) : Prop := ∀ k ∈ c.mcToDevices.keys, k ∈ c.controllers

instance (c : CLIClient τ) (now : ℤ) : Decidable (c.KeysAvailable now) :=
  inferInstanceAs (Decidable (∀ k ∈ c.mcToDevices.keys, _))

omit [TimePoint τ] in
instance (c : CLIClient τ) : Decidable c.KeysKnown :=
  inferInstanceAs (Decidable (∀ k ∈ c.mcToDevices.keys, _))

theorem Available.mem {now : ℤ} {k : Identity} (h : c.Available now k) : k ∈ c.controllers :=
  let ⟨_, hinfo, _⟩ := h
  Table.mem_of_find? hinfo

/-- A collection leaves entries of available controllers only, exactly when there was none of an
unknown controller. -/
theorem keysAvailable_collectPowerDevices_iff (horder : col.order.Perm c.controllers.keys) :
    (c.collectPowerDevices col).1.KeysAvailable col.now ↔ c.KeysKnown := by
  obtain ⟨t, ht, hfind⟩ := c.collectPowerDevices_eq horder
  rw [ht]
  change (∀ k ∈ t.keys, c.Available col.now k) ↔ _
  constructor
  · intro h k hk
    by_contra hunknown
    have hkept : k ∈ t.keys := by
      obtain ⟨pds, hpds⟩ := Table.mem_iff_exists_find?.mp hk
      refine Table.mem_of_find? (v := pds) ?_
      rw [hfind k, if_neg hunknown, hpds]
    exact hunknown (h k hkept).mem
  · intro h k hk
    obtain ⟨pds, hpds⟩ := Table.mem_iff_exists_find?.mp hk
    rw [hfind k] at hpds
    split_ifs at hpds with hknown havailable
    · exact havailable
    · exact absurd (h k (Table.mem_of_find? hpds)) hknown

theorem KeysKnown.collectPowerDevices (h : c.KeysKnown)
    (horder : col.order.Perm c.controllers.keys) : (c.collectPowerDevices col).1.KeysKnown := by
  have havailable := (keysAvailable_collectPowerDevices_iff horder).mpr h
  exact fun k hk => (havailable k hk).mem

theorem KeysKnown.collectIfEmpty (h : c.KeysKnown)
    (horder : col.order.Perm c.controllers.keys) : (c.collectIfEmpty col).KeysKnown := by
  rw [CLIClient.collectIfEmpty]
  split_ifs
  · exact h.collectPowerDevices horder
  · exact h

end CLIClient

namespace CLISession

variable {s s' : CLISession τ}

/-- The call of `collect_power_devices` that an event makes. -/
def collectCall (s : CLISession τ) : Event → Option CLIClient.Collection
  | .listPd col => some col
  | .startStop input col _ _ =>
    if (CLIClient.startStopPriority input).isSome ∧ (CLIClient.parse input).2.isSome ∧
      s.client.mcToDevices.keys = [] then some col else none
  | .connectPd col _ _ =>
    if s.client.powerDevices.keys = [] ∧ s.client.mcToDevices.keys = [] then some col else none
  | _ => none

/-- A call of `collect_power_devices` walks over all keys of `controllers_`. -/
theorem Step.perm_of_collectCall {e : Event} {col : CLIClient.Collection} (h : s.Step e s')
    (hcol : col ∈ s.collectCall e) : col.order.Perm s.client.controllers.keys := by
  cases e with
  | listPd col' =>
    obtain rfl := Option.some.inj hcol
    exact h.1.2
  | startStop input col' now order =>
    simp only [collectCall] at hcol
    split_ifs at hcol
    · obtain rfl := Option.some.inj hcol
      exact h.1.2.1
    · cases hcol
  | connectPd col' order devices =>
    simp only [collectCall] at hcol
    split_ifs at hcol
    · obtain rfl := Option.some.inj hcol
      exact h.1.2.1
    · cases hcol
  | deviceInfo | heartbeat | answer | endConnectPd => cases hcol

/-- The event disposes of no controller that has an entry. -/
def KeepsListed (s : CLISession τ) : Event → Prop
  | .deviceInfo _ di => di.IsDisposal → di.data.deviceId ∉ s.client.mcToDevices
  | .heartbeat _ hb => hb.IsDisposal → hb.data.deviceId ∉ s.client.mcToDevices
  | _ => True

end CLISession

namespace CLIClient

variable {c : CLIClient τ}

theorem KeysKnown.processDeviceInfo (h : c.KeysKnown) (now : ℤ) {di : InfoSample DeviceInfo}
    (hkeeps : di.IsDisposal → di.data.deviceId ∉ c.mcToDevices) :
    (c.processDeviceInfo now di).KeysKnown := by
  rw [CLIClient.processDeviceInfo]
  split_ifs with hvalid hrole hdisposed
  · intro k hk
    rw [Table.mem_iff_exists_find?, Table.find?_insertNew]
    obtain ⟨info, hinfo⟩ := Table.mem_iff_exists_find?.mp (h k hk)
    split_ifs
    · exact ⟨_, rfl⟩
    · exact ⟨info, hinfo⟩
  · exact h
  · intro k hk
    have hne : k ≠ di.data.deviceId := by
      rintro rfl
      exact hkeeps ⟨Bool.eq_false_iff.mpr hvalid, hdisposed⟩ hk
    rw [Table.mem_iff_exists_find?, Table.find?_erase, if_neg hne]
    exact Table.mem_iff_exists_find?.mp (h k hk)
  · exact h

theorem KeysKnown.processHeartbeat (h : c.KeysKnown) (now : ℤ) {hb : InfoSample Heartbeat}
    (hkeeps : hb.IsDisposal → hb.data.deviceId ∉ c.mcToDevices) :
    (c.processHeartbeat now hb).KeysKnown := by
  rw [CLIClient.processHeartbeat]
  split_ifs with hvalid hdisposed
  · intro k hk
    obtain ⟨info, hinfo⟩ := Table.mem_iff_exists_find?.mp (h k hk)
    rw [Table.mem_iff_exists_find?, Table.find?_modify]
    split_ifs with heq
    · rw [← heq, hinfo]
      exact ⟨_, rfl⟩
    · exact ⟨info, hinfo⟩
  · intro k hk
    have hne : k ≠ hb.data.deviceId := by
      rintro rfl
      exact hkeeps ⟨Bool.eq_false_iff.mpr hvalid, hdisposed⟩ hk
    rw [Table.mem_iff_exists_find?, Table.find?_erase, if_neg hne]
    exact Table.mem_iff_exists_find?.mp (h k hk)
  · exact h

end CLIClient

/-- In a session in which no controller with an entry is disposed of, every controller with an
entry is in `controllers_`. -/
theorem keysKnown_of_forall {tr : List (Transition (CLISession τ) CLISession.Event)}
    {s : CLISession τ} (h : IsSession tr s)
    (hkeeps : ∀ t ∈ tr, t.source.KeepsListed t.label) : s.client.KeysKnown := by
  obtain ⟨id, hrun⟩ := h
  refine hrun.invariant_of_forall (P := fun s => s.client.KeysKnown) hkeeps
    (fun k hk => absurd hk List.not_mem_nil) ?_
  rintro s e s' hs hkeeps ⟨henabled, rfl⟩
  cases e with
  | deviceInfo now di => exact hs.processDeviceInfo now hkeeps
  | heartbeat now hb => exact hs.processHeartbeat now hkeeps
  | listPd col => exact hs.collectPowerDevices henabled.2
  | startStop input col now order =>
    simp only [CLISession.after, CLIClient.sendStartStopRequest]
    cases CLIClient.startStopPriority input with
    | none => exact hs
    | some opt =>
      cases (CLIClient.parse input).2 with
      | none => exact hs
      | some pdId => exact hs.collectIfEmpty henabled.2.1
  | connectPd col order devices =>
    simp only [CLISession.after, CLIClient.consolidateIfEmpty]
    split_ifs
    · exact hs.collectIfEmpty henabled.2.1
    · exact hs
  | answer lines =>
    obtain ⟨pairs, hasking, -⟩ := henabled
    simp only [CLISession.after]
    split
    · split_ifs
      · exact hs
      · exact hs
    · exact hs
  | endConnectPd => exact hs

/-- **Entries of available controllers.** In every session, the calls of `collect_power_devices`
all leave entries of controllers only that are in `controllers_` and available at the clock reading
of the call, exactly when before each call every controller with an entry was in `controllers_`. -/
theorem keysAvailable_iff_of_session {tr : List (Transition (CLISession τ) CLISession.Event)}
    {s : CLISession τ} (h : IsSession tr s) :
    (∀ t ∈ tr, ∀ col ∈ t.source.collectCall t.label,
      (t.source.client.collectPowerDevices col).1.KeysAvailable col.now) ↔
      ∀ t ∈ tr, ∀ col ∈ t.source.collectCall t.label, t.source.client.KeysKnown := by
  obtain ⟨id, hrun⟩ := h
  refine forall₂_congr fun t ht => forall₂_congr fun col hcol => ?_
  obtain ⟨pre, -, hstep⟩ := hrun.of_mem ht
  exact CLIClient.keysAvailable_collectPowerDevices_iff (hstep.perm_of_collectCall hcol)

/-- The `DeviceInfo` of a microgrid controller. -/
def controllerInfo (mcId : Identity) : DeviceInfo where
  deviceId := mcId
  role := .microgridController

/-- A controller that is collected while it is available, and again after it has gone silent. -/
theorem keysAvailable_of_silence : ∃ (tr : List (Transition (CLISession ExactTime)
      CLISession.Event)) (s : CLISession ExactTime), IsSession tr s ∧
    s.client.mcToDevices.keys = [] ∧ ∀ t ∈ tr, ∀ col ∈ t.source.collectCall t.label,
      (t.source.client.collectPowerDevices col).1.KeysAvailable col.now :=
  have hrun := isSession_of_follow "cli"
    [.deviceInfo 0 (.valid (controllerInfo "mc1")),
      .listPd ⟨0, ["mc1"], fun _ => .taken [.valid ⟨"mc1", []⟩]⟩,
      .listPd ⟨Sec 9, ["mc1"], fun _ => .failed⟩] rfl
  ⟨_, _, hrun, by decide, (keysAvailable_iff_of_session hrun).mpr (by decide)⟩

/-- A controller that is disposed of after it has been collected keeps its entry. -/
theorem key_of_disposed_controller : ∃ (tr : List (Transition (CLISession ExactTime)
      CLISession.Event)) (s : CLISession ExactTime), IsSession tr s ∧
    ∃ t ∈ tr, ∃ col ∈ t.source.collectCall t.label,
      ¬(t.source.client.collectPowerDevices col).1.KeysAvailable col.now :=
  have hrun := isSession_of_follow "cli"
    [.deviceInfo 0 (.valid (controllerInfo "mc1")),
      .listPd ⟨0, ["mc1"], fun _ => .taken [.valid ⟨"mc1", []⟩]⟩,
      .deviceInfo 1 (.disposal (controllerInfo "mc1")),
      .listPd ⟨1, [], fun _ => .failed⟩] rfl
  ⟨_, _, hrun, by decide⟩

/-! ### What a collection lists -/

namespace CLIClient

/-- The sample of the controller that a request meets first is a disposal. -/
def MeetsDisposal (mcId : Identity) : RequestOutcome → Prop
  | .failed => False
  | .taken data => ∃ s ∈ data.find? (·.data.mcId = mcId), s.IsDisposal

instance (mcId : Identity) : (outcome : RequestOutcome) → Decidable (MeetsDisposal mcId outcome)
  | .failed => isFalse not_false
  | .taken data => inferInstanceAs (Decidable (∃ s ∈ data.find? _, s.IsDisposal))

section Listed

variable (c : CLIClient τ) (col : Collection)

/-- The reply of a controller that a collection takes. -/
def replyTaken (mcId : Identity) : Option PowerDevicesReply :=
  if c.Available col.now mcId then replyOf mcId (col.outcome mcId) else none

/-- The collection removes the entry of the controller: it is not available, or its reply has been
disposed of. -/
def DropsEntry (mcId : Identity) : Prop :=
  mcId ∈ c.controllers ∧ (¬c.Available col.now mcId ∨ MeetsDisposal mcId (col.outcome mcId))

omit [TimePoint τ] in
/-- The device is listed for the controller. -/
def Lists (mcId d : Identity) : Prop := ∃ pds ∈ c.mcToDevices.find? mcId, d ∈ pds.keys

variable {c col}

/-- A collection lists the devices of the replies that it takes, and those that were listed before,
except for the entries that it removes. -/
theorem lists_collectPowerDevices_iff (horder : col.order.Perm c.controllers.keys)
    (mcId d : Identity) : (c.collectPowerDevices col).1.Lists mcId d ↔
      (∃ reply ∈ c.replyTaken col mcId, ∃ pd ∈ reply.devices, pd.deviceInfo.deviceId = d) ∨
        c.Lists mcId d ∧ ¬c.DropsEntry col mcId := by
  obtain ⟨t, ht, hfind⟩ := c.collectPowerDevices_eq horder
  rw [ht]
  change (∃ pds ∈ t.find? mcId, d ∈ pds.keys) ↔ _
  rw [hfind, replyTaken, DropsEntry]
  by_cases hknown : mcId ∈ c.controllers
  · by_cases havailable : c.Available col.now mcId
    · rw [if_pos hknown, if_pos havailable, if_pos havailable]
      simp only [hknown, havailable, not_true_eq_false, false_or, true_and]
      cases houtcome : col.outcome mcId with
      | failed => simp [entryAfter, replyOf, MeetsDisposal, Lists]
      | taken data =>
        simp only [entryAfter, replyOf, MeetsDisposal]
        cases hs : data.find? (·.data.mcId = mcId) with
        | none => simp [Lists]
        | some s =>
          cases hvalid : s.validData with
          | true =>
            simp only [if_true, Option.mem_def, Option.some.injEq, exists_eq_left', Lists,
              InfoSample.IsDisposal, hvalid, Bool.true_eq_false, false_and, not_false_eq_true,
              and_true, ← AList.mem_keys, Table.mem_foldl_set]
            refine or_congr_right ?_
            cases c.mcToDevices.find? mcId with
            | none => simp
            | some pds => simp
          | false =>
            by_cases hdisposed : s.instanceState = .notAliveDisposed
            · simp [InfoSample.IsDisposal, hvalid, hdisposed]
            · simp [InfoSample.IsDisposal, hvalid, hdisposed, Lists]
    · rw [if_pos hknown, if_neg havailable, if_neg havailable]
      simp [hknown, havailable]
  · rw [if_neg hknown, if_neg fun h : c.Available col.now mcId => hknown h.mem]
    simp [hknown, Lists]

end Listed

end CLIClient

/-- An event changes what is listed by the collection that it makes. -/
theorem CLISession.mcToDevices_after (s : CLISession τ) (e : CLISession.Event) :
    (s.after e).client.mcToDevices = match s.collectCall e with
      | some col => (s.client.collectPowerDevices col).1.mcToDevices
      | none => s.client.mcToDevices := by
  cases e with
  | deviceInfo now di =>
    simp only [after, CLIClient.processDeviceInfo]
    split_ifs <;> rfl
  | heartbeat now hb =>
    simp only [after, CLIClient.processHeartbeat]
    split_ifs <;> rfl
  | listPd col => rfl
  | startStop input col now order =>
    simp only [after, collectCall, CLIClient.sendStartStopRequest]
    cases CLIClient.startStopPriority input with
    | none => rfl
    | some opt =>
      cases (CLIClient.parse input).2 with
      | none => rfl
      | some pdId =>
        simp only [CLIClient.collectIfEmpty, Option.isSome_some, true_and]
        split_ifs <;> rfl
  | connectPd col order devices =>
    simp only [after, collectCall, CLIClient.consolidateIfEmpty]
    by_cases hdevices : s.client.powerDevices.keys = []
    · rw [if_pos hdevices]
      simp only [CLIClient.consolidatePowerDevices, CLIClient.consolidate,
        CLIClient.collectIfEmpty, hdevices, true_and]
      split_ifs <;> rfl
    · rw [if_neg hdevices, if_neg fun h => hdevices h.1]
  | answer lines =>
    simp only [after, collectCall]
    split
    · split_ifs <;> rfl
    · rfl
  | endConnectPd => rfl

/-! ### Devices of the replies -/

/-- An operator's session and the microgrid controllers. -/
structure Microgrid (τ : Type) where
  session : CLISession τ
  controllers : Table Identity Controller

namespace Microgrid

/-- What can happen: an event of the session, or samples that reach a controller. -/
inductive Event
  | cli (e : CLISession.Event)
  | deviceInfo (mcId : Identity) (s : Sample DeviceInfo)
  | activeController (mcId : Identity) (data : List (Sample ActiveMicrogridControllerState))

variable (m : Microgrid τ)

/-- The microgrid after an event. -/
def after : Event → Microgrid τ
  | .cli e => { m with session := m.session.after e }
  | .deviceInfo mcId s => { m with controllers := m.controllers.modify mcId (·.deviceInfoCb s) }
  | .activeController mcId data =>
    { m with controllers := m.controllers.modify mcId (·.amcsOnDataAvailable data) }

/-- Only the events of the session are restricted. -/
def Enabled : Event → Prop
  | .cli e => m.session.Enabled e
  | .deviceInfo _ _ | .activeController _ _ => True

instance : (e : Event) → Decidable (m.Enabled e)
  | .cli e => inferInstanceAs (Decidable (m.session.Enabled e))
  | .deviceInfo _ _ | .activeController _ _ => isTrue trivial

/-- The steps of a microgrid. -/
def Step (e : Event) (m' : Microgrid τ) : Prop := m.Enabled e ∧ m' = m.after e

/-- The step for an event, if it can be taken. -/
def next? (e : Event) : Option (Event × Microgrid τ) :=
  if m.Enabled e then some (e, m.after e) else none

theorem step_of_next? (e e' : Event) (m' : Microgrid τ) (h : m.next? e = some (e', m')) :
    m.Step e' m' := by
  obtain ⟨henabled, rfl, rfl⟩ := of_guard_eq_some h
  exact ⟨henabled, rfl⟩

/-- The call of `collect_power_devices` that an event makes. -/
def collectCall : Event → Option CLIClient.Collection
  | .cli e => m.session.collectCall e
  | _ => none

/-- Every request to an available controller meets the reply that the controller sends. -/
def Answered (col : CLIClient.Collection) : Prop :=
  ∀ mcId ∈ m.session.client.controllers.keys, m.session.client.Available col.now mcId →
    ∃ ctl ∈ m.controllers.find? mcId,
      CLIClient.replyOf mcId (col.outcome mcId) = some ctl.powerDevicesReply

/-- The device is in the reply of the controller. -/
def InReply (ctl : Controller) (d : Identity) : Prop :=
  ∃ pd ∈ ctl.powerDevicesReply.devices, pd.deviceInfo.deviceId = d

/-- The controller has recorded that the device has selected it, or nobody. -/
def RecordsForItself (ctl : Controller) (d : Identity) : Prop :=
  ∃ pd ∈ ctl.powerDevices.find? d, pd.masterId = none ∨ pd.masterId = some ctl.deviceId

/-- A table of `mc_to_devices_` lists, for the controllers that are available, only devices that
are in the reply of the controller and recorded there. -/
def ListsReplied (now : ℤ) (listed : Table Identity PowerDevices) : Prop :=
  ∀ mcId ∈ m.session.client.controllers.keys, m.session.client.Available now mcId →
    ∀ pds ∈ listed.find? mcId, ∀ d ∈ pds.keys, ∀ ctl ∈ m.controllers.find? mcId,
      InReply ctl d ∧ RecordsForItself ctl d

/-- The step takes the reply from the controller. -/
def Takes (mcId : Identity) (reply : PowerDevicesReply) (t : Transition (Microgrid τ) Event) :
    Prop :=
  ∃ col ∈ t.source.collectCall t.label, t.source.session.client.replyTaken col mcId = some reply

/-- The step does not remove the entry of the controller. -/
def KeepsEntry (mcId : Identity) (t : Transition (Microgrid τ) Event) : Prop :=
  ∀ col ∈ t.source.collectCall t.label, ¬t.source.session.client.DropsEntry col mcId

/-- For the controllers that are available, every device named in a reply that was taken since the
entry of the controller was last removed is in the reply that the controller sends now. -/
def NamedAreReplied (now : ℤ) (tr : List (Transition (Microgrid τ) Event)) : Prop :=
  ∀ mcId ∈ m.session.client.controllers.keys, m.session.client.Available now mcId →
    ∀ ctl ∈ m.controllers.find? mcId, ∀ reply, Since (Takes mcId reply) (KeepsEntry mcId) tr →
      ∀ pd ∈ reply.devices, InReply ctl pd.deviceInfo.deviceId

/-- Every device that is listed for an available controller is in its reply. -/
def ListedAreReplied (now : ℤ) : Prop :=
  ∀ mcId ∈ m.session.client.controllers.keys, m.session.client.Available now mcId →
    ∀ pds ∈ m.session.client.mcToDevices.find? mcId, ∀ d ∈ pds.keys,
      ∀ ctl ∈ m.controllers.find? mcId, InReply ctl d

instance (ctl : Controller) (d : Identity) : Decidable (InReply ctl d) :=
  inferInstanceAs (Decidable (∃ pd ∈ ctl.powerDevicesReply.devices, _))

omit [TimePoint τ] in
instance (ctl : Controller) (d : Identity) : Decidable (RecordsForItself ctl d) :=
  inferInstanceAs (Decidable (∃ pd ∈ ctl.powerDevices.find? d, _))

instance (col : CLIClient.Collection) : Decidable (m.Answered col) :=
  inferInstanceAs (Decidable (∀ mcId ∈ m.session.client.controllers.keys, _))

instance (now : ℤ) (listed : Table Identity PowerDevices) :
    Decidable (m.ListsReplied now listed) :=
  inferInstanceAs (Decidable (∀ mcId ∈ m.session.client.controllers.keys, _))

instance (now : ℤ) : Decidable (m.ListedAreReplied now) :=
  inferInstanceAs (Decidable (∀ mcId ∈ m.session.client.controllers.keys, _))

end Microgrid

/-- `tr` is a run of a new client and new controllers, which ends in `m`. -/
def IsMicrogridRun (tr : List (Transition (Microgrid τ) Microgrid.Event)) (m : Microgrid τ) :
    Prop :=
  ∃ id controllers, (∀ mcId, ∀ ctl ∈ controllers.find? mcId, ctl = { deviceId := mcId }) ∧
    IsRun Microgrid.Step ⟨⟨{ deviceId := id }, none⟩, controllers⟩ tr m

namespace Microgrid

/-- Controllers are listed under their ids, and their devices under the ids of the devices. -/
def Keyed (controllers : Table Identity Controller) : Prop :=
  ∀ mcId, ∀ ctl ∈ controllers.find? mcId, ctl.deviceId = mcId ∧
    ∀ d, ∀ pd ∈ ctl.powerDevices.find? d, pd.deviceInfo.deviceId = d

theorem Keyed.modify {controllers : Table Identity Controller} (h : Keyed controllers)
    (mcId : Identity) {f : Controller → Controller} (hid : ∀ ctl, (f ctl).deviceId = ctl.deviceId)
    (hf : ∀ ctl, (∀ d, ∀ pd ∈ ctl.powerDevices.find? d, pd.deviceInfo.deviceId = d) →
      ∀ d, ∀ pd ∈ (f ctl).powerDevices.find? d, pd.deviceInfo.deviceId = d) :
    Keyed (controllers.modify mcId f) := by
  intro k ctl hctl
  rw [Option.mem_def, Table.find?_modify] at hctl
  split_ifs at hctl with hk
  · obtain ⟨ctl', hctl', rfl⟩ := Option.map_eq_some_iff.mp hctl
    obtain ⟨hid', hdevices⟩ := h mcId ctl' hctl'
    exact ⟨by rw [hid, hid', hk], hf ctl' hdevices⟩
  · exact h k ctl hctl

section Controllers

variable {ctl : Controller}

theorem keyed_deviceInfoCb (s : Sample DeviceInfo)
    (h : ∀ d, ∀ pd ∈ ctl.powerDevices.find? d, pd.deviceInfo.deviceId = d) (d : Identity) :
    ∀ pd ∈ (ctl.deviceInfoCb s).powerDevices.find? d, pd.deviceInfo.deviceId = d := by
  intro pd hpd
  rw [Controller.deviceInfoCb] at hpd
  split_ifs at hpd with hown hrole
  · exact h d pd hpd
  · rw [Option.mem_def, Table.find?_insertNew] at hpd
    split_ifs at hpd with hd
    · cases hold : ctl.powerDevices.find? s.data.deviceId with
      | none =>
        rw [hold] at hpd
        obtain rfl := Option.some.inj hpd
        exact hd.symm
      | some pd' =>
        rw [hold] at hpd
        obtain rfl := Option.some.inj hpd
        exact hd ▸ h _ _ hold
    · exact h d pd hpd
  · exact h d pd hpd

theorem keyed_amcsOnDataAvailable (data : List (Sample ActiveMicrogridControllerState))
    (h : ∀ d, ∀ pd ∈ ctl.powerDevices.find? d, pd.deviceInfo.deviceId = d) :
    ∀ d, ∀ pd ∈ (ctl.amcsOnDataAvailable data).powerDevices.find? d,
      pd.deviceInfo.deviceId = d := by
  rw [Controller.amcsOnDataAvailable]
  induction data generalizing ctl with
  | nil => exact h
  | cons s data ih =>
    refine ih fun d pd hpd => ?_
    rw [Controller.gotActiveController] at hpd
    split_ifs at hpd
    · rw [Controller.setActiveController, Option.mem_def, Table.find?_modify] at hpd
      split_ifs at hpd with hd
      · obtain ⟨pd', hpd', rfl⟩ := Option.map_eq_some_iff.mp hpd
        exact hd ▸ h _ pd' hpd'
      · exact h d pd hpd
    · exact h d pd hpd

theorem deviceId_deviceInfoCb (s : Sample DeviceInfo) :
    (ctl.deviceInfoCb s).deviceId = ctl.deviceId := by
  rw [Controller.deviceInfoCb]
  split_ifs <;> rfl

theorem deviceId_amcsOnDataAvailable (data : List (Sample ActiveMicrogridControllerState)) :
    (ctl.amcsOnDataAvailable data).deviceId = ctl.deviceId := by
  rw [Controller.amcsOnDataAvailable]
  induction data generalizing ctl with
  | nil => rfl
  | cons s data ih =>
    refine ih.trans ?_
    rw [Controller.gotActiveController]
    split_ifs <;> rfl

/-- A device in the reply of a controller is recorded there. -/
theorem InReply.recordsForItself
    (h : ∀ d, ∀ pd ∈ ctl.powerDevices.find? d, pd.deviceInfo.deviceId = d) {d : Identity}
    (hd : InReply ctl d) : RecordsForItself ctl d := by
  obtain ⟨pd, hpd, rfl⟩ := hd
  obtain ⟨hmem, hmaster⟩ := List.mem_filter.mp hpd
  obtain ⟨⟨key, pd'⟩, hentry, rfl⟩ := List.mem_map.mp hmem
  have hfind := Table.mem_entries_iff.mp hentry
  rw [h key pd' hfind]
  exact ⟨pd', hfind, of_decide_eq_true hmaster⟩

end Controllers

/-- A collection in which every request is answered lists only devices of the replies exactly when
only such devices were listed before: it keeps all that was listed. -/
theorem listsReplied_collectPowerDevices_iff {m : Microgrid τ} {col : CLIClient.Collection}
    (hkeyed : Keyed m.controllers)
    (horder : col.order.Perm m.session.client.controllers.keys) (hanswered : m.Answered col) :
    m.ListsReplied col.now (m.session.client.collectPowerDevices col).1.mcToDevices ↔
      m.ListedAreReplied col.now := by
  obtain ⟨t, ht, hfind⟩ := m.session.client.collectPowerDevices_eq horder
  rw [ht]
  change m.ListsReplied col.now t ↔ _
  refine forall₃_congr fun mcId hmem havailable => ?_
  obtain ⟨ctl, hctl, hreply⟩ := hanswered mcId hmem havailable
  have hentry := hfind mcId
  rw [if_pos (AList.mem_keys.mpr hmem), if_pos havailable,
    CLIClient.entryAfter_of_replyOf hreply] at hentry
  constructor
  · intro h pds hpds d hd ctl' hctl'
    refine (h _ hentry d ?_ ctl' hctl').1
    rw [Option.mem_def.mp hpds, Option.getD_some]
    exact AList.mem_keys.mp ((Table.mem_foldl_set _ _ _).mpr (Or.inr (AList.mem_keys.mpr hd)))
  · intro h pds hpds d hd ctl' hctl'
    obtain rfl := Option.some.inj (hctl.symm.trans hctl')
    obtain rfl := Option.some.inj (hentry.symm.trans hpds)
    suffices hin : InReply ctl d from ⟨hin, hin.recordsForItself (hkeyed mcId ctl hctl).2⟩
    rcases (Table.mem_foldl_set _ _ _).mp (AList.mem_keys.mpr hd) with hnew | hold
    · exact hnew
    · cases hbefore : m.session.client.mcToDevices.find? mcId with
      | none =>
        rw [hbefore, Option.getD_none] at hold
        exact absurd hold (AList.notMem_empty d)
      | some pds =>
        rw [hbefore, Option.getD_some] at hold
        exact h pds hbefore d (AList.mem_keys.mp hold) ctl hctl

end Microgrid

theorem IsMicrogridRun.keyed {tr : List (Transition (Microgrid τ) Microgrid.Event)}
    {m : Microgrid τ} (h : IsMicrogridRun tr m) : Microgrid.Keyed m.controllers := by
  obtain ⟨id, controllers, hnew, hrun⟩ := h
  refine hrun.invariant (P := fun m => Microgrid.Keyed m.controllers) ?_ ?_
  · intro mcId ctl hctl
    obtain rfl := hnew mcId ctl hctl
    exact ⟨rfl, fun d pd hpd => by cases hpd⟩
  · rintro m e m' hm ⟨-, rfl⟩
    cases e with
    | cli e => exact hm
    | deviceInfo mcId s =>
      exact hm.modify mcId (fun ctl => Microgrid.deviceId_deviceInfoCb s)
        fun ctl hctl => Microgrid.keyed_deviceInfoCb s hctl
    | activeController mcId data =>
      exact hm.modify mcId (fun ctl => Microgrid.deviceId_amcsOnDataAvailable data)
        fun ctl hctl => Microgrid.keyed_amcsOnDataAvailable data hctl

/-- The devices listed for a controller are those that its replies have named since its entry was
last removed. -/
theorem IsMicrogridRun.listed_iff {tr : List (Transition (Microgrid τ) Microgrid.Event)}
    {m : Microgrid τ} (h : IsMicrogridRun tr m) (mcId d : Identity) :
    m.session.client.Lists mcId d ↔
      ∃ reply, Since (Microgrid.Takes mcId reply) (Microgrid.KeepsEntry mcId) tr ∧
        ∃ pd ∈ reply.devices, pd.deviceInfo.deviceId = d := by
  obtain ⟨id, controllers, -, hrun⟩ := h
  refine hrun.traceInvariant (P := fun tr m => m.session.client.Lists mcId d ↔
    ∃ reply, Since (Microgrid.Takes mcId reply) (Microgrid.KeepsEntry mcId) tr ∧
      ∃ pd ∈ reply.devices, pd.deviceInfo.deviceId = d) ?_ ?_
  · refine iff_of_false ?_ fun ⟨reply, hsince, _⟩ => not_since_nil hsince
    rintro ⟨pds, hpds, -⟩
    cases hpds
  · rintro tr m e m' - ih ⟨henabled, rfl⟩
    simp only [since_snoc]
    have hstays : (m.after e).session.client.mcToDevices = m.session.client.mcToDevices →
        ((m.after e).session.client.Lists mcId d ↔ m.session.client.Lists mcId d) := fun h => by
      rw [CLIClient.Lists, h, CLIClient.Lists]
    cases hcall : m.collectCall e with
    | none =>
      have hkeeps : Microgrid.KeepsEntry mcId ⟨m, e, m.after e⟩ := fun col hcol => by
        cases hcall.symm.trans hcol
      have htakes : ∀ reply, ¬Microgrid.Takes mcId reply ⟨m, e, m.after e⟩ := by
        rintro reply ⟨col, hcol, -⟩
        cases hcall.symm.trans hcol
      simp only [hkeeps, htakes, false_or, and_true, ← ih]
      refine hstays ?_
      cases e with
      | cli e =>
        have hafter := m.session.mcToDevices_after e
        rwa [show m.session.collectCall e = none from hcall] at hafter
      | deviceInfo | activeController => rfl
    | some col =>
      cases e with
      | cli e =>
        have hcol : m.session.collectCall e = some col := hcall
        have hafter := m.session.mcToDevices_after e
        have hstep : m.session.Step e (m.session.after e) := ⟨henabled, rfl⟩
        have horder := hstep.perm_of_collectCall hcol
        have hlists := CLIClient.lists_collectPowerDevices_iff horder mcId d
        have htakes : ∀ reply, Microgrid.Takes mcId reply ⟨m, .cli e, m.after (.cli e)⟩ ↔
            m.session.client.replyTaken col mcId = some reply := fun reply => by
          simp [Microgrid.Takes, hcall]
        have hkeeps : Microgrid.KeepsEntry mcId ⟨m, .cli e, m.after (.cli e)⟩ ↔
            ¬m.session.client.DropsEntry col mcId := by
          simp [Microgrid.KeepsEntry, hcall]
        rw [hcol] at hafter
        rw [CLIClient.Lists, show (m.after (.cli e)).session.client.mcToDevices = _ from hafter]
        refine hlists.trans ?_
        simp only [htakes, hkeeps, ih, Option.mem_def]
        constructor
        · rintro (⟨reply, htaken, hnamed⟩ | ⟨⟨reply, hsince, hnamed⟩, hdrops⟩)
          · exact ⟨reply, Or.inl htaken, hnamed⟩
          · exact ⟨reply, Or.inr ⟨hsince, hdrops⟩, hnamed⟩
        · rintro ⟨reply, htaken | ⟨hsince, hdrops⟩, hnamed⟩
          · exact Or.inl ⟨reply, htaken, hnamed⟩
          · exact Or.inr ⟨⟨reply, hsince, hnamed⟩, hdrops⟩
      | deviceInfo | activeController => cases hcall

theorem IsMicrogridRun.listedAreReplied_iff {tr : List (Transition (Microgrid τ) Microgrid.Event)}
    {m : Microgrid τ} (h : IsMicrogridRun tr m) {now : ℤ} :
    m.ListedAreReplied now ↔ m.NamedAreReplied now tr := by
  refine forall₃_congr fun mcId _ _ => ?_
  constructor
  · rintro hlisted ctl hctl reply hsince pd hpd
    obtain ⟨pds, hpds, hd⟩ := (h.listed_iff mcId _).mpr ⟨reply, hsince, pd, hpd, rfl⟩
    exact hlisted pds hpds _ hd ctl hctl
  · intro hnamed pds hpds d hd ctl hctl
    obtain ⟨reply, hsince, pd, hpd, rfl⟩ := (h.listed_iff mcId d).mp ⟨pds, hpds, hd⟩
    exact hnamed ctl hctl reply hsince pd hpd

/-- **Devices of the replies.** In every run, the calls of `collect_power_devices` whose requests
are all answered leave, for each available controller, only devices that are in the reply of the
controller and recorded there, exactly when at each such call every device that an earlier reply of
an available controller named, since its entry was last removed, is in the reply that it sends. -/
theorem listsReplied_iff_of_run {tr : List (Transition (Microgrid τ) Microgrid.Event)}
    {m : Microgrid τ} (h : IsMicrogridRun tr m) :
    (∀ t ∈ tr, ∀ col ∈ t.source.collectCall t.label, t.source.Answered col →
      t.source.ListsReplied col.now
        (t.source.session.client.collectPowerDevices col).1.mcToDevices) ↔
      ∀ pre t, pre ++ [t] <+: tr → ∀ col ∈ t.source.collectCall t.label, t.source.Answered col →
        t.source.NamedAreReplied col.now pre := by
  rw [← forall_prefix_snoc_iff]
  obtain ⟨id, controllers, hnew, hrun⟩ := h
  refine forall₃_congr fun pre t hpre => forall₃_congr fun col hcol hanswered => ?_
  obtain ⟨hbefore, henabled, -⟩ := hrun.of_prefix_snoc hpre
  have hbefore : IsMicrogridRun pre t.source := ⟨id, controllers, hnew, hbefore⟩
  rw [← hbefore.listedAreReplied_iff]
  rcases t with ⟨m', e, m''⟩
  cases e with
  | cli e =>
    have hstep : m'.session.Step e (m'.session.after e) := ⟨henabled, rfl⟩
    exact Microgrid.listsReplied_collectPowerDevices_iff hbefore.keyed
      (hstep.perm_of_collectCall hcol) hanswered
  | deviceInfo | activeController => cases hcol

/-- Two controllers, and the answers to an operator while one of them lists a load. -/
def Microgrid.moveEvents (mcId other : Identity) (now : ℤ) : List Microgrid.Event :=
  let load : DeviceInfo := { deviceId := "load", role := .load }
  [.activeController mcId [⟨⟨"load", some mcId⟩, true⟩],
    .activeController other [⟨⟨"load", some mcId⟩, true⟩],
    .cli (.listPd ⟨now, ["mc1", "mc2"], fun k => .taken [.valid ⟨k,
      if k = mcId then [⟨load, .operational, some mcId⟩] else []⟩]⟩)]

/-- The controllers and the load of `Microgrid.moveEvents` become known. -/
def Microgrid.joinEvents : List Microgrid.Event :=
  let load : Sample DeviceInfo := ⟨{ deviceId := "load", role := .load }, true⟩
  [.cli (.deviceInfo 0 (.valid (controllerInfo "mc1"))),
    .cli (.deviceInfo 0 (.valid (controllerInfo "mc2"))),
    .deviceInfo "mc1" load, .deviceInfo "mc2" load]

/-- The two new controllers of `Microgrid.joinEvents`. -/
def Microgrid.twoControllers : Table Identity Controller :=
  ((∅ : Table Identity Controller).set "mc2" { deviceId := "mc2" }).set "mc1" { deviceId := "mc1" }

theorem Microgrid.eq_new_of_twoControllers (mcId : Identity) :
    ∀ ctl ∈ Microgrid.twoControllers.find? mcId, ctl = { deviceId := mcId } := by
  intro ctl hctl
  rw [Option.mem_def, Microgrid.twoControllers, Table.find?_set, Table.find?_set] at hctl
  split_ifs at hctl with h₁ h₂
  · exact h₁ ▸ (Option.some.inj hctl).symm
  · exact h₂ ▸ (Option.some.inj hctl).symm
  · cases hctl

/-- A load that keeps its controller. -/
theorem listsReplied_of_unmoved : ∃ (tr : List (Transition (Microgrid ExactTime) Microgrid.Event))
      (m : Microgrid ExactTime), IsMicrogridRun tr m ∧
    (∃ t ∈ tr, ∃ col ∈ t.source.collectCall t.label, t.source.Answered col) ∧
    ∀ t ∈ tr, ∀ col ∈ t.source.collectCall t.label, t.source.Answered col →
      t.source.ListsReplied col.now
        (t.source.session.client.collectPowerDevices col).1.mcToDevices := by
  obtain ⟨tr, m, hrun, hanswered, hlisted⟩ := exists_isRun_of_follow Microgrid.step_of_next?
    (s := ⟨⟨{ deviceId := "cli" }, none⟩, Microgrid.twoControllers⟩)
    (P := fun tr (_ : Microgrid ExactTime) =>
      (∃ t ∈ tr, ∃ col ∈ t.source.collectCall t.label, t.source.Answered col) ∧
      ∀ t ∈ tr, ∀ col ∈ t.source.collectCall t.label, t.source.ListedAreReplied col.now)
    (Microgrid.joinEvents ++ Microgrid.moveEvents "mc1" "mc2" 0 ++
      Microgrid.moveEvents "mc1" "mc2" 1) (by decide)
  have hmicrogrid : ∀ {tr} {m : Microgrid ExactTime}, IsRun Microgrid.Step _ tr m →
      IsMicrogridRun tr m := fun h => ⟨"cli", _, Microgrid.eq_new_of_twoControllers, h⟩
  refine ⟨tr, m, hmicrogrid hrun, hanswered, (listsReplied_iff_of_run (hmicrogrid hrun)).mpr ?_⟩
  intro pre t hpre col hcol _
  have hmem := hpre.subset (List.mem_append_right _ List.mem_cons_self)
  exact (hmicrogrid (hrun.of_prefix_snoc hpre).1).listedAreReplied_iff.mp (hlisted t hmem col hcol)

/-- A load that has moved to another controller stays listed for the first one. -/
theorem moved_device_stays_listed :
    ∃ (tr : List (Transition (Microgrid ExactTime) Microgrid.Event)) (m : Microgrid ExactTime),
      IsMicrogridRun tr m ∧ ∃ t ∈ tr, ∃ col ∈ t.source.collectCall t.label,
        t.source.Answered col ∧ ¬t.source.ListsReplied col.now
          (t.source.session.client.collectPowerDevices col).1.mcToDevices :=
  have hrun := isRun_of_follow Microgrid.step_of_next?
    (s := ⟨⟨{ deviceId := "cli" }, none⟩, Microgrid.twoControllers⟩)
    (Microgrid.joinEvents ++ Microgrid.moveEvents "mc1" "mc2" 0 ++
      Microgrid.moveEvents "mc2" "mc1" 1) rfl
  ⟨_, _, ⟨_, _, Microgrid.eq_new_of_twoControllers, hrun⟩, by decide⟩

end TacticalMicrogrid
