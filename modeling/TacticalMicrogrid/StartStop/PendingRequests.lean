import TacticalMicrogrid.Controller.CLIServer
import TacticalMicrogrid.PowerDevices.PowerDevice
import TacticalMicrogrid.Library.Run

/-!
# Requests that wait for a reply

`CLIServer::start_stop_device` writes a request, sets the level that is recorded for the device, and
then enters the sequence number of the request in `pending_essr_`. `CLIServer::receive_reply` takes
the number out again. The two run in different threads, and `pending_essr_m_` is held by each access
alone. As soon as the request is written the device can answer it; a reply that is handled before
the number is entered takes nothing out, and the number stays.

Any number of calls can be under way, and every access to the data of the server is a step of its
own. DDS may lose, duplicate, delay and reorder replies, but a reply to this controller answers a
request that has been written.

## Main definitions

* `CLIServer.startStopWrite`, `CLIServer.insertPending`: the parts of `start_stop_device`.
* `PendingSystem`, `PendingSystem.Action`, `PendingSystem.act`: the server and the calls under way.
* `PendingSystem.replied`, `PendingSystem.returned`: the numbers whose reply has been handled, and
  those whose call has returned.
* `PendingSystem.NothingLeft`.

## Main results

* `CLIServer.startStopDevice_eq`: the parts one after the other are `start_stop_device`.
* `PendingSystem.mem_pendingEssr_act`: what a step does to `pending_essr_`.
* `PendingSystem.nothingLeft_iff`: when no number stays.
-/

namespace TacticalMicrogrid

open TransitionSystem

namespace CLIServer

/-! ### The parts of `start_stop_device` -/

/-- `CLIServer::start_stop_device` up to the write, with the request if it has been written. -/
def startStopWrite (s : CLIServer) (pdId : Identity) (opt : OperatorPriorityType)
    (writeOk : Bool) : CLIServer × Option EnergyStartStopRequest :=
  match s.controller.powerDevices.find? pdId with
  | none => (s, none)
  | some pd =>
    let toEssl := esslFromOpt opt
    if toEssl = .unknown then (s, none)
    else if pd.essl = toEssl then (s, none)
    else if pd.masterId ≠ some s.controller.deviceId then
      ({ s with controller := s.controller.updateEssl pdId toEssl }, none)
    else
      ({ s with essrSeqnum := s.essrSeqnum + 1 },
        if writeOk then some (s.essrTo pdId toEssl) else none)

/-- The call of `Controller::update_essl` after the write. -/
def updateEssl (s : CLIServer) (essr : EnergyStartStopRequest) : CLIServer :=
  { s with controller := s.controller.updateEssl essr.requestId.targetDeviceId essr.toLevel }

/-- The end of `CLIServer::start_stop_device`, under `pending_essr_m_`. -/
def insertPending (s : CLIServer) (essr : EnergyStartStopRequest) : CLIServer :=
  { s with
    pendingEssr := s.pendingEssr.insertNew essr.sequenceId essr.requestId.targetDeviceId }

section Parts

variable (s : CLIServer) (pdId : Identity) (opt : OperatorPriorityType) (writeOk : Bool)

/-- If nothing comes in between, the parts are `start_stop_device`. -/
theorem startStopDevice_eq : s.startStopDevice pdId opt writeOk =
    match s.startStopWrite pdId opt writeOk with
    | (s', some essr) => ((s'.updateEssl essr).insertPending essr, [essr])
    | (s', none) => (s', []) := by
  rw [startStopDevice, startStopWrite]
  cases s.controller.powerDevices.find? pdId with
  | none => rfl
  | some pd =>
    simp only
    split_ifs <;> rfl

theorem pendingEssr_startStopWrite :
    (s.startStopWrite pdId opt writeOk).1.pendingEssr = s.pendingEssr := by
  rw [startStopWrite]
  cases s.controller.powerDevices.find? pdId with
  | none => rfl
  | some pd =>
    simp only
    split_ifs <;> rfl

end Parts

end CLIServer

/-- The reply answers the request. -/
def Reply.Answers (reply : Reply) (essr : EnergyStartStopRequest) : Prop :=
  reply.requestingDeviceId = essr.requestId.requestingDeviceId ∧
    reply.targetDeviceId = essr.requestId.targetDeviceId ∧
    reply.requestSequenceId = essr.sequenceId

instance (reply : Reply) (essr : EnergyStartStopRequest) : Decidable (reply.Answers essr) :=
  inferInstanceAs (Decidable (_ ∧ _ ∧ _))

/-- What a device replies to a request that it obeys answers the request. -/
theorem PowerDevice.Accepts.answers {τ : Type} {d : PowerDevice τ}
    {s : Sample EnergyStartStopRequest} (h : d.Accepts s) : (d.okReply s.data).Answers s.data := by
  obtain ⟨-, -, htarget⟩ := h
  exact ⟨rfl, htarget.symm, rfl⟩

/-- A call of `start_stop_device` that has written its request, and whether it has set the recorded
level. -/
structure PendingCall where
  essr : EnergyStartStopRequest
  levelSet : Bool := false
deriving DecidableEq

/-- A server, its calls that are under way, and the requests that have been written. -/
structure PendingSystem where
  server : CLIServer
  calls : List PendingCall := []
  written : List EnergyStartStopRequest := []

namespace PendingSystem

/-! ### Steps -/

/-- A call starts and writes its request, a call that is under way goes on, a reply is handled, or
another listener changes what is recorded about the devices. -/
inductive Action
  | startStop (pdId : Identity) (opt : OperatorPriorityType) (writeOk : Bool)
  | updateEssl (i : ℕ)
  | insertPending (i : ℕ)
  | reply (s : Sample Reply)
  | deviceInfo (di : Sample DeviceInfo)
  | activeControllers (data : List (Sample ActiveMicrogridControllerState))
deriving DecidableEq

variable (m : PendingSystem)

/-- The sample is a reply to this controller. -/
def IsOwn (s : Sample Reply) : Prop :=
  s.validData = true ∧ s.data.requestingDeviceId = m.server.controller.deviceId

instance (s : Sample Reply) : Decidable (m.IsOwn s) := inferInstanceAs (Decidable (_ ∧ _))

/-- A reply to this controller answers a request that has been written. -/
def Delivers (s : Sample Reply) : Prop := m.IsOwn s → ∃ essr ∈ m.written, s.data.Answers essr

instance (s : Sample Reply) : Decidable (m.Delivers s) := inferInstanceAs (Decidable (_ → _))

/-- A step, if it can be taken. -/
def act : Action → Option PendingSystem
  | .startStop pdId opt writeOk =>
    let (server, essr) := m.server.startStopWrite pdId opt writeOk
    some
      { server
        calls := m.calls ++ essr.toList.map ({ essr := · })
        written := m.written ++ essr.toList }
  | .updateEssl i => match m.calls[i]? with
    | some ⟨essr, false⟩ =>
      some { m with server := m.server.updateEssl essr, calls := m.calls.set i ⟨essr, true⟩ }
    | _ => none
  | .insertPending i => match m.calls[i]? with
    | some ⟨essr, true⟩ =>
      some { m with server := m.server.insertPending essr, calls := m.calls.eraseIdx i }
    | _ => none
  | .reply s =>
    if m.Delivers s then some { m with server := m.server.replyOnDataAvailable [s] } else none
  | .deviceInfo di =>
    some { m with server := { m.server with controller := m.server.controller.deviceInfoCb di } }
  | .activeControllers data =>
    some { m with server := { m.server with
      controller := m.server.controller.amcsOnDataAvailable data } }

/-- The steps of the system. -/
def Step (a : Action) (m' : PendingSystem) : Prop := m.act a = some m'

/-- A step with its label. -/
def next? (a : Action) : Option (Action × PendingSystem) := (m.act a).map fun m' => (a, m')

theorem step_of_next? (a l : Action) (m' : PendingSystem) (h : m.next? a = some (l, m')) :
    m.Step l m' := by
  obtain ⟨m'', hact, heq⟩ := Option.map_eq_some_iff.mp h
  obtain ⟨rfl, rfl⟩ := Prod.mk.inj heq
  exact hact

/-- The transitions of a run. -/
abbrev Trace := List (Transition PendingSystem Action)

/-- A new server. -/
def init (mcId : Identity) : PendingSystem where
  server := { controller := { deviceId := mcId } }

/-! ### What stays -/

/-- The number of the reply that `receive_reply` handles in a step. -/
def answered : Action → Option UInt64
  | .reply s => if m.IsOwn s then some s.data.requestSequenceId else none
  | _ => none

/-- The number of the request whose call returns in a step. -/
def finished : Action → Option UInt64
  | .insertPending i => m.calls[i]?.map (·.essr.sequenceId)
  | _ => none

/-- The numbers whose reply has been handled. -/
def replied (tr : Trace) : List UInt64 := tr.filterMap fun t => t.source.answered t.label

/-- The numbers whose call has returned. -/
def returned (tr : Trace) : List UInt64 := tr.filterMap fun t => t.source.finished t.label

/-- A number whose reply has been handled and whose call has returned is not pending. -/
def NothingLeft (tr : Trace) (m : PendingSystem) : Prop :=
  ∀ n ∈ replied tr, n ∈ returned tr → n ∉ m.server.pendingEssr

/-- A number that is entered has not been replied to before. -/
def EntersFirst (tr : Trace) (m : PendingSystem) (a : Action) : Prop :=
  ∀ n ∈ m.finished a, n ∉ replied tr

-- Not by going through all numbers.
instance (tr : Trace) (a : Action) : Decidable (EntersFirst tr m a) :=
  match h : m.finished a with
  | none => isTrue (by simp [EntersFirst, h])
  | some n => decidable_of_iff (n ∉ replied tr) (by simp [EntersFirst, h])

section Steps

variable {m} {m' : PendingSystem} {a : Action} {n : UInt64} {tr : Trace}

theorem mem_pendingEssr_reply (s : Sample Reply) :
    n ∈ (m.server.replyOnDataAvailable [s]).pendingEssr ↔
      n ∈ m.server.pendingEssr ∧ m.answered (.reply s) ≠ some n := by
  have hreply : m.server.replyOnDataAvailable [s] =
      if m.IsOwn s then m.server.receiveReply s.data else m.server := rfl
  rw [hreply, answered]
  split_ifs with hown
  · rw [CLIServer.receiveReply, Table.mem_erase, and_comm, ne_comm, ne_eq, ne_eq,
      Option.some.injEq]
  · simp

/-- What a step does to the pending requests: the number of a reply goes, and that of a call that
returns comes. -/
theorem mem_pendingEssr_act (h : m.act a = some m') : n ∈ m'.server.pendingEssr ↔
    n ∈ m.server.pendingEssr ∧ m.answered a ≠ some n ∨ m.finished a = some n := by
  cases a with
  | startStop pdId opt writeOk =>
    simp only [act, Option.some.injEq] at h
    rw [← h, CLIServer.pendingEssr_startStopWrite]
    simp [answered, finished]
  | updateEssl i =>
    rw [act] at h
    split at h
    · obtain rfl := Option.some.inj h
      simp [CLIServer.updateEssl, answered, finished]
    · cases h
  | insertPending i =>
    rw [act] at h
    split at h
    · next essr hcall =>
      obtain rfl := Option.some.inj h
      rw [CLIServer.insertPending, Table.mem_insertNew, finished, hcall]
      simp [answered, or_comm, eq_comm]
    · cases h
  | reply s =>
    rw [act] at h
    split_ifs at h
    obtain rfl := Option.some.inj h
    rw [mem_pendingEssr_reply]
    simp [finished]
  | deviceInfo di =>
    obtain rfl := Option.some.inj h
    simp [answered, finished]
  | activeControllers data =>
    obtain rfl := Option.some.inj h
    simp [answered, finished]

/-- No step handles a reply and ends a call. -/
theorem answered_eq_none_of_finished (h : m.finished a = some n) : m.answered a = none := by
  cases a with
  | insertPending i => rfl
  | startStop | updateEssl | reply | deviceInfo | activeControllers => cases h

theorem mem_replied_concat {t : Transition PendingSystem Action} :
    n ∈ replied (tr ++ [t]) ↔ n ∈ replied tr ∨ t.source.answered t.label = some n := by
  simp [replied]

theorem mem_returned_concat {t : Transition PendingSystem Action} :
    n ∈ returned (tr ++ [t]) ↔ n ∈ returned tr ∨ t.source.finished t.label = some n := by
  simp [returned]

/-- A step leaves nothing if and only if it enters no number that has been replied to. -/
theorem NothingLeft.step_iff (h : NothingLeft tr m) (hstep : m.Step a m') :
    NothingLeft (tr ++ [⟨m, a, m'⟩]) m' ↔ EntersFirst tr m a := by
  constructor
  · intro hafter n hn hreplied
    refine hafter n (mem_replied_concat.mpr (Or.inl hreplied))
      (mem_returned_concat.mpr (Or.inr hn)) ?_
    exact (mem_pendingEssr_act hstep).mpr (Or.inr hn)
  · intro hfirst n hreplied hreturned hpending
    rcases (mem_pendingEssr_act hstep).mp hpending with ⟨hbefore, hother⟩ | hfinished
    · have hold := (mem_replied_concat.mp hreplied).resolve_right hother
      rcases mem_returned_concat.mp hreturned with hreturned | hfinished
      · exact h n hold hreturned hbefore
      · exact hfirst n hfinished hold
    · rcases mem_replied_concat.mp hreplied with hreplied | hanswered
      · exact hfirst n hfinished hreplied
      · exact absurd (hanswered.symm.trans (answered_eq_none_of_finished hfinished)) (by simp)

/-- **Requests that wait for a reply.** In every state of a run, no number whose reply has been
handled and whose call has returned is pending, if and only if every call enters its number before
a reply with the number is handled. -/
theorem nothingLeft_iff {mcId : Identity} (h : IsRun Step (init mcId) tr m) :
    (∀ pre r, pre <+: tr → IsRun Step (init mcId) pre r → NothingLeft pre r) ↔
      ∀ pre t, pre ++ [t] <+: tr → EntersFirst pre t.source t.label :=
  h.forall_prefix_iff nofun fun _ _ _ _ _ hleft hstep => hleft.step_iff hstep

end Steps

/-- What the controller hears before it sends a request: of a device, and that it is its master. -/
def preamble : List Action :=
  [.deviceInfo ⟨⟨"pd1", .source, none⟩, true⟩, .activeControllers [⟨⟨"pd1", some "mc1"⟩, true⟩]]

/-- The reply of the device to the first request. -/
def firstReply : Sample Reply :=
  ⟨⟨"mc1", "pd1", .active, invalidPortNumber, 0, ⟨.ok, "OK"⟩⟩, true⟩

/-- The call returns before the reply is handled. -/
theorem nothingLeft_of_slow_reply : ∃ (tr : Trace) (m : PendingSystem),
    IsRun Step (init "mc1") tr m ∧ replied tr = [0] ∧ returned tr = [0] ∧
      ∀ pre r, pre <+: tr → IsRun Step (init "mc1") pre r → NothingLeft pre r :=
  have hrun := isRun_of_follow step_of_next? (s := init "mc1")
    (preamble ++ [.startStop "pd1" .neverOperate true, .updateEssl 0, .insertPending 0,
      .reply firstReply]) rfl
  ⟨_, _, hrun, by decide, by decide,
    (nothingLeft_iff hrun).mpr (forall_prefix_snoc_iff_getElem.mpr (by decide))⟩

/-- The reply is handled before the call enters the number: the number stays. -/
theorem pending_after_fast_reply : ¬∀ (mcId : Identity) (tr : Trace) (m : PendingSystem),
    IsRun Step (init mcId) tr m → NothingLeft tr m := by
  intro h
  have hrun := isRun_of_follow step_of_next? (s := init "mc1")
    (preamble ++ [.startStop "pd1" .neverOperate true, .reply firstReply, .updateEssl 0,
      .insertPending 0]) rfl
  exact absurd (h _ _ _ hrun 0) (by decide)

end PendingSystem

end TacticalMicrogrid
