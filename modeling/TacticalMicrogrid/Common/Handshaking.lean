import TacticalMicrogrid.Common.Timer
import TacticalMicrogrid.Library.Run
import Mathlib.Tactic.Linarith

/-!
# Announcing a participant and sending its heartbeats

`common/Handshaking.h` and `common/Handshaking.cpp`: a participant writes its `DeviceInfo` once and
then a `Heartbeat` every second, with a sequence number that starts at zero and wraps around; the
heartbeats can be stopped and started again. The periodic timer is one of a `TimerHandler`: the
reactor puts it back on its queue before its upcall. When it is due again is decided by the reactor,
which is not part of this repository: it is an input of a timeout here, and what `heartbeat` relies
on is the hypothesis `Handshaking.OnSchedule`. The entities of the participant are left out, but for
whether its two writers exist; what `write` and `register_instance` return is an input.

## Main definitions

* `Handshaking`, `Handshaking.sendDeviceInfo`, `Handshaking.startHeartbeats`,
  `Handshaking.stopHeartbeats`, `Handshaking.timerFired`, `Handshaking.handleTimeout`.
* `Timer.NextDue`, `Handshaking.OnSchedule`: the reactor keeps to the schedule of a periodic timer.
* `Handshaking.Config`, `Handshaking.Step`: a participant with the last clock reading, and its
  steps. `Handshaking.next?` computes a step.

## Main results

* `Handshaking.heartbeats_of_run`: the heartbeats of a run are numbered without a gap.
* `Handshaking.heartbeats_on_schedule`: the heartbeats of a participant do not drift, if the reactor
  keeps to the schedule.
-/

namespace TacticalMicrogrid

open TransitionSystem

/-! ### Periodic timers -/

namespace Timer

variable {Arg : Type}

/-- `TimerHandler::schedule(arg, period, delay)` at a clock reading. -/
def scheduleWith [EventType Arg] (t : Timer Arg) (arg : Arg) (period delay : Duration) (now : ℤ) :
    Except String (Timer Arg) := do
  t.assertInactive
  { t with arg := arg, period := period, delay := delay }.schedule now

/-- What the reactor does with an expired timer before its upcall: a periodic one is due again at
another reading. -/
def putBack (t : Timer Arg) (due : ℤ) : Timer Arg :=
  if t.period = 0 then t else { t with expiry := t.expiry.map fun _ => due }

/-- The reading is the first one after now on the schedule of a periodic timer. -/
def NextDue (t : Timer Arg) (now due : ℤ) : Prop :=
  ∀ d ∈ t.expiry, t.period ∣ due - d ∧ now < due ∧ due ≤ now + t.period

instance (t : Timer Arg) (now due : ℤ) : Decidable (t.NextDue now due) :=
  inferInstanceAs (Decidable (∀ d ∈ t.expiry, _))

theorem scheduleWith_of_inactive [EventType Arg] {t : Timer Arg} (h : t.active = false)
    (arg : Arg) (period delay : Duration) (now : ℤ) :
    t.scheduleWith arg period delay now = .ok
      ({ t with arg := arg, period := period, delay := delay }.rearmed now) := by
  rw [scheduleWith, assertInactive_of_inactive h]
  exact schedule_of_inactive (t := { t with arg := arg, period := period, delay := delay }) h now

section PutBack

variable {t : Timer Arg} {now d due : ℤ}

@[simp] theorem arg_putBack (t : Timer Arg) (due : ℤ) : (t.putBack due).arg = t.arg := by
  rw [putBack]
  split_ifs <;> rfl

@[simp] theorem period_putBack (t : Timer Arg) (due : ℤ) :
    (t.putBack due).period = t.period := by
  rw [putBack]
  split_ifs <;> rfl

/-- When a periodic timer is due again. -/
theorem expiry_putBack (hperiod : t.period ≠ 0) (hd : t.expiry = some d) :
    (t.putBack due).expiry = some due := by
  rw [putBack, if_neg hperiod, hd]
  rfl

/-- A periodic timer that fires less than its period late is due a period after it was due. -/
theorem NextDue.of_prompt (h : t.NextDue now due) (hd : t.expiry = some d)
    (hperiod : 0 < t.period) (hnow : d ≤ now) (hlate : now < d + t.period) :
    due = d + t.period := by
  obtain ⟨⟨k, hk⟩, hlt, hle⟩ := h d hd
  have hpos : 0 < k := by
    by_contra hk'
    have := mul_nonpos_of_nonneg_of_nonpos hperiod.le (not_lt.mp hk')
    linarith
  have htwo : k < 2 := by
    by_contra hk'
    have := mul_le_mul_of_nonneg_left (not_lt.mp hk') hperiod.le
    linarith
  obtain rfl : k = 1 := by omega
  linarith

end PutBack

end Timer

/-! ### The participant -/

/-- `HeartbeatEvent`. -/
structure HeartbeatEvent where
  hb : Heartbeat
deriving DecidableEq

instance : EventType HeartbeatEvent := ⟨"tms::Heartbeat"⟩

/-- `DDS::ReturnCode_t`. -/
abbrev ReturnCode := ℤ

/-- `DDS::RETCODE_OK`. -/
def retcodeOk : ReturnCode := 0

/-- `DDS::RETCODE_ERROR`. -/
def retcodeError : ReturnCode := 1

/-- A call of `write` of one of the two writers of a participant. -/
inductive Written
  | deviceInfo (di : DeviceInfo)
  | heartbeat (hb : Heartbeat)
deriving DecidableEq

/-- The state of a `Handshaking`; `diDw` and `hbDw` say whether `di_dw_` and `hb_dw_` are set. -/
structure Handshaking where
  deviceId : Identity
  seqNum : UInt32 := 0
  diDw : Bool := false
  hbDw : Bool := false
  heartbeat : Timer HeartbeatEvent := { arg := ⟨⟨"", 0⟩⟩ }

namespace Handshaking

/-- `heartbeat_period`. -/
def heartbeatPeriod : Duration := Sec 1

/-- `Handshaking::create_publishers`, where the writers can be created or not. -/
def createPublishers (h : Handshaking) (diOk hbOk : Bool) : Handshaking × ReturnCode :=
  if !diOk then (h, retcodeError)
  else if !hbOk then ({ h with diDw := true }, retcodeError)
  else ({ h with diDw := true, hbDw := true }, retcodeOk)

/-- `Handshaking::start_heartbeats` at a clock reading. -/
def startHeartbeats (h : Handshaking) (now : ℤ) : Except String (Handshaking × ReturnCode) :=
  if !h.hbDw then return (h, retcodeError)
  else if !h.heartbeat.active then do
    let timer ← h.heartbeat.scheduleWith ⟨⟨h.deviceId, 0⟩⟩ heartbeatPeriod 0 now
    return ({ h with heartbeat := timer }, retcodeOk)
  else return (h, retcodeOk)

/-- `Handshaking::stop_heartbeats`. -/
def stopHeartbeats (h : Handshaking) : Handshaking :=
  if h.heartbeat.active then { h with heartbeat := h.heartbeat.cancel } else h

/-- `Handshaking::send_device_info`: `registered` says whether `register_instance` returns a
handle, and `rc` is what `write` returns. -/
def sendDeviceInfo (h : Handshaking) (di : DeviceInfo) (registered : Bool) (rc : ReturnCode)
    (now : ℤ) : Except String (Handshaking × List Written × ReturnCode) :=
  if !h.diDw then return (h, [], retcodeError)
  else if !registered then return (h, [], retcodeError)
  else if rc ≠ retcodeOk then return (h, [.deviceInfo di], rc)
  else do
    let (h, rc) ← h.startHeartbeats now
    return (h, [.deviceInfo di], rc)

/-- `Handshaking::timer_fired`; a write that fails is only logged. -/
def timerFired (h : Handshaking) : Except String (Handshaking × List Written) :=
  if !h.hbDw then throw "hb_dw_ is null"
  else
    let hb := { h.heartbeat.arg.hb with sequenceNumber := h.seqNum }
    return ({ h with seqNum := h.seqNum + 1, heartbeat := { h.heartbeat with arg := ⟨hb⟩ } },
      [.heartbeat hb])

/-- `TimerHandler::handle_timeout` for the timeout of the heartbeat timer, which is due again at the
reading. -/
def handleTimeout (h : Handshaking) (due : ℤ) : Except String (Handshaking × List Written) := do
  let (h, written) ← { h with heartbeat := h.heartbeat.putBack due }.timerFired
  return (if h.heartbeat.period = 0 then { h with heartbeat := h.heartbeat.cancel } else h, written)

/-! ### Steps and runs -/

/-- What is asked of a participant, and the timeout of its timer, with the reading at which the
reactor makes it due again. -/
inductive Input
  | createPublishers (diOk hbOk : Bool)
  | sendDeviceInfo (di : DeviceInfo) (registered : Bool) (rc : ReturnCode)
  | startHeartbeats
  | stopHeartbeats
  | timeout (due : ℤ)
deriving DecidableEq

/-- The input is a timeout. -/
def Input.isTimeout : Input → Bool
  | .timeout _ => true
  | _ => false

/-- What the participant does for an input. -/
def handle (h : Handshaking) (now : ℤ) : Input → Except String (Handshaking × List Written)
  | .createPublishers diOk hbOk => return ((h.createPublishers diOk hbOk).1, [])
  | .sendDeviceInfo di registered rc => do
    let (h, written, _) ← h.sendDeviceInfo di registered rc now
    return (h, written)
  | .startHeartbeats => do
    let (h, _) ← h.startHeartbeats now
    return (h, [])
  | .stopHeartbeats => return (h.stopHeartbeats, [])
  | .timeout due => h.handleTimeout due

/-- A participant and the last clock reading. -/
structure Config where
  participant : Handshaking
  clock : ℤ

/-- A step of a run: the clock reading, the input and the calls of `write`. -/
structure Label where
  now : ℤ
  input : Input
  written : List Written
deriving DecidableEq

/-- A timeout is that of an active timer that is due. -/
def Admissible (h : Handshaking) (now : ℤ) : Input → Prop
  | .timeout _ => ∃ d ∈ h.heartbeat.expiry, d ≤ now
  | _ => True

instance (h : Handshaking) (now : ℤ) : (i : Input) → Decidable (h.Admissible now i)
  | .timeout _ => inferInstanceAs (Decidable (∃ d ∈ h.heartbeat.expiry, d ≤ now))
  | .createPublishers .. | .sendDeviceInfo .. | .startHeartbeats | .stopHeartbeats => isTrue trivial

/-- The timeout of a timer that is due. -/
theorem Admissible.of_isTimeout {h : Handshaking} {now : ℤ} {i : Input} (hadm : h.Admissible now i)
    (hi : i.isTimeout) : ∃ d ∈ h.heartbeat.expiry, d ≤ now := by
  cases i with
  | timeout due => exact hadm
  | createPublishers | sendDeviceInfo | startHeartbeats | stopHeartbeats => cases hi

/-- What is relied on of the reactor: after a timeout the timer is due again at the first reading of
its schedule that is not past. -/
def OnSchedule (h : Handshaking) (now : ℤ) : Input → Prop
  | .timeout due => h.heartbeat.NextDue now due
  | _ => True

instance (h : Handshaking) (now : ℤ) : (i : Input) → Decidable (h.OnSchedule now i)
  | .timeout due => inferInstanceAs (Decidable (h.heartbeat.NextDue now due))
  | .createPublishers .. | .sendDeviceInfo .. | .startHeartbeats | .stopHeartbeats => isTrue trivial

/-- The steps of a participant that end without an exception. -/
def Step (c : Config) (l : Label) (c' : Config) : Prop :=
  (c.clock ≤ l.now ∧ c.participant.Admissible l.now l.input) ∧
    c.participant.handle l.now l.input = .ok (c'.participant, l.written) ∧ c'.clock = l.now

/-- A participant as its constructor leaves it, at a clock reading. -/
def Config.init (deviceId : Identity) (clock : ℤ) : Config := ⟨{ deviceId }, clock⟩

/-- The transitions of a run of a participant. -/
abbrev Trace := List (Transition Config Label)

/-- The step for an input at a clock reading, if it can be taken and does not throw. -/
def next? (c : Config) (e : ℤ × Input) : Option (Label × Config) :=
  if c.clock ≤ e.1 ∧ c.participant.Admissible e.1 e.2 then
    match c.participant.handle e.1 e.2 with
    | .ok (h, written) => some (⟨e.1, e.2, written⟩, ⟨h, e.1⟩)
    | .error _ => none
  else none

theorem step_of_next? (c : Config) (e : ℤ × Input) (l : Label) (c' : Config)
    (h : next? c e = some (l, c')) : Step c l c' := by
  rw [next?] at h
  split_ifs at h with henabled
  split at h
  · next p written hhandle =>
    obtain ⟨rfl, rfl⟩ := Prod.mk.inj (Option.some.inj h)
    exact ⟨henabled, hhandle, rfl⟩
  · simp at h

/-! ### What a step can do -/

/-- The timer of a participant that starts its heartbeats at a clock reading. -/
def started (h : Handshaking) (now : ℤ) : Timer HeartbeatEvent :=
  { arg := ⟨⟨h.deviceId, 0⟩⟩, period := heartbeatPeriod, delay := 0, expiry := some (now + 0) }

/-- The heartbeat that is sent at the next timeout. -/
def nextHeartbeat (h : Handshaking) : Heartbeat :=
  { h.heartbeat.arg.hb with sequenceNumber := h.seqNum }

/-- A participant with a heartbeat timer that it has started itself: it sends its own id, has a
writer, and has the heartbeat period. -/
structure WellFormed (h : Handshaking) : Prop where
  period : h.heartbeat.active = true → h.heartbeat.period = heartbeatPeriod
  deviceId : h.heartbeat.active = true → h.heartbeat.arg.hb.deviceId = h.deviceId
  writer : h.heartbeat.active = true → h.hbDw = true

/-- What a step can do to a well-formed participant. -/
inductive Outcome (h : Handshaking) (now : ℤ) : Input → Handshaking → List Written → Prop
  | createPublishers (diOk hbOk : Bool) :
      Outcome h now (.createPublishers diOk hbOk) (h.createPublishers diOk hbOk).1 []
  | unstarted (di : DeviceInfo) (registered : Bool) (rc : ReturnCode) (written : List Written)
      (hwritten : written = [] ∨ written = [.deviceInfo di]) :
      Outcome h now (.sendDeviceInfo di registered rc) h written
  | sent (di : DeviceInfo) (registered : Bool) (rc : ReturnCode) (hwriter : h.hbDw = true)
      (hinactive : h.heartbeat.active = false) :
      Outcome h now (.sendDeviceInfo di registered rc) { h with heartbeat := h.started now }
        [.deviceInfo di]
  | notStarted (hactive : h.hbDw = false ∨ h.heartbeat.active = true) :
      Outcome h now .startHeartbeats h []
  | started (hwriter : h.hbDw = true) (hinactive : h.heartbeat.active = false) :
      Outcome h now .startHeartbeats { h with heartbeat := h.started now } []
  | stopped : Outcome h now .stopHeartbeats h.stopHeartbeats []
  | fired (d : ℤ) (hd : h.heartbeat.expiry = some d) (hdue : d ≤ now) (due : ℤ) :
      Outcome h now (.timeout due)
        { h with
          seqNum := h.seqNum + 1
          heartbeat := { h.heartbeat.putBack due with arg := ⟨h.nextHeartbeat⟩ } }
        [.heartbeat h.nextHeartbeat]

section Outcome

variable {h h' : Handshaking} {now : ℤ} {i : Input} {written : List Written}

/-- The heartbeats are started at once, unless there is no writer or they are started already. -/
theorem startHeartbeats_cases (h : Handshaking) (now : ℤ) :
    (∃ rc, h.startHeartbeats now = .ok (h, rc) ∧
        (h.hbDw = false ∨ h.heartbeat.active = true)) ∨
      ∃ rc, h.startHeartbeats now = .ok ({ h with heartbeat := h.started now }, rc) ∧
        h.hbDw = true ∧ h.heartbeat.active = false := by
  rw [startHeartbeats]
  cases hwriter : h.hbDw with
  | false => exact Or.inl ⟨retcodeError, rfl, Or.inl rfl⟩
  | true =>
    cases hactive : h.heartbeat.active with
    | true => exact Or.inl ⟨retcodeOk, rfl, Or.inr rfl⟩
    | false =>
      rw [Timer.scheduleWith_of_inactive hactive]
      exact Or.inr ⟨retcodeOk, rfl, rfl, rfl⟩

/-- A step never throws, and does what `Outcome` lists. -/
theorem exists_outcome (hwf : h.WellFormed) (hadm : h.Admissible now i) :
    ∃ h' written, h.handle now i = .ok (h', written) ∧ Outcome h now i h' written := by
  cases i with
  | createPublishers diOk hbOk => exact ⟨_, _, rfl, .createPublishers diOk hbOk⟩
  | stopHeartbeats => exact ⟨_, _, rfl, .stopped⟩
  | startHeartbeats =>
    rcases startHeartbeats_cases h now with ⟨rc, hstart, hnot⟩ | ⟨rc, hstart, hwriter, hinactive⟩
    · exact ⟨_, _, by rw [handle, hstart]; rfl, .notStarted hnot⟩
    · exact ⟨_, _, by rw [handle, hstart]; rfl, .started hwriter hinactive⟩
  | sendDeviceInfo di registered rc =>
    rw [handle, sendDeviceInfo]
    split_ifs
    · exact ⟨_, _, rfl, .unstarted di registered rc [] (Or.inl rfl)⟩
    · exact ⟨_, _, rfl, .unstarted di registered rc [] (Or.inl rfl)⟩
    · exact ⟨_, _, rfl, .unstarted di registered rc _ (Or.inr rfl)⟩
    · rcases startHeartbeats_cases h now with ⟨rc', hstart, -⟩ | ⟨rc', hstart, hwriter, hinactive⟩
      · exact ⟨_, _, by rw [hstart]; rfl, .unstarted di registered rc _ (Or.inr rfl)⟩
      · exact ⟨_, _, by rw [hstart]; rfl, .sent di registered rc hwriter hinactive⟩
  | timeout due =>
    obtain ⟨d, hd, hdue⟩ := hadm
    have hactive : h.heartbeat.active = true := Timer.active_iff.mpr ⟨d, hd⟩
    have hperiod : (h.heartbeat.putBack due).period ≠ 0 := by
      rw [Timer.period_putBack, hwf.period hactive]
      decide
    refine ⟨_, _, ?_, .fired d hd hdue due⟩
    rw [handle, handleTimeout, timerFired, if_neg (by simp [hwf.writer hactive])]
    change Except.ok (if (h.heartbeat.putBack due).period = 0 then _ else _, _) = _
    rw [if_neg hperiod, nextHeartbeat]
    simp only [Timer.arg_putBack]

/-- A step that does not throw does what `Outcome` lists. -/
theorem Outcome.of_handle (hwf : h.WellFormed) (hadm : h.Admissible now i)
    (hhandle : h.handle now i = .ok (h', written)) : Outcome h now i h' written := by
  obtain ⟨h'', written', hok, hout⟩ := exists_outcome hwf hadm
  obtain ⟨rfl, rfl⟩ := Prod.mk.inj (Except.ok.inj (hok.symm.trans hhandle))
  exact hout

end Outcome

/-! ### Runs -/

@[simp] theorem active_stopHeartbeats (h : Handshaking) :
    h.stopHeartbeats.heartbeat.active = false := by
  rw [stopHeartbeats]
  split_ifs with hactive
  · rfl
  · exact Bool.eq_false_iff.mpr hactive

@[simp] theorem deviceId_stopHeartbeats (h : Handshaking) :
    h.stopHeartbeats.deviceId = h.deviceId := by
  rw [stopHeartbeats]
  split_ifs <;> rfl

@[simp] theorem seqNum_stopHeartbeats (h : Handshaking) : h.stopHeartbeats.seqNum = h.seqNum := by
  rw [stopHeartbeats]
  split_ifs <;> rfl

/-- The writers of a participant come and stay. -/
theorem createPublishers_eq (h : Handshaking) (diOk hbOk : Bool) : ∃ diDw hbDw,
    (h.createPublishers diOk hbOk).1 = { h with diDw := diDw, hbDw := hbDw } ∧
      (h.hbDw = true → hbDw = true) := by
  rw [createPublishers]
  split_ifs
  · exact ⟨h.diDw, h.hbDw, rfl, id⟩
  · exact ⟨true, h.hbDw, rfl, id⟩
  · exact ⟨true, true, rfl, fun _ => rfl⟩

theorem WellFormed.of_inactive {h : Handshaking} (hinactive : h.heartbeat.active = false) :
    h.WellFormed where
  period hactive := absurd (hinactive.symm.trans hactive) Bool.false_ne_true
  deviceId hactive := absurd (hinactive.symm.trans hactive) Bool.false_ne_true
  writer hactive := absurd (hinactive.symm.trans hactive) Bool.false_ne_true

section Outcome

variable {h h' : Handshaking} {now : ℤ} {i : Input} {written : List Written}

/-- Every step keeps a participant well-formed. -/
theorem WellFormed.of_outcome (hwf : h.WellFormed) (hout : Outcome h now i h' written) :
    h'.WellFormed := by
  cases hout with
  | createPublishers diOk hbOk =>
    obtain ⟨diDw, hbDw, heq, hkeep⟩ := createPublishers_eq h diOk hbOk
    rw [heq]
    exact ⟨hwf.period, hwf.deviceId, fun hactive => hkeep (hwf.writer hactive)⟩
  | unstarted | notStarted => exact hwf
  | sent di registered rc hwriter | started hwriter => exact ⟨fun _ => rfl, fun _ => rfl,
      fun _ => hwriter⟩
  | stopped => exact .of_inactive (active_stopHeartbeats h)
  | fired d hd _ due =>
    have hactive : h.heartbeat.active = true := Timer.active_iff.mpr ⟨d, hd⟩
    exact ⟨fun _ => (Timer.period_putBack h.heartbeat due).trans (hwf.period hactive),
      fun _ => hwf.deviceId hactive, fun _ => hwf.writer hactive⟩

/-- The timer of a participant is due within the heartbeat period, if the reactor keeps to its
schedule. -/
theorem Outcome.due (hout : Outcome h now i h' written) (hwf : h.WellFormed)
    (hreactor : h.OnSchedule now i)
    (hdue : ∀ d ∈ h.heartbeat.expiry, d ≤ now + heartbeatPeriod) :
    ∀ d ∈ h'.heartbeat.expiry, d ≤ now + heartbeatPeriod := by
  intro d hd
  have hperiod : (0 : ℤ) < heartbeatPeriod := by decide
  cases hout with
  | createPublishers diOk hbOk =>
    obtain ⟨diDw, hbDw, heq, -⟩ := createPublishers_eq h diOk hbOk
    rw [heq] at hd
    exact hdue d hd
  | unstarted | notStarted => exact hdue d hd
  | sent | started =>
    obtain rfl := Option.some.inj hd
    linarith
  | stopped =>
    rw [Timer.active_eq_false_iff.mp (active_stopHeartbeats h)] at hd
    cases hd
  | fired d' hd' _ due =>
    have hactive : h.heartbeat.active = true := Timer.active_iff.mpr ⟨d', hd'⟩
    rw [← hwf.period hactive] at hperiod ⊢
    change (h.heartbeat.putBack due).expiry = some d at hd
    rw [Timer.expiry_putBack hperiod.ne' hd'] at hd
    obtain rfl := Option.some.inj hd
    exact (hreactor d' hd').2.2

/-- A participant keeps its id. -/
theorem Outcome.deviceId_eq (hout : Outcome h now i h' written) : h'.deviceId = h.deviceId := by
  cases hout with
  | createPublishers diOk hbOk =>
    obtain ⟨diDw, hbDw, heq, -⟩ := createPublishers_eq h diOk hbOk
    rw [heq]
  | stopped => exact deviceId_stopHeartbeats h
  | _ => rfl

end Outcome

/-- The `DeviceInfo` of a call of `write`. -/
def Written.deviceInfo? : Written → Option DeviceInfo
  | .deviceInfo di => some di
  | .heartbeat _ => none

/-- A step writes the `DeviceInfo` that it is asked to send only. -/
theorem Outcome.exists_of_deviceInfo {h h' : Handshaking} {now : ℤ} {i : Input}
    {written : List Written} (hout : Outcome h now i h' written) {di : DeviceInfo}
    (hdi : di ∈ written.filterMap Written.deviceInfo?) :
    ∃ registered rc, i = .sendDeviceInfo di registered rc := by
  cases hout with
  | unstarted di' registered rc written hwritten =>
    rcases hwritten with rfl | rfl
    · cases hdi
    · exact ⟨registered, rc, by rw [List.mem_singleton.mp hdi]⟩
  | sent di' registered rc => exact ⟨registered, rc, by rw [List.mem_singleton.mp hdi]⟩
  | _ => cases hdi

/-- The heartbeat of a call of `write`. -/
def Written.heartbeat? : Written → Option Heartbeat
  | .deviceInfo _ => none
  | .heartbeat hb => some hb

/-- A step writes a heartbeat exactly if it is a timeout. -/
theorem Outcome.heartbeats_eq {h h' : Handshaking} {now : ℤ} {i : Input} {written : List Written}
    (hout : Outcome h now i h' written) : written.filterMap Written.heartbeat? =
      if i.isTimeout then [h.nextHeartbeat] else [] := by
  cases hout with
  | unstarted di registered rc written hwritten => rcases hwritten with rfl | rfl <;> rfl
  | _ => rfl

/-- The heartbeats that are written in a run. -/
def heartbeats (tr : Trace) : List Heartbeat :=
  tr.flatMap fun t => t.label.written.filterMap Written.heartbeat?

/-- The number of timeouts in a run. -/
def timeouts (tr : Trace) : ℕ := tr.countP (·.label.input.isTimeout)

section Snoc

variable {c c' : Config} {l : Label} (tr : Trace)

theorem heartbeats_snoc : heartbeats (tr ++ [⟨c, l, c'⟩]) =
    heartbeats tr ++ l.written.filterMap Written.heartbeat? := by
  rw [heartbeats, List.flatMap_append, List.flatMap_singleton, heartbeats]

theorem timeouts_snoc (t : Transition Config Label) :
    timeouts (tr ++ [t]) = timeouts tr + if t.label.input.isTimeout then 1 else 0 := by
  simp [timeouts, List.countP_append, List.countP_singleton]

end Snoc

/-- What the history of a participant says about its state. -/
structure Numbered (deviceId : Identity) (tr : Trace) (h : Handshaking) : Prop where
  wellFormed : h.WellFormed
  deviceId_eq : h.deviceId = deviceId
  seqNum_eq : h.seqNum = UInt32.ofNat (timeouts tr)
  heartbeats_eq : heartbeats tr =
    (List.range (timeouts tr)).map fun n => ⟨deviceId, UInt32.ofNat n⟩

/-- A step that is no timeout sends no heartbeat. -/
theorem Numbered.of_not_timeout {deviceId : Identity} {tr : Trace} {c c' : Config} {l : Label}
    (h : Numbered deviceId tr c.participant)
    (hout : Outcome c.participant l.now l.input c'.participant l.written)
    (hinput : ¬l.input.isTimeout) (hseq : c'.participant.seqNum = c.participant.seqNum) :
    Numbered deviceId (tr ++ [⟨c, l, c'⟩]) c'.participant := by
  have hcount : timeouts (tr ++ [⟨c, l, c'⟩]) = timeouts tr := by
    rw [timeouts_snoc, if_neg hinput, Nat.add_zero]
  refine ⟨h.wellFormed.of_outcome hout, hout.deviceId_eq.trans h.deviceId_eq, ?_, ?_⟩
  · rw [hseq, hcount, h.seqNum_eq]
  · rw [heartbeats_snoc, hout.heartbeats_eq, if_neg hinput, List.append_nil, hcount,
      h.heartbeats_eq]

/-- Every step keeps the numbers. -/
theorem Numbered.of_outcome {deviceId : Identity} {tr : Trace} {c c' : Config} {l : Label}
    (h : Numbered deviceId tr c.participant)
    (hout : Outcome c.participant l.now l.input c'.participant l.written) :
    Numbered deviceId (tr ++ [⟨c, l, c'⟩]) c'.participant := by
  have hout' := hout
  obtain ⟨now, i, written⟩ := l
  obtain ⟨h', clock⟩ := c'
  cases hout with
  | createPublishers diOk hbOk =>
    obtain ⟨diDw, hbDw, heq, -⟩ := createPublishers_eq c.participant diOk hbOk
    exact h.of_not_timeout hout' nofun (Eq.trans (congrArg seqNum heq) rfl)
  | unstarted | sent | notStarted | started => exact h.of_not_timeout hout' nofun rfl
  | stopped => exact h.of_not_timeout hout' nofun (seqNum_stopHeartbeats _)
  | fired d hd hdue due =>
    have hactive : c.participant.heartbeat.active = true := Timer.active_iff.mpr ⟨d, hd⟩
    have hcount : ∀ c', timeouts (tr ++ [⟨c, ⟨now, .timeout due,
        [.heartbeat c.participant.nextHeartbeat]⟩, c'⟩]) = timeouts tr + 1 := fun _ =>
      timeouts_snoc ..
    have hnext : c.participant.nextHeartbeat = ⟨deviceId, UInt32.ofNat (timeouts tr)⟩ := by
      rw [nextHeartbeat, h.wellFormed.deviceId hactive, h.deviceId_eq, h.seqNum_eq]
    refine ⟨h.wellFormed.of_outcome hout', h.deviceId_eq, ?_, ?_⟩
    · rw [hcount, UInt32.ofNat_add, ← h.seqNum_eq]
      rfl
    · rw [heartbeats_snoc, h.heartbeats_eq, hcount, List.range_succ, List.map_append,
        List.map_singleton, ← hnext]
      rfl

/-- The history of a participant agrees with its state. -/
theorem numbered_of_run {deviceId : Identity} {clock : ℤ} {tr : Trace} {c : Config}
    (h : IsRun Step (Config.init deviceId clock) tr c) :
    Numbered deviceId tr c.participant := by
  refine h.traceInvariant (P := fun tr c => Numbered deviceId tr c.participant)
    ⟨.of_inactive rfl, rfl, rfl, rfl⟩ ?_
  rintro tr c l c' - hnumbered ⟨⟨-, hadm⟩, hhandle, -⟩
  exact hnumbered.of_outcome (.of_handle hnumbered.wellFormed hadm hhandle)

/-- An input that can start the heartbeats. -/
def Input.starts : Input → Bool
  | .sendDeviceInfo .. | .startHeartbeats => true
  | _ => false

/-- While the timer is active, the heartbeats have been started and not been stopped since. -/
theorem started_of_run {deviceId : Identity} {clock : ℤ} {tr : Trace} {c : Config}
    (h : IsRun Step (Config.init deviceId clock) tr c)
    (hactive : c.participant.heartbeat.active = true) :
    Since (fun t : Transition Config Label => t.label.input.starts = true)
      (fun t => t.label.input ≠ .stopHeartbeats) tr := by
  revert hactive
  refine h.traceInvariant (P := fun tr c => c.participant.heartbeat.active = true →
    Since (fun t : Transition Config Label => t.label.input.starts = true)
      (fun t => t.label.input ≠ .stopHeartbeats) tr)
    (fun hactive => absurd hactive Bool.false_ne_true) ?_
  rintro tr c ⟨now, i, written⟩ ⟨h', clock⟩ hrun ih ⟨⟨-, hadm⟩, hhandle, -⟩ hactive
  have hout := Outcome.of_handle (numbered_of_run hrun).wellFormed hadm hhandle
  rw [since_snoc]
  cases hout with
  | createPublishers diOk hbOk =>
    obtain ⟨diDw, hbDw, heq, -⟩ := createPublishers_eq c.participant diOk hbOk
    change (c.participant.createPublishers diOk hbOk).1.heartbeat.active = true at hactive
    rw [heq] at hactive
    exact Or.inr ⟨ih hactive, by simp⟩
  | unstarted | notStarted => exact Or.inr ⟨ih hactive, by simp⟩
  | sent | started => exact Or.inl rfl
  | stopped =>
    exact absurd ((active_stopHeartbeats c.participant).symm.trans hactive) Bool.false_ne_true
  | fired d hd => exact Or.inr ⟨ih (Timer.active_iff.mpr ⟨d, hd⟩), by simp⟩

/-- **Heartbeats are numbered without a gap.** In every run of a participant, however often its
heartbeats are stopped and started again: no input makes it throw; the heartbeats it writes carry
its own id and the numbers from zero on, modulo 2^32, one for each timeout; and one is written only
after a start with no stop since. -/
theorem heartbeats_of_run {deviceId : Identity} {clock : ℤ} {tr : Trace} {c : Config}
    (h : IsRun Step (Config.init deviceId clock) tr c) :
    heartbeats tr = (List.range (timeouts tr)).map (fun n => ⟨deviceId, UInt32.ofNat n⟩) ∧
      (∀ now i, c.participant.Admissible now i →
        ∃ h' written, c.participant.handle now i = .ok (h', written)) ∧
      ∀ pre t, pre ++ [t] <+: tr → t.label.input.isTimeout →
        Since (fun u : Transition Config Label => u.label.input.starts = true)
          (fun u => u.label.input ≠ .stopHeartbeats) pre := by
  have hnumbered := numbered_of_run h
  refine ⟨hnumbered.heartbeats_eq, fun now i hadm => ?_, fun pre t hpre hinput => ?_⟩
  · obtain ⟨h', written, hok, -⟩ := exists_outcome hnumbered.wellFormed hadm
    exact ⟨h', written, hok⟩
  · obtain ⟨hrun, ⟨-, hadm⟩, -⟩ := h.of_prefix_snoc hpre
    obtain ⟨d, hd, -⟩ := hadm.of_isTimeout hinput
    exact started_of_run hrun (Timer.active_iff.mpr ⟨d, hd⟩)

/-- A participant whose heartbeats are stopped for three seconds goes on with the next number. -/
theorem heartbeats_of_suspended : ∃ (tr : Trace) (c : Config),
    IsRun Step (Config.init "mc1" 0) tr c ∧ timeouts tr = 3 ∧
      heartbeats tr = (List.range (timeouts tr)).map (fun n => ⟨"mc1", UInt32.ofNat n⟩) :=
  have hrun := isRun_of_follow step_of_next? (s := Config.init "mc1" 0)
    [(0, .createPublishers true true),
      (0, .sendDeviceInfo ⟨"mc1", .microgridController, none⟩ true 0), (0, .timeout (Sec 1)),
      (Sec 1, .timeout (Sec 2)), (Sec 1, .stopHeartbeats), (Sec 4, .startHeartbeats),
      (Sec 4, .timeout (Sec 5))] rfl
  ⟨_, _, hrun, by decide, (heartbeats_of_run hrun).1⟩

/-! ### The schedule -/

/-- When the timer is due after a step that does not stop it and that is taken less than a period
after the timer was due. -/
theorem Outcome.expiry_eq {h h' : Handshaking} {now d : ℤ} {i : Input} {written : List Written}
    (hout : Outcome h now i h' written) (hwf : h.WellFormed) (hreactor : h.OnSchedule now i)
    (hd : h.heartbeat.expiry = some d) (hstop : i ≠ .stopHeartbeats)
    (hprompt : now < d + heartbeatPeriod) :
    h'.heartbeat.expiry = some (d + if i.isTimeout then heartbeatPeriod else 0) := by
  have hactive : h.heartbeat.active = true := Timer.active_iff.mpr ⟨d, hd⟩
  cases hout with
  | createPublishers diOk hbOk =>
    obtain ⟨diDw, hbDw, heq, -⟩ := createPublishers_eq h diOk hbOk
    rw [heq, hd, if_neg nofun, add_zero]
  | unstarted | notStarted => rw [hd, if_neg nofun, add_zero]
  | sent di registered rc hwriter hinactive | started hwriter hinactive =>
    exact absurd (hinactive.symm.trans hactive) Bool.false_ne_true
  | stopped => exact absurd rfl hstop
  | fired d' hd' hdue due =>
    obtain rfl := Option.some.inj (hd'.symm.trans hd)
    have hperiod := hwf.period hactive
    have hpos : 0 < h.heartbeat.period := by
      rw [hperiod]
      decide
    change (h.heartbeat.putBack due).expiry = some (d' + heartbeatPeriod)
    rw [Timer.expiry_putBack hpos.ne' hd, ← hperiod,
      hreactor.of_prompt hd hpos hdue (by rwa [hperiod])]

/-- While the heartbeats go on, the timer is due on the schedule it was started with. -/
theorem expiry_after {deviceId : Identity} {clock : ℤ} {before after : Trace} {m c : Config}
    (hbefore : IsRun Step (Config.init deviceId clock) before m) (hafter : IsRun Step m after c)
    {d : ℤ} (hd : m.participant.heartbeat.expiry = some d)
    (hreactor : ∀ t ∈ after, t.source.participant.OnSchedule t.label.now t.label.input)
    (hstop : ∀ t ∈ after, t.label.input ≠ .stopHeartbeats)
    (hprompt : ∀ t ∈ after, ∀ due ∈ t.source.participant.heartbeat.expiry,
      t.label.now < due + heartbeatPeriod) :
    c.participant.WellFormed ∧
      c.participant.heartbeat.expiry = some (d + timeouts after * heartbeatPeriod) := by
  induction hafter with
  | nil => exact ⟨(numbered_of_run hbefore).wellFormed, by simpa [timeouts] using hd⟩
  | @snoc tr c l c' hrun hstep ih =>
    have hlast : (⟨c, l, c'⟩ : Transition Config Label) ∈ tr ++ [⟨c, l, c'⟩] :=
      List.mem_append_right _ List.mem_cons_self
    obtain ⟨hwf, hexpiry⟩ := ih (fun t ht => hreactor t (List.mem_append_left _ ht))
      (fun t ht => hstop t (List.mem_append_left _ ht))
      fun t ht => hprompt t (List.mem_append_left _ ht)
    have hout := Outcome.of_handle hwf hstep.1.2 hstep.2.1
    refine ⟨hwf.of_outcome hout, ?_⟩
    rw [hout.expiry_eq hwf (hreactor _ hlast) hexpiry (hstop _ hlast) (hprompt _ hlast _ hexpiry),
      timeouts_snoc]
    change some (_ + if l.input.isTimeout then heartbeatPeriod else 0) =
      some (d + ((timeouts tr + if l.input.isTimeout then 1 else 0 : ℕ) : ℤ) * heartbeatPeriod)
    split_ifs
    · rw [Nat.cast_add, Nat.cast_one, add_mul, one_mul, add_assoc]
    · rw [Nat.add_zero, add_zero]

/-- **Heartbeats do not drift.** From any point of a run at which the timer is due at `d`, if the
reactor keeps to the schedule of the timer: as long as the heartbeats are not stopped and nothing is
handled a second or more after the timer is due, the `n`-th next heartbeat is written in the `n`-th
second from `d` on: none is early, none is left out, and the delays of the timeouts do not add up.
-/
theorem heartbeats_on_schedule {deviceId : Identity} {clock : ℤ} {before after : Trace}
    {m c : Config} (hbefore : IsRun Step (Config.init deviceId clock) before m)
    (hafter : IsRun Step m after c) {d : ℤ} (hd : m.participant.heartbeat.expiry = some d)
    (hreactor : ∀ t ∈ after, t.source.participant.OnSchedule t.label.now t.label.input)
    (hstop : ∀ t ∈ after, t.label.input ≠ .stopHeartbeats)
    (hprompt : ∀ t ∈ after, ∀ due ∈ t.source.participant.heartbeat.expiry,
      t.label.now < due + heartbeatPeriod) :
    (∀ pre t, pre ++ [t] <+: after → t.label.input.isTimeout →
        d + Sec (timeouts pre) ≤ t.label.now ∧ t.label.now < d + Sec (timeouts pre + 1)) ∧
      ∀ t ∈ after, t.label.now < d + Sec (timeouts after + 1) := by
  have hsec : ∀ n : ℤ, n * heartbeatPeriod = Sec n := fun n => by
    rw [heartbeatPeriod, Sec, Sec, one_mul]
  have hbounds : ∀ pre t, pre ++ [t] <+: after →
      (t.label.input.isTimeout → d + Sec (timeouts pre) ≤ t.label.now) ∧
        t.label.now < d + Sec (timeouts pre + 1) := by
    intro pre t hpre
    obtain ⟨hmid, ⟨-, hadm⟩, -⟩ := hafter.of_prefix_snoc hpre
    have hmem : ∀ u ∈ pre, u ∈ after := fun u hu => hpre.subset (List.mem_append_left _ hu)
    obtain ⟨-, hexpiry⟩ := expiry_after hbefore hmid hd (fun u hu => hreactor u (hmem u hu))
      (fun u hu => hstop u (hmem u hu)) fun u hu => hprompt u (hmem u hu)
    rw [hsec] at hexpiry
    have hlate := hprompt t (hpre.subset (List.mem_append_right _ List.mem_cons_self)) _ hexpiry
    refine ⟨fun hinput => ?_, ?_⟩
    · obtain ⟨due, hdue, hle⟩ := hadm.of_isTimeout hinput
      obtain rfl := Option.some.inj (hexpiry.symm.trans hdue)
      exact hle
    · rw [heartbeatPeriod, Sec] at hlate
      rw [Sec] at hlate ⊢
      linarith
  refine ⟨fun pre t hpre hinput => ⟨(hbounds pre t hpre).1 hinput, (hbounds pre t hpre).2⟩, ?_⟩
  intro t ht
  obtain ⟨pre, hpre⟩ := exists_prefix_snoc_of_mem ht
  have hle : timeouts pre ≤ timeouts after :=
    ((List.prefix_append pre [t]).trans hpre).sublist.countP_le
  have hlt := (hbounds pre t hpre).2
  rw [Sec] at hlt ⊢
  have hcast : (timeouts pre : ℤ) ≤ timeouts after := by exact_mod_cast hle
  linarith

/-- Each of two timeouts comes half a second late. -/
theorem heartbeats_on_schedule_late : ∃ (before after : Trace) (m c : Config),
    IsRun Step (Config.init "mc1" 0) before m ∧ IsRun Step m after c ∧ timeouts after = 2 ∧
      ∀ pre t, pre ++ [t] <+: after → t.label.input.isTimeout →
        0 + Sec (timeouts pre) ≤ t.label.now ∧ t.label.now < 0 + Sec (timeouts pre + 1) :=
  have hbefore := isRun_of_follow step_of_next? (s := Config.init "mc1" 0)
    [(0, .createPublishers true true), (0, .startHeartbeats)] rfl
  have hafter := isRun_of_follow step_of_next?
    [(500000000, .timeout (Sec 1)), (Sec 1 + 500000000, .timeout (Sec 2))] rfl
  ⟨_, _, _, _, hbefore, hafter, by decide,
    (heartbeats_on_schedule hbefore hafter rfl (by decide) (by decide) (by decide)).1⟩

end Handshaking

end TacticalMicrogrid
