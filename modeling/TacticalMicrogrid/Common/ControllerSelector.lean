import TacticalMicrogrid.Common.Timer
import TacticalMicrogrid.Library.OrderedSet
import TacticalMicrogrid.Library.Run
import TacticalMicrogrid.Library.Table

/-!
# The controller selector of a power device

`common/ControllerSelector.h` and `common/ControllerSelector.cpp`: the part of a power device that
decides which microgrid controller commands it, after TMS A.7.5. A member function that may throw
returns in `Except`, with the calls it makes to the outside as a list of `Effect`s in the order in
which it makes them. All clock readings of one step are one reading, since a step is atomic under
`lock_`. The debug flag and the log messages are left out.

## Main definitions

* `PrioritizedController`, `ControllerCallbacks`, `Effect`, `ControllerSelector`.
* `ControllerSelector.gotDeviceInfo`, `ControllerSelector.gotHeartbeat`,
  `ControllerSelector.timerFired`, `ControllerSelector.handleTimeout`.
* `ControllerSelector.Config`, `ControllerSelector.Step`: a selector with the last clock reading,
  and its atomic steps. `ControllerSelector.next?` computes a step.

## Main results

* `ControllerSelector.step_of_next?`, `ControllerSelector.isSelectorRun_of_follow`: computed runs
  are runs.
-/

namespace TacticalMicrogrid

open TransitionSystem

/-! ### Event types -/

/-- The event type of the timer that waits for a selection. -/
structure NewController where
  id : Identity
deriving DecidableEq

/-- The event type of the timer that runs while the selected controller is heard from. -/
structure MissedHeartbeat
deriving DecidableEq

/-- The event type of the timer that runs after a missed heartbeat. -/
structure LostController
deriving DecidableEq

/-- The event type of the timer that runs while no controller is heard from. -/
structure NoControllers
deriving DecidableEq

instance : EventType NewController := ⟨"NewController"⟩
instance : EventType MissedHeartbeat := ⟨"MissedHeartbeat"⟩
instance : EventType LostController := ⟨"LostController"⟩
instance : EventType NoControllers := ⟨"NoControllers"⟩

/-- The alternatives of `AnyTimer`. -/
inductive TimerKind
  | newController
  | missedHeartbeat
  | lostController
  | noControllers
deriving DecidableEq, Repr

/-! ### Controllers by priority -/

/-- `ControllerSelector::PrioritizedController`. -/
@[ext] structure PrioritizedController where
  priority : UInt16
  id : Identity
deriving DecidableEq

namespace PrioritizedController

/-- The ranking a `DeviceInfo` advertises: zero without `controlService` or `mc`. -/
def ranking (di : DeviceInfo) : UInt16 :=
  match di.controlService with
  | some ⟨some mc⟩ => mc.priorityRanking
  | _ => 0

/-- The constructor of `PrioritizedController`. -/
def ofDeviceInfo (di : DeviceInfo) : PrioritizedController := ⟨ranking di, di.deviceId⟩

/-- `std::tie(priority, id)`, compared lexicographically. -/
def tie (p : PrioritizedController) : ℕ ×ₗ Identity := toLex (p.priority.toNat, p.id)

theorem tie_injective : Function.Injective tie := by
  intro p q h
  obtain ⟨hpriority, hid⟩ := Prod.mk.inj (toLex.injective h)
  exact PrioritizedController.ext (UInt16.toNat.inj hpriority) hid

instance : LinearOrder PrioritizedController := LinearOrder.lift' tie tie_injective

theorem le_def {p q : PrioritizedController} : p ≤ q ↔ p.tie ≤ q.tie := Iff.rfl

end PrioritizedController

/-! ### The selector -/

/-- Which callbacks of `ControllerCallbacks` are set. -/
structure ControllerCallbacks where
  newController : Bool := false
  missedHeartbeat : Bool := false
  lostController : Bool := false
  noControllers : Bool := false
deriving DecidableEq

/-- A call a selector makes to the outside: a callback or a write of the data writer. -/
inductive Effect
  | newController (id : Identity)
  | missedHeartbeat (id : Identity)
  | lostController (id : Identity)
  | noControllers
  | write (amcs : ActiveMicrogridControllerState)
deriving DecidableEq

/-- The state of a `ControllerSelector`, whose time points are of the type `τ`. -/
structure ControllerSelector (τ : Type) where
  deviceId : Identity
  callbacks : ControllerCallbacks := {}
  selected : Identity := ""
  allControllers : Table Identity τ := ∅
  prioritizedControllers : OrderedSet PrioritizedController := ∅
  newController : Timer NewController := { arg := ⟨""⟩ }
  missedHeartbeat : Timer MissedHeartbeat := { arg := {} }
  lostController : Timer LostController := { arg := {} }
  noControllers : Timer NoControllers := { arg := {} }

namespace ControllerSelector

/-- `heartbeat_deadline`. -/
def heartbeatDeadline : Duration := Sec 3

/-- `new_active_controller_delay`. -/
def newActiveControllerDelay : Duration := Sec 3

/-- `lost_active_controller_delay`. -/
def lostActiveControllerDelay : Duration := Sec 6

/-- `no_controllers_delay`. -/
def noControllersDelay : Duration := Sec 10

/-- A callback is called if it is set. -/
def callback (isSet : Bool) (e : Effect) : List Effect := if isSet then [e] else []

variable {τ : Type} [TimePoint τ]

/-- `now - t < heartbeat_deadline`. -/
def isRecent (now : ℤ) (t : τ) : Bool :=
  match TimePoint.age now t with
  | some d => decide (d < heartbeatDeadline)
  | none => false

/-- `ControllerSelector::send_controller_state`. What `write` returns is only logged. -/
def sendControllerState (s : ControllerSelector τ) : List Effect :=
  [.write ⟨s.deviceId, if s.selected = "" then none else some s.selected⟩]

/-- `ControllerSelector::select`. -/
def select (s : ControllerSelector τ) (now : ℤ) (id : Identity) (lastHb : Duration) :
    Except String (ControllerSelector τ × List Effect) := do
  let s := { s with selected := id }
  let timer ← s.missedHeartbeat.scheduleOnce {} (heartbeatDeadline - lastHb) now
  return ({ s with missedHeartbeat := timer },
    callback s.callbacks.newController (.newController s.selected) ++ s.sendControllerState)

/-- The loop of `ControllerSelector::select_controller` over the controllers by priority: the
first recent one with the age of its last heartbeat. A controller that is not in
`all_controllers_` would make it use `end()`. -/
def firstRecent (s : ControllerSelector τ) (now : ℤ) :
    List PrioritizedController → Except String (Option (Identity × Duration))
  | [] => .ok none
  | pc :: rest =>
    match s.allControllers.find? pc.id with
    | none => .error "all_controllers_.end() used"
    | some t =>
      match TimePoint.age now t with
      | some lastHb =>
        if lastHb < heartbeatDeadline then .ok (some (pc.id, lastHb)) else s.firstRecent now rest
      | none => s.firstRecent now rest

/-- `ControllerSelector::select_controller`; its result is always `false` and never used. -/
def selectController (s : ControllerSelector τ) (now : ℤ) :
    Except String (ControllerSelector τ × List Effect) := do
  match ← s.firstRecent now s.prioritizedControllers.toList with
  | some (id, lastHb) => s.select now id lastHb
  | none => return (s, [])

/-- `ControllerSelector::got_device_info`. -/
def gotDeviceInfo (s : ControllerSelector τ) (di : DeviceInfo) : ControllerSelector τ :=
  if di.role = .microgridController ∧ di.deviceId ∉ s.allControllers then
    { s with
      allControllers := s.allControllers.set di.deviceId TimePoint.min
      prioritizedControllers := s.prioritizedControllers.insert (.ofDeviceInfo di) }
  else s

/-- What `got_heartbeat` does first for a known controller: it notes the time and cancels
NoControllers. -/
def heard (s : ControllerSelector τ) (now : ℤ) (id : Identity) : ControllerSelector τ :=
  { s with
    allControllers := s.allControllers.set id (TimePoint.now now)
    noControllers := s.noControllers.cancel }

/-- `ControllerSelector::got_heartbeat`. -/
def gotHeartbeat (s : ControllerSelector τ) (now : ℤ) (hb : Heartbeat) :
    Except String (ControllerSelector τ) :=
  if hb.deviceId ∈ s.allControllers then
    let s := s.heard now hb.deviceId
    if s.selected = "" then
      if s.newController.active then return s
      else do
        let timer ← s.newController.scheduleOnce ⟨hb.deviceId⟩ newActiveControllerDelay now
        return { s with newController := timer }
    else if s.selected = hb.deviceId then
      let s := { s with lostController := s.lostController.cancel }
      if s.missedHeartbeat.active then do
        let timer ← s.missedHeartbeat.reschedule now
        return { s with missedHeartbeat := timer }
      else do
        -- MissedHeartbeat was triggered, so it is scheduled again.
        let timer ← s.missedHeartbeat.scheduleOnce {} heartbeatDeadline now
        return { s with missedHeartbeat := timer }
    else return s
  else return s

/-- The loop of the MissedHeartbeat handler: no controller is recent. -/
def noAvailMc (s : ControllerSelector τ) (now : ℤ) : Bool :=
  s.allControllers.entries.all fun entry => !isRecent now entry.2

/-- The end of the MissedHeartbeat handler: NoControllers is started if the device has missed
heartbeats from all controllers. -/
def startNoControllers (s : ControllerSelector τ) (now : ℤ) :
    Except String (ControllerSelector τ) :=
  if s.noAvailMc now then do
    let timer ← s.noControllers.scheduleOnce {} noControllersDelay now
    return { s with noControllers := timer }
  else return s

/-- `ControllerSelector::timer_fired`, for each kind of timer. -/
def timerFired (s : ControllerSelector τ) (now : ℤ) :
    TimerKind → Except String (ControllerSelector τ × List Effect)
  | .newController =>
    if s.newController.arg.id ∈ s.allControllers then s.selectController now else return (s, [])
  | .missedHeartbeat => do
    let effects := callback s.callbacks.missedHeartbeat (.missedHeartbeat s.selected)
    let timer ← s.lostController.scheduleOnce {} lostActiveControllerDelay now
    let s ← { s with lostController := timer }.startNoControllers now
    return (s, effects)
  | .lostController => do
    let effects := callback s.callbacks.lostController (.lostController s.selected)
    let (s, effects') ← { s with selected := "" }.selectController now
    return (s, effects ++ effects')
  | .noControllers => return (s, callback s.callbacks.noControllers .noControllers)

/-- The end of `TimerHandler::handle_timeout` for the timer that has fired. -/
def timerWontRun (s : ControllerSelector τ) : TimerKind → ControllerSelector τ
  | .newController => { s with newController := s.newController.afterUpcall }
  | .missedHeartbeat => { s with missedHeartbeat := s.missedHeartbeat.afterUpcall }
  | .lostController => { s with lostController := s.lostController.afterUpcall }
  | .noControllers => { s with noControllers := s.noControllers.afterUpcall }

/-- `TimerHandler::handle_timeout` for the timeout of an active timer. -/
def handleTimeout (s : ControllerSelector τ) (now : ℤ) (k : TimerKind) :
    Except String (ControllerSelector τ × List Effect) := do
  let (s, effects) ← s.timerFired now k
  return (s.timerWontRun k, effects)

/-- When the timeout of a timer is due, if the timer is active. -/
def expiry (s : ControllerSelector τ) : TimerKind → Option ℤ
  | .newController => s.newController.expiry
  | .missedHeartbeat => s.missedHeartbeat.expiry
  | .lostController => s.lostController.expiry
  | .noControllers => s.noControllers.expiry

/-! ### Steps and runs -/

/-- What reaches a selector: a message, or the timeout of one of its timers. -/
inductive Input
  | deviceInfo (di : DeviceInfo)
  | heartbeat (hb : Heartbeat)
  | timeout (k : TimerKind)
deriving DecidableEq

/-- An input and the clock reading at which it is handled. -/
structure Event where
  now : ℤ
  input : Input
deriving DecidableEq

/-- What the selector does for an input. -/
def handle (s : ControllerSelector τ) (now : ℤ) :
    Input → Except String (ControllerSelector τ × List Effect)
  | .deviceInfo di => return (s.gotDeviceInfo di, [])
  | .heartbeat hb => do
    let s ← s.gotHeartbeat now hb
    return (s, [])
  | .timeout k => s.handleTimeout now k

/-- A selector and the last clock reading. -/
structure Config (τ : Type) where
  selector : ControllerSelector τ
  clock : ℤ

/-- A step of a run: its event and the calls the selector makes. -/
structure Label where
  event : Event
  effects : List Effect
deriving DecidableEq

/-- The id a message carries is not empty (`Identity_MINLEN` is 1), and a timeout is that of an
active timer whose delay has elapsed. -/
def Admissible (s : ControllerSelector τ) (now : ℤ) : Input → Prop
  | .deviceInfo di => di.deviceId ≠ ""
  | .heartbeat hb => hb.deviceId ≠ ""
  | .timeout k => ∃ d ∈ s.expiry k, d ≤ now

instance (s : ControllerSelector τ) (now : ℤ) : (i : Input) → Decidable (s.Admissible now i)
  | .deviceInfo di => inferInstanceAs (Decidable (di.deviceId ≠ ""))
  | .heartbeat hb => inferInstanceAs (Decidable (hb.deviceId ≠ ""))
  | .timeout k => inferInstanceAs (Decidable (∃ d ∈ s.expiry k, d ≤ now))

/-- An event can be the next one: the clock does not go back, and the event is admissible. -/
def Enabled (c : Config τ) (e : Event) : Prop :=
  c.clock ≤ e.now ∧ c.selector.Admissible e.now e.input

instance (c : Config τ) (e : Event) : Decidable (Enabled c e) :=
  inferInstanceAs (Decidable (_ ∧ _))

/-- The steps of a selector that end without an exception. -/
def Step (c : Config τ) (l : Label) (c' : Config τ) : Prop :=
  Enabled c l.event ∧
    c.selector.handle l.event.now l.event.input = .ok (c'.selector, l.effects) ∧
    c'.clock = l.event.now

/-- A selector as its constructor leaves it, at a clock reading. -/
def Config.init (deviceId : Identity) (callbacks : ControllerCallbacks) (clock : ℤ) : Config τ :=
  ⟨{ deviceId, callbacks }, clock⟩

/-- The transitions of a run of a selector. -/
abbrev Trace (τ : Type) := List (Transition (Config τ) Label)

/-- `tr` is a run of a new selector, which ends in `c`. -/
def IsSelectorRun (tr : Trace τ) (c : Config τ) : Prop :=
  ∃ deviceId callbacks clock, IsRun Step (Config.init deviceId callbacks clock) tr c

/-- The step for an event, if the event is enabled and its handler does not throw. -/
def next? (c : Config τ) (e : Event) : Option (Label × Config τ) :=
  if Enabled c e then
    match c.selector.handle e.now e.input with
    | .ok (s, effects) => some (⟨e, effects⟩, ⟨s, e.now⟩)
    | .error _ => none
  else none

theorem step_of_next? (c : Config τ) (e : Event) (l : Label) (c' : Config τ)
    (h : next? c e = some (l, c')) : Step c l c' := by
  rw [next?] at h
  split_ifs at h with henabled
  split at h
  · next s effects hhandle =>
    obtain ⟨rfl, rfl⟩ := Prod.mk.inj (Option.some.inj h)
    exact ⟨henabled, hhandle, rfl⟩
  · simp at h

/-- The computed run along a list of events is a run. -/
theorem isSelectorRun_of_follow (deviceId : Identity) (callbacks : ControllerCallbacks) (clock : ℤ)
    (es : List Event) {tr : Trace τ} {c : Config τ}
    (h : follow next? (Config.init deviceId callbacks clock) es = some (tr, c)) :
    IsSelectorRun tr c :=
  ⟨deviceId, callbacks, clock, isRun_of_follow step_of_next? es h⟩

end ControllerSelector

end TacticalMicrogrid
