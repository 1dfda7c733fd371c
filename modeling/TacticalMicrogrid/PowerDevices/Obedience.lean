import TacticalMicrogrid.Common.Selector.TimerStates
import TacticalMicrogrid.PowerDevices.PowerDevice

/-!
# Which requests a power device obeys

`EnergyStartStopRequestDataReaderListenerImpl::on_data_available` takes all requests that have come
and goes through them in a loop. It asks the selector for the selected controller once for every
sample, then sets the energy level and writes the reply. The selector runs in another thread with a
lock of its own, so it may take a step between any two of these.

The loop ends with the first request that the device accepts, so the rest of a batch is dropped. And
a selector without a controller returns the empty id, which a request may have for its sender.

## Main definitions

* `PowerDevice.accepted`, `PowerDevice.AnswersBatch`.
* `RequestStage`, `RequestListener`: the listener with its device, and how far it has come.
* `RequestListener.Step`, `RequestListener.IsListenerRun`: the steps. `RequestListener.next?`
  computes a step.
* `RequestListener.Obeys`, `RequestListener.ObeysSelected`.
* `RequestListener.Undisturbed`: the condition on a step.

## Main results

* `PowerDevice.answersBatch_iff`: when all requests of a batch count.
* `RequestListener.exists_call`: a call that nothing interrupts is the function of `PowerDevice`.
* `RequestListener.obeysSelected_of_run`: when only the selected controller is obeyed.
-/

namespace TacticalMicrogrid

open TransitionSystem

namespace PowerDevice

/-! ### Batches -/

section Batches

variable {τ : Type} (d : PowerDevice τ) (data : List (Sample EnergyStartStopRequest))

/-- The requests of a batch that are valid, from the selected controller and to this device. -/
def accepted : List EnergyStartStopRequest := (data.filter (d.Accepts ·)).map (·.data)

/-- The last accepted request sets the energy level, and every one gets its reply. -/
structure AnswersBatch : Prop where
  essl : (d.essrOnDataAvailable data).1.essl =
    ((d.accepted data).getLast?.map (·.toLevel)).getD d.essl
  replies : ((d.essrOnDataAvailable data).2.map (·.requestSequenceId)).Perm
    ((d.accepted data).map (·.sequenceId))

variable {d data}

theorem firstAccepted_eq : d.firstAccepted data = (d.accepted data).head? := by
  rw [firstAccepted, accepted, List.head?_map, List.head?_filter]

/-- **Batches of requests.** The energy level after a batch is that of the last request of the
selected controller to this device, and every such request gets one reply, if and only if the batch
has at most one of them. -/
theorem answersBatch_iff (d : PowerDevice τ) (data : List (Sample EnergyStartStopRequest)) :
    d.AnswersBatch data ↔ (d.accepted data).length ≤ 1 := by
  have heq := d.essrOnDataAvailable_eq data
  rw [firstAccepted_eq] at heq
  constructor
  · intro h
    have hlength := h.replies.length_eq
    rw [List.length_map, List.length_map] at hlength
    rw [← hlength, heq]
    cases (d.accepted data).head? <;> simp
  · intro hle
    rcases haccepted : d.accepted data with _ | ⟨essr, _ | ⟨essr', rest⟩⟩
    · rw [haccepted] at heq
      constructor <;> rw [heq, haccepted]
      · rfl
      · exact List.Perm.refl _
    · rw [haccepted] at heq
      constructor <;> rw [heq, haccepted]
      · rfl
      · exact List.Perm.refl _
    · rw [haccepted] at hle
      simp at hle

/-- The controller starts the device and stops it at once, with two values of `config`: the device
takes both requests together and stays on. -/
theorem drops_second_request : ∃ (d : PowerDevice ExactTime)
    (data : List (Sample EnergyStartStopRequest)), d.selected = "mc1" ∧
      (d.accepted data).map (·.toLevel) = [.operational, .off] ∧
      (d.essrOnDataAvailable data).1.essl = .operational ∧ ¬d.AnswersBatch data := by
  refine ⟨{ deviceId := "dev", controllerSelector := { deviceId := "dev", selected := "mc1" } },
    [⟨⟨⟨"mc1", "dev", .active⟩, 0, .any, .operational⟩, true⟩,
      ⟨⟨⟨"mc1", "dev", .onReboot⟩, 1, .any, .off⟩, true⟩], rfl, by decide, by decide, fun h => ?_⟩
  exact absurd h.essl (by decide)

end Batches

end PowerDevice

/-! ### Steps of the selector -/

namespace ControllerSelector

section Selection

variable {τ : Type} [TimePoint τ] {s s' : ControllerSelector τ} {now : ℤ} {effects : List Effect}

/-- What the loop of `select_controller` finds is recent. -/
theorem someRecent_of_firstRecent {l : List PrioritizedController} {found : Identity × Duration}
    (h : s.firstRecent now l = .ok (some found)) : s.SomeRecent now := by
  induction l with
  | nil => cases h
  | cons pc rest ih =>
    rw [firstRecent] at h
    split at h
    · cases h
    · next t ht =>
      split at h
      · next lastHb hage =>
        split_ifs at h with hlt
        · exact ⟨pc.id, t, ht, isRecent_iff.mpr ⟨lastHb, hage, hlt⟩⟩
        · exact ih h
      · exact ih h

/-- An input that does not reselect leaves the selection as it is, in whatever state. -/
theorem selected_handle {i : Input} (h : s.handle now i = .ok (s', effects))
    (hkeeps : ¬s.Reselects now i) : s'.selected = s.selected := by
  cases i with
  | deviceInfo di =>
    obtain ⟨rfl, -⟩ := Prod.mk.inj (Except.ok.inj h)
    rw [gotDeviceInfo]
    split_ifs <;> rfl
  | heartbeat hb =>
    obtain ⟨s'', hok, h⟩ := exists_of_bind_eq_ok h
    obtain ⟨rfl, -⟩ := Prod.mk.inj (Except.ok.inj h)
    obtain ⟨s₁, hok', hout⟩ := gotHeartbeat_cases s now hb
    obtain rfl := Except.ok.inj (hok'.symm.trans hok)
    cases hout <;> rfl
  | timeout k =>
    obtain ⟨⟨s'', effects'⟩, hfired, h⟩ := exists_of_bind_eq_ok h
    obtain ⟨rfl, -⟩ := Prod.mk.inj (Except.ok.inj h)
    cases k with
    | newController =>
      rw [timerFired] at hfired
      split_ifs at hfired
      · obtain ⟨found, hfound, hfired⟩ := exists_of_bind_eq_ok hfired
        cases found with
        | none =>
          obtain ⟨rfl, -⟩ := Prod.mk.inj (Except.ok.inj hfired)
          rfl
        | some found => exact absurd (someRecent_of_firstRecent hfound) hkeeps
      · obtain ⟨rfl, -⟩ := Prod.mk.inj (Except.ok.inj hfired)
        rfl
    | missedHeartbeat =>
      obtain ⟨lost, no, rfl⟩ := exists_of_missedHeartbeat hfired
      rfl
    | lostController => exact absurd trivial hkeeps
    | noControllers =>
      obtain ⟨rfl, -⟩ := Prod.mk.inj (Except.ok.inj hfired)
      rfl

end Selection

end ControllerSelector

/-! ### The listener and the selector -/

/-- How far the listener has come. -/
inductive RequestStage
  | idle
  | looping (rest : List (Sample EnergyStartStopRequest))
  | accepted (essr : EnergyStartStopRequest)
  | levelSet (essr : EnergyStartStopRequest)
deriving DecidableEq

/-- The request that the listener is about to obey. -/
def RequestStage.request : RequestStage → Option EnergyStartStopRequest
  | .accepted essr | .levelSet essr => some essr
  | .idle | .looping _ => none

/-- A power device, the last clock reading of its selector, and its listener. -/
structure RequestListener (τ : Type) where
  device : PowerDevice τ
  clock : ℤ
  stage : RequestStage := .idle

namespace RequestListener

/-- What can happen: a message to the selector or a timeout, or the listener goes on. -/
inductive Action
  | input (now : ℤ) (i : PowerDevice.Input)
  | take (data : List (Sample EnergyStartStopRequest))
  | examine
  | setLevel
  | reply
deriving DecidableEq

variable {τ : Type} [TimePoint τ] (w : RequestListener τ)

/-- The clock does not go back, and a timeout is that of an active timer whose delay has elapsed.
Any ids are admitted, the empty one too. -/
def Admissible (now : ℤ) : PowerDevice.Input → Prop
  | .timeout k => w.clock ≤ now ∧ ∃ d ∈ w.device.controllerSelector.expiry k, d ≤ now
  | .deviceInfo _ | .heartbeat _ => w.clock ≤ now

instance (now : ℤ) : (i : PowerDevice.Input) → Decidable (w.Admissible now i)
  | .timeout k =>
    inferInstanceAs (Decidable (_ ∧ ∃ d ∈ w.device.controllerSelector.expiry k, d ≤ now))
  | .deviceInfo _ | .heartbeat _ => inferInstanceAs (Decidable (w.clock ≤ now))

/-- The steps, with the replies that are written. -/
inductive Step : Action × List Reply → RequestListener τ → Prop
  | input {now i device effects} (hadm : w.Admissible now i)
      (hhandle : w.device.handle now i = .ok (device, effects)) :
      Step (.input now i, []) { w with device, clock := now }
  | take (data) (hstage : w.stage = .idle) : Step (.take data, []) { w with stage := .looping data }
  | ignore {s rest} (hstage : w.stage = .looping (s :: rest)) (hnot : ¬w.device.Accepts s) :
      Step (.examine, []) { w with stage := .looping rest }
  | accept {s rest} (hstage : w.stage = .looping (s :: rest)) (haccepts : w.device.Accepts s) :
      Step (.examine, []) { w with stage := .accepted s.data }
  | finish (hstage : w.stage = .looping []) : Step (.examine, []) { w with stage := .idle }
  | setLevel {essr} (hstage : w.stage = .accepted essr) :
      Step (.setLevel, [])
        { w with device := w.device.energyLevel essr.toLevel, stage := .levelSet essr }
  /-- The loop ends here, whatever is left of the batch. -/
  | reply {essr} (hstage : w.stage = .levelSet essr) :
      Step (.reply, [w.device.okReply essr]) { w with stage := .idle }

/-- The step for an action, if it can be taken and does not throw. -/
def next? : Action → Option ((Action × List Reply) × RequestListener τ)
  | .input now i =>
    if w.Admissible now i then
      match w.device.handle now i with
      | .ok (device, _) => some ((.input now i, []), { w with device, clock := now })
      | .error _ => none
    else none
  | .take data => match w.stage with
    | .idle => some ((.take data, []), { w with stage := .looping data })
    | _ => none
  | .examine => match w.stage with
    | .looping (s :: rest) =>
      if w.device.Accepts s then some ((.examine, []), { w with stage := .accepted s.data })
      else some ((.examine, []), { w with stage := .looping rest })
    | .looping [] => some ((.examine, []), { w with stage := .idle })
    | _ => none
  | .setLevel => match w.stage with
    | .accepted essr => some ((.setLevel, []),
        { w with device := w.device.energyLevel essr.toLevel, stage := .levelSet essr })
    | _ => none
  | .reply => match w.stage with
    | .levelSet essr => some ((.reply, [w.device.okReply essr]), { w with stage := .idle })
    | _ => none

theorem step_of_next? (a : Action) (l : Action × List Reply) (w' : RequestListener τ)
    (h : w.next? a = some (l, w')) : w.Step l w' := by
  cases a with
  | input now i =>
    rw [next?] at h
    split_ifs at h with hadm
    split at h
    · next device effects hhandle =>
      obtain ⟨rfl, rfl⟩ := Prod.mk.inj (Option.some.inj h)
      exact .input hadm hhandle
    · cases h
  | take data =>
    rw [next?] at h
    split at h
    · next hstage =>
      obtain ⟨rfl, rfl⟩ := Prod.mk.inj (Option.some.inj h)
      exact .take data hstage
    · cases h
  | examine =>
    rw [next?] at h
    split at h
    · next s rest hstage =>
      split_ifs at h with haccepts <;> obtain ⟨rfl, rfl⟩ := Prod.mk.inj (Option.some.inj h)
      · exact .accept hstage haccepts
      · exact .ignore hstage haccepts
    · next hstage =>
      obtain ⟨rfl, rfl⟩ := Prod.mk.inj (Option.some.inj h)
      exact .finish hstage
    · cases h
  | setLevel =>
    rw [next?] at h
    split at h
    · next essr hstage =>
      obtain ⟨rfl, rfl⟩ := Prod.mk.inj (Option.some.inj h)
      exact .setLevel hstage
    · cases h
  | reply =>
    rw [next?] at h
    split at h
    · next essr hstage =>
      obtain ⟨rfl, rfl⟩ := Prod.mk.inj (Option.some.inj h)
      exact .reply hstage
    · cases h

/-- A new device. -/
def init (deviceId : Identity) (callbacks : ControllerCallbacks) (clock : ℤ) :
    RequestListener τ where
  device := .new deviceId callbacks
  clock

/-- The transitions of a run. -/
abbrev Trace (τ : Type) := List (Transition (RequestListener τ) (Action × List Reply))

/-- `tr` is a run of a new device, which ends in `w`. -/
def IsListenerRun (tr : Trace τ) (w : RequestListener τ) : Prop :=
  ∃ deviceId callbacks clock, IsRun Step (init deviceId callbacks clock) tr w

/-! ### Obedience -/

/-- A step sets the energy level to the one that a request asks for, or writes the reply to it. -/
def Obeys (t : Transition (RequestListener τ) (Action × List Reply))
    (essr : EnergyStartStopRequest) : Prop :=
  t.source.stage = .accepted essr ∧ t.label.1 = .setLevel ∨
    t.source.stage = .levelSet essr ∧ t.label.1 = .reply

/-- A step that changes the energy level or writes a reply obeys a request, and a request that is
obeyed is one of the selected controller to this device. -/
structure ObeysSelected (t : Transition (RequestListener τ) (Action × List Reply)) : Prop where
  obeys : t.target.device.essl ≠ t.source.device.essl ∨ t.label.2 ≠ [] → ∃ essr, Obeys t essr
  selected : ∀ essr, Obeys t essr → t.source.device.selected ≠ "" ∧
    essr.requestId.requestingDeviceId = t.source.device.selected ∧
    essr.requestId.targetDeviceId = t.source.device.deviceId

/-- While no controller is selected, no request to this device with the empty id for its sender is
examined; and while a request is obeyed, the selection does not change. -/
def Undisturbed : Action → Prop
  | .examine => w.device.selected = "" → ∀ s rest, w.stage = .looping (s :: rest) →
      s.data.requestId.requestingDeviceId = "" →
        s.data.requestId.targetDeviceId = w.device.deviceId → s.validData = false
  | .input now i => w.stage.request ≠ none → ∀ j ∈ w.device.toSelector i,
      ¬w.device.controllerSelector.Reselects now j
  | .take _ | .setLevel | .reply => True

instance : (a : Action) → Decidable (w.Undisturbed a)
  | .examine =>
    match hstage : w.stage with
    | .looping (s :: rest) =>
      decidable_of_iff (w.device.selected = "" → s.data.requestId.requestingDeviceId = "" →
        s.data.requestId.targetDeviceId = w.device.deviceId → s.validData = false)
        (by simp [Undisturbed, hstage])
    | .looping [] | .idle | .accepted _ | .levelSet _ => isTrue (by simp [Undisturbed, hstage])
  | .input _ i => inferInstanceAs (Decidable (_ → ∀ j ∈ w.device.toSelector i, _))
  | .take _ | .setLevel | .reply => isTrue trivial

/-- What the listener is about to obey comes from the selected controller. -/
def Authorized : Prop :=
  ∀ essr ∈ w.stage.request, w.device.selected ≠ "" ∧
    essr.requestId.requestingDeviceId = w.device.selected ∧
    essr.requestId.targetDeviceId = w.device.deviceId

section Steps

variable {w w' w₀ : RequestListener τ} {l : Action × List Reply} {tr : Trace τ}

/-- An input that does not change the selection leaves the listener authorized. -/
theorem Authorized.input {now : ℤ} {i : PowerDevice.Input} {device : PowerDevice τ}
    {effects : List Effect} (h : w.Authorized) (hundisturbed : w.Undisturbed (.input now i))
    (hhandle : w.device.handle now i = .ok (device, effects)) :
    ({ w with device, clock := now } : RequestListener τ).Authorized := by
  intro essr hessr
  have hnone : w.stage.request ≠ none := Option.ne_none_iff_exists'.mpr ⟨essr, hessr⟩
  have hdevice : device.selected = w.device.selected ∧ device.deviceId = w.device.deviceId := by
    rcases PowerDevice.handle_cases hhandle with ⟨-, rfl⟩ | ⟨j, s', hj, hok, rfl⟩
    · exact ⟨rfl, rfl⟩
    · exact ⟨ControllerSelector.selected_handle hok (hundisturbed hnone j hj), rfl⟩
  rw [hdevice.1, hdevice.2]
  exact h essr hessr

/-- A step that meets the condition leaves the listener authorized. -/
theorem Authorized.step (h : w.Authorized) (hundisturbed : w.Undisturbed l.1)
    (hstep : w.Step l w') : w'.Authorized := by
  cases hstep with
  | input hadm hhandle => exact h.input hundisturbed hhandle
  | take | ignore | finish | reply => exact fun essr hessr => by cases hessr
  | @accept s rest hstage haccepts =>
    intro essr hessr
    obtain rfl : s.data = essr := Option.some.inj hessr
    obtain ⟨hvalid, hsender, htarget⟩ := haccepts
    refine ⟨fun hnone => ?_, hsender, htarget⟩
    have hinvalid := hundisturbed hnone s rest hstage (hsender.trans hnone) htarget
    exact Bool.false_ne_true (hinvalid.symm.trans hvalid)
  | setLevel hstage =>
    intro essr hessr
    refine h essr ?_
    rw [hstage]
    exact hessr

/-- An authorized listener obeys the selected controller only. -/
theorem Authorized.obeysSelected (h : w.Authorized) (hstep : w.Step l w') :
    ObeysSelected ⟨w, l, w'⟩ := by
  refine ⟨fun hobserved => ?_, fun essr hobeys => h essr ?_⟩
  · cases hstep with
    | input hadm hhandle =>
      rcases PowerDevice.handle_cases hhandle with ⟨-, rfl⟩ | ⟨j, s', -, -, rfl⟩
      · exact absurd hobserved (by simp)
      · exact absurd hobserved (by simp)
    | take | ignore | accept | finish => exact absurd hobserved (by simp)
    | @setLevel essr hstage => exact ⟨essr, Or.inl ⟨hstage, rfl⟩⟩
    | @reply essr hstage => exact ⟨essr, Or.inr ⟨hstage, rfl⟩⟩
  · rcases hobeys with ⟨hstage, -⟩ | ⟨hstage, -⟩ <;> rw [hstage] <;> rfl

/-- A call of the listener that nothing interrupts does what `essrOnDataAvailable` does. -/
theorem exists_call (data : List (Sample EnergyStartStopRequest))
    (h : IsRun Step w₀ tr { w with stage := .looping data }) :
    ∃ tr', IsRun Step w₀ (tr ++ tr')
        { w with device := (w.device.essrOnDataAvailable data).1, stage := .idle } ∧
      tr'.flatMap (·.label.2) = (w.device.essrOnDataAvailable data).2 := by
  induction data generalizing tr with
  | nil => exact ⟨_, h.snoc (.finish rfl), rfl⟩
  | cons s rest ih =>
    rw [PowerDevice.essrOnDataAvailable_eq, PowerDevice.firstAccepted]
    by_cases haccepts : w.device.Accepts s
    · rw [List.find?_cons_of_pos (by simpa using haccepts)]
      have hrun := ((h.snoc (.accept rfl haccepts)).snoc (.setLevel rfl)).snoc (.reply rfl)
      rw [List.append_assoc, List.append_assoc] at hrun
      exact ⟨_, hrun, rfl⟩
    · rw [List.find?_cons_of_neg (by simpa using haccepts), ← PowerDevice.firstAccepted,
        ← PowerDevice.essrOnDataAvailable_eq]
      obtain ⟨tr', hrun, hreplies⟩ := ih (h.snoc (.ignore rfl haccepts))
      rw [List.append_assoc] at hrun
      exact ⟨_, hrun, hreplies⟩

end Steps

/-! ### Runs -/

/-- **Obedience.** In every run of a power device in which no request to the device with the empty
id for its sender is examined while no controller is selected, and in which the selection does not
change while a request is obeyed: the energy level changes and replies are written only for
requests, and only for requests of the selected controller to this device. -/
theorem obeysSelected_of_run {tr : Trace τ} {w : RequestListener τ} (h : IsListenerRun tr w)
    (hundisturbed : ∀ t ∈ tr, t.source.Undisturbed t.label.1) : ∀ t ∈ tr, ObeysSelected t := by
  obtain ⟨deviceId, callbacks, clock, hrun⟩ := h
  refine hrun.forall_mem_of_forall (P := Authorized) (C := fun w l => w.Undisturbed l.1)
    hundisturbed ?_ ?_ ?_
  · exact fun essr hessr => by cases hessr
  · exact fun w l w' hw hC => hw.step hC
  · exact fun w l w' hw hstep => hw.obeysSelected hstep

/-- A device obeys the controller that it has selected, and ignores another one. -/
theorem obeysSelected_of_selection : ∃ (tr : Trace Int64) (w : RequestListener Int64),
    IsListenerRun tr w ∧ w.device.selected = "mc1" ∧ w.device.essl = .off ∧
      ∀ t ∈ tr, ObeysSelected t :=
  have hrun : IsListenerRun _ _ := ⟨"dev", {}, 0, isRun_of_follow step_of_next?
    [.input 0 (.deviceInfo ⟨⟨"mc1", .microgridController, none⟩, true⟩),
      .input (Sec 1) (.heartbeat ⟨⟨"mc1", 0⟩, true⟩),
      .input (Sec 3) (.heartbeat ⟨⟨"mc1", 1⟩, true⟩), .input (Sec 4) (.timeout .newController),
      .take [⟨⟨⟨"mc2", "dev", .active⟩, 0, .any, .operational⟩, true⟩,
        ⟨⟨⟨"mc1", "dev", .active⟩, 0, .any, .off⟩, true⟩],
      .examine, .examine, .setLevel, .reply] rfl⟩
  ⟨_, _, hrun, by decide, by decide, obeysSelected_of_run hrun (by decide)⟩

/-- A device without a controller obeys a request with the empty id for its sender. -/
theorem obeys_default_request : ¬∀ (tr : Trace Int64) (w : RequestListener Int64),
    IsListenerRun tr w → ∀ t ∈ tr, ObeysSelected t := by
  intro h
  have hstart : IsRun Step (init (τ := Int64) "dev" {} 0) [] (init "dev" {} 0) := .nil
  have htaken := hstart.snoc (.take [⟨⟨⟨"", "dev", .active⟩, 0, .any, .off⟩, true⟩] rfl)
  have hrun := (htaken.snoc (.accept rfl (by decide))).snoc (.setLevel rfl)
  have hobeys := h _ _ ⟨"dev", {}, 0, hrun⟩ _ (List.mem_append_right _ List.mem_cons_self)
  exact (hobeys.selected _ (Or.inl ⟨rfl, rfl⟩)).1 rfl

end RequestListener

end TacticalMicrogrid
