import TacticalMicrogrid.StartStop.OperatedMicrogrid

/-!
# An operator's requests, step by step

What the operator commands a device waits for each controller, first to be written and then on its
way, until the controller takes it; then the controller records it, and the one that the device has
selected sends it if it is a change. What is sent waits for the device until the device takes it;
then it is the level of the device.

For this a command has to find the controllers with the same master of the device, which is the one
it has selected, and the device selects another controller only when nothing is on its way for it or
to be written.

## Main definitions

* `OperatedMicrogrid.commanded`, `OperatedMicrogrid.sent`: what the operator commands a device, and
  what the controllers do.
* `OperatedMicrogrid.awaited`, `OperatedMicrogrid.levelsOf`: what is still to be taken.
* `OperatedMicrogrid.Quiet`: no request for a device is on its way or to be written.
* `OperatedMicrogrid.Attended`, `OperatedMicrogrid.Steady`: the conditions on a transition.
* `OperatedMicrogrid.Serves`: the controller that a device has selected commands it.

## Main results

* `OperatedMicrogrid.Step.awaited_eq`, `OperatedMicrogrid.Step.levelsOf_eq`: the queues.
* `OperatedMicrogrid.Step.recordedLevel_eq`, `OperatedMicrogrid.Step.level_eq`: the levels.
* `OperatedMicrogrid.Step.sent_eq`: what is sent.
* `OperatedMicrogrid.Serves.step`: the selected controller goes on serving the device.
-/

namespace TacticalMicrogrid

open TransitionSystem

namespace OperatedMicrogrid

variable {τ ι : Type}

section Definitions

variable (live : List Identity) (w : OperatedMicrogrid τ ι) (x : Identity) (i : ι)

/-- The controller that a device has selected. -/
def selected : Identity := (w.microgrid.grid.devices i).selector.selected

/-- The levels of a device that requests ask a controller for. -/
def askedOf (d x : Identity) (data : List (Sample OperatorIntentRequest)) :
    List EnergyStartStopLevel :=
  CLIServer.levelsFor d (CLIServer.directives x data)

/-- The levels of a device that a controller will be asked for: by the requests on their way to it,
and by those that the running command has still to write. -/
def awaited : List EnergyStartStopLevel :=
  askedOf (w.microgrid.deviceId i) x (w.intents x ++ w.pending.map (⟨·, true⟩))

/-- The level of a device in the table of a controller. -/
def recordedLevel : Option EnergyStartStopLevel :=
  ((w.microgrid.servers x).controller.powerDevices.find? (w.microgrid.deviceId i)).map (·.essl)

/-- The sample is a request for the device from one of the controllers. -/
def IsRequestOf (d : Identity) (s : Sample EnergyStartStopRequest) : Prop :=
  s.validData = true ∧ s.data.requestId.requestingDeviceId ∈ live ∧
    s.data.requestId.targetDeviceId = d

instance (d : Identity) (s : Sample EnergyStartStopRequest) : Decidable (IsRequestOf live d s) :=
  inferInstanceAs (Decidable (_ ∧ _ ∧ _))

/-- The levels that the requests of the controllers ask of a device. -/
def levelsOf (d : Identity) (data : List (Sample EnergyStartStopRequest)) :
    List EnergyStartStopLevel :=
  (data.filter (IsRequestOf live d ·)).map (·.data.toLevel)

/-- No request for a device is on its way or to be written. -/
def Quiet : Prop :=
  (∀ x ∈ live, w.awaited x i = []) ∧ levelsOf live (w.microgrid.deviceId i) (w.requests i) = []

instance : Decidable (w.Quiet live i) := inferInstanceAs (Decidable (_ ∧ _))

/-- What the operator commands a device in a transition. -/
def commanded [TimePoint τ] (t : Transition (OperatedMicrogrid τ ι) (Label ι)) :
    List EnergyStartStopLevel :=
  match t.label with
  | .cli e => CLIServer.levelsFor (t.source.microgrid.deviceId i) (CLISession.asks e).toList
  | _ => []

/-- What the controllers command a device in a transition. -/
def sent (t : Transition (OperatedMicrogrid τ ι) (Label ι)) : List EnergyStartStopLevel :=
  match t.label with
  | .intents x data writeOk =>
    levelsOf live (t.source.microgrid.deviceId i) (t.source.sentBy x data writeOk)
  | _ => []

/-- The condition on the requests in a transition. A command for a device addresses all controllers,
the device has selected one of them, and its states have reached all of them. The controllers go on,
and the states of the device are published. No request for the device gets lost, neither on its way
nor when it is written. -/
def Attended [TimePoint τ] [DecidableEq ι]
    (t : Transition (OperatedMicrogrid τ ι) (Label ι)) : Prop :=
  match t.label with
  | .cli e => CLIServer.levelsFor (t.source.microgrid.deviceId i) (CLISession.asks e).toList ≠ [] →
      t.source.selected i ∈ live ∧ ∀ x ∈ live,
        x ∈ (t.source.session.requestsOf e).map CLIClient.addressee ∧
          t.source.microgrid.states x i = []
  | .write ok => ok = true ∨ ∀ oir ∈ t.source.pending.head?, ∀ x ∈ live,
      askedOf (t.source.microgrid.deviceId i) x [⟨oir, true⟩] = []
  | .microgrid l => (∀ x ∈ live, ¬l.Restarts x) ∧ ¬l.Writes i false
  | .intents x _ writeOk => x ∈ live → writeOk = true
  | .intentLost x s => x ∈ live → askedOf (t.source.microgrid.deviceId i) x [s] = []
  | .requestLost j s => j = i → ¬IsRequestOf live (t.source.microgrid.deviceId i) s
  | .requests .. | .overtake .. => True

instance [TimePoint τ] [DecidableEq ι] :
    (t : Transition (OperatedMicrogrid τ ι) (Label ι)) → Decidable (Attended live i t)
  | ⟨_, .cli _, _⟩ => inferInstanceAs (Decidable (_ ≠ _ → _ ∧ ∀ x ∈ live, _ ∧ _))
  | ⟨w, .write _, _⟩ =>
    inferInstanceAs (Decidable (_ ∨ ∀ oir ∈ w.pending.head?, ∀ x ∈ live, _))
  | ⟨_, .microgrid _, _⟩ => inferInstanceAs (Decidable ((∀ x ∈ live, ¬_) ∧ ¬_))
  | ⟨_, .intents _ _ _, _⟩ | ⟨_, .intentLost _ _, _⟩ | ⟨_, .requestLost _ _, _⟩ =>
    inferInstanceAs (Decidable (_ → _))
  | ⟨_, .requests _ _, _⟩ | ⟨_, .overtake _ _, _⟩ => isTrue trivial

/-- The condition on the device in a transition: it keeps its controller; or no request for it is on
its way, and it selects one of the controllers or none. -/
def Steady (t : Transition (OperatedMicrogrid τ ι) (Label ι)) : Prop :=
  t.target.selected i = t.source.selected i ∨
    t.source.Quiet live i ∧ (t.target.selected i ∈ live ∨ t.target.selected i = "")

instance (t : Transition (OperatedMicrogrid τ ι) (Label ι)) : Decidable (Steady live i t) :=
  inferInstanceAs (Decidable (_ ∨ _ ∧ (_ ∨ _)))

end Definitions

/-! ### What a transition does to the requests -/

section Steps

variable [TimePoint τ] [DecidableEq ι] {live : List Identity}
  {w w' : OperatedMicrogrid τ ι} {l : Label ι} {x : Identity} {i : ι} {before tr : Trace τ ι}

/-- The levels of a device that a controller is asked for when it takes requests. -/
def taken (x : Identity) (i : ι) (t : Transition (OperatedMicrogrid τ ι) (Label ι)) :
    List EnergyStartStopLevel :=
  match t.label with
  | .intents y data _ => if y = x then askedOf (t.source.microgrid.deviceId i) x data else []
  | _ => []

/-- The levels that a device is asked for when it takes requests. -/
def received (live : List Identity) (i : ι)
    (t : Transition (OperatedMicrogrid τ ι) (Label ι)) : List EnergyStartStopLevel :=
  match t.label with
  | .requests j data => if j = i then levelsOf live (t.source.microgrid.deviceId i) data else []
  | _ => []

omit [TimePoint τ] [DecidableEq ι] in
theorem levelsOf_append (d : Identity) (data data' : List (Sample EnergyStartStopRequest)) :
    levelsOf live d (data ++ data') = levelsOf live d data ++ levelsOf live d data' := by
  rw [levelsOf, List.filter_append, List.map_append]
  rfl

omit [TimePoint τ] [DecidableEq ι] in
theorem levelsOf_eq_nil_iff {d : Identity} {data : List (Sample EnergyStartStopRequest)} :
    levelsOf live d data = [] ↔ ∀ s ∈ data, ¬IsRequestOf live d s := by
  rw [levelsOf, List.map_eq_nil_iff, List.filter_eq_nil_iff]
  simp only [decide_eq_true_eq]

/-- What the filter drops anyway can be lost before. -/
theorem filter_erase_of_neg {α : Type} [BEq α] [LawfulBEq α] {p : α → Bool} {a : α} (l : List α)
    (ha : ¬p a) : (l.erase a).filter p = l.filter p := by
  rw [← List.erase_filter, List.erase_of_not_mem fun hmem => ha (List.mem_filter.mp hmem).2]

theorem askedOf_append (d x : Identity) (data data' : List (Sample OperatorIntentRequest)) :
    askedOf d x (data ++ data') = askedOf d x data ++ askedOf d x data' := by
  rw [askedOf, CLIServer.directives_append, CLIServer.levelsFor_append]
  rfl

/-- A request that does not ask for the device can be lost. -/
theorem askedOf_erase {d x : Identity} {s : Sample OperatorIntentRequest}
    (hs : askedOf d x [s] = []) (data : List (Sample OperatorIntentRequest)) :
    askedOf d x (data.erase s) = askedOf d x data := by
  induction data with
  | nil => rfl
  | cons a data ih =>
    have hcons : ∀ data, askedOf d x (a :: data) = askedOf d x [a] ++ askedOf d x data :=
      askedOf_append d x [a]
    rcases eq_or_ne a s with rfl | hne
    · rw [List.erase_cons_head, hcons, hs, List.nil_append]
    · rw [List.erase_cons_tail (by simpa using hne), hcons, ih, hcons data]

omit [TimePoint τ] [DecidableEq ι] in
theorem awaited_of_append {data rest : List (Sample OperatorIntentRequest)}
    (hdata : w.intents x = data ++ rest) : w.awaited x i =
      askedOf (w.microgrid.deviceId i) x data ++
        askedOf (w.microgrid.deviceId i) x (rest ++ w.pending.map (⟨·, true⟩)) := by
  rw [awaited, hdata, List.append_assoc, askedOf_append]

/-- What a controller is asked for waits until it takes it. -/
theorem Step.awaited_eq (hstep : Step w l w')
    (hid : w'.microgrid.deviceId i = w.microgrid.deviceId i) (hx : x ∈ live)
    (hattended : Attended live i ⟨w, l, w'⟩) :
    w.awaited x i ++ commanded i ⟨w, l, w'⟩ = taken x i ⟨w, l, w'⟩ ++ w'.awaited x i := by
  cases hstep with
  | @cli e hpending henabled =>
    have hnew := CLISession.directives_requestsOf ⟨henabled, rfl⟩ x
    change w.awaited x i ++ CLIServer.levelsFor _ _ =
      askedOf _ x (w.intents x ++ (w.session.requestsOf e).map (⟨·, true⟩))
    rw [awaited, hpending, List.map_nil, List.append_nil, askedOf_append]
    congr 1
    rw [askedOf, hnew]
    split_ifs with haddressed
    · rfl
    · by_contra hne
      exact haddressed ((hattended hne).2 x hx).1
  | @write oir rest ok hpending =>
    -- The request is on its way now; if it gets lost, it does not ask for this device.
    change w.awaited x i ++ [] = askedOf (w.microgrid.deviceId i) x
      ((if ok then w.intents x ++ [⟨oir, true⟩] else w.intents x) ++ rest.map (⟨·, true⟩))
    rw [List.append_nil, awaited, hpending, List.map_cons]
    split_ifs with hok
    · rw [List.append_assoc, List.singleton_append]
    · have hother := hattended.resolve_left hok oir (hpending ▸ rfl) x hx
      rw [← List.singleton_append, askedOf_append, askedOf_append, askedOf_append, hother]
      rfl
  | @microgrid k c hk hstep =>
    have hr : ¬k.Restarts x := hattended.1 x hx
    change w.awaited x i ++ [] = askedOf (c.deviceId i) x
      ((if k.Restarts x then [] else w.intents x) ++ w.pending.map (⟨·, true⟩))
    rw [if_neg hr, List.append_nil]
    exact congrArg (askedOf · x _) hid.symm
  | @intents y data rest writeOk hy hdata =>
    change w.awaited x i ++ [] = (if y = x then _ else []) ++ askedOf _ x
      (Function.update w.intents y rest x ++ w.pending.map (⟨·, true⟩))
    rw [List.append_nil]
    split_ifs with hyx
    · obtain rfl := hyx
      rw [Function.update_self, awaited_of_append hdata]
      rfl
    · rw [Function.update_of_ne (Ne.symm hyx)]
      rfl
  | @intentLost y s hs =>
    change w.awaited x i ++ [] = askedOf _ x
      (Function.update w.intents y ((w.intents y).erase s) x ++ w.pending.map (⟨·, true⟩))
    rw [List.append_nil]
    rcases eq_or_ne x y with rfl | hne
    · rw [Function.update_self, awaited, askedOf_append, askedOf_append,
        askedOf_erase (hattended hx)]
    · rw [Function.update_of_ne hne]
      rfl
  | requests | requestLost | overtake => exact List.append_nil _

/-- What a controller is asked for is what it records. -/
theorem Step.recordedLevel_eq (hstep : Step w l w') (hrun : IsOperatedRun before w)
    (hid : w'.microgrid.deviceId i = w.microgrid.deviceId i) (hx : x ∈ live)
    (hattended : Attended live i ⟨w, l, w'⟩) (hto : .unknown ∉ w.awaited x i)
    {level : EnergyStartStopLevel} (hlevel : w.recordedLevel x i = some level) :
    w'.recordedLevel x i = some ((taken x i ⟨w, l, w'⟩).getLastD level) := by
  cases hstep with
  | cli | write | intentLost | requests | requestLost | overtake => exact hlevel
  | @microgrid k c hk hstep =>
    obtain ⟨pd, hpd, hessl⟩ := Option.map_eq_some_iff.mp hlevel
    obtain ⟨pd', hpd', hessl', -⟩ := hstep.find?_of_known hk (hattended.1 x hx) hpd
    change ((c.servers x).controller.powerDevices.find? (c.deviceId i)).map (·.essl) = some level
    have hid : c.deviceId i = w.microgrid.deviceId i := hid
    rw [hid, hpd', Option.map_some, hessl', hessl]
  | @intents y data rest writeOk hy hdata hkeyed =>
    change (((w.microgrid.withServer y _).servers x).controller.powerDevices.find? _).map _ =
      some ((if y = x then _ else []).getLastD level)
    split_ifs with hyx
    · obtain rfl := hyx
      obtain ⟨pd, hpd, rfl⟩ := Option.map_eq_some_iff.mp hlevel
      have hserver := hrun.controlledRun.consistent.server y
      have hone := hrun.consistent.length_directives_le hdata hkeyed
      obtain rfl := hattended hx
      rw [awaited_of_append hdata, List.mem_append, not_or] at hto
      rw [ControlledMicrogrid.servers_withServer_self]
      exact (CLIServer.oirOnDataAvailable_of_known hserver hpd hone hto.1).1
    · rw [ControlledMicrogrid.servers_withServer_of_ne _ (Ne.symm hyx)]
      exact hlevel

/-! ### What the device does -/

/-- A device has selected one of the controllers, which all of them have recorded or will record;
the requests for the device come from it. -/
structure Serves (live : List Identity) (i : ι) (w : OperatedMicrogrid τ ι) : Prop where
  selected : w.selected i ∈ live
  viewed : ∀ x ∈ live, w.microgrid.view x i = some (some (w.selected i))
  states : ∀ x ∈ live, ∀ s ∈ w.microgrid.states x i, s.data.masterId = some (w.selected i)
  requests : ∀ s ∈ w.requests i, IsRequestOf live (w.microgrid.deviceId i) s →
    s.data.requestId.requestingDeviceId = w.selected i

/-- The requests of the controllers are those that the device accepts. -/
theorem accepts_iff (hrun : IsOperatedRun tr w)
    (hsel : w.selected i ∈ live ∨ w.selected i = "")
    (hserves : ¬w.Quiet live i → Serves live i w) {s : Sample EnergyStartStopRequest}
    (hs : s ∈ w.requests i) :
    (w.device i).Accepts s ↔ IsRequestOf live (w.microgrid.deviceId i) s := by
  constructor
  · rintro ⟨hvalid, hsender, htarget⟩
    have hsender : s.data.requestId.requestingDeviceId = w.selected i := hsender
    refine ⟨hvalid, ?_, htarget⟩
    rw [hsender]
    exact hsel.resolve_right fun hnone => hrun.consistent.sender i s hs (hsender.trans hnone)
  · intro hof
    have hbusy : ¬w.Quiet live i := fun hquiet => levelsOf_eq_nil_iff.mp hquiet.2 s hs hof
    exact ⟨hof.1, (hserves hbusy).requests s hs hof, hof.2.2⟩

/-- The requests of the controllers that are on their way to the device are of one instance. -/
theorem requestId_eq (hrun : IsOperatedRun tr w) (hserves : ¬w.Quiet live i → Serves live i w)
    {s s' : Sample EnergyStartStopRequest} (hs : s ∈ w.requests i) (hs' : s' ∈ w.requests i)
    (hof : IsRequestOf live (w.microgrid.deviceId i) s)
    (hof' : IsRequestOf live (w.microgrid.deviceId i) s') :
    s.data.requestId = s'.data.requestId := by
  have hbusy : ¬w.Quiet live i := fun hquiet => levelsOf_eq_nil_iff.mp hquiet.2 s hs hof
  have hsender := (hserves hbusy).requests s hs hof
  have hsender' := (hserves hbusy).requests s' hs' hof'
  have hconfig := hrun.consistent.config i s hs
  have hconfig' := hrun.consistent.config i s' hs'
  have hsame : ∀ r r' : DeviceConfigRequest, r.requestingDeviceId = r'.requestingDeviceId →
      r.targetDeviceId = r'.targetDeviceId → r.config = r'.config → r = r' := by
    rintro ⟨_, _, _⟩ ⟨_, _, _⟩ rfl rfl rfl
    rfl
  exact hsame _ _ (hsender.trans hsender'.symm) (hof.2.2.trans hof'.2.2.symm)
    (hconfig.trans hconfig'.symm)

/-- What a device is asked for waits until it takes it. -/
theorem Step.levelsOf_eq (hstep : Step w l w') (hrun : IsOperatedRun tr w)
    (hid : w'.microgrid.deviceId i = w.microgrid.deviceId i)
    (hserves : ¬w.Quiet live i → Serves live i w) (hattended : Attended live i ⟨w, l, w'⟩) :
    levelsOf live (w.microgrid.deviceId i) (w.requests i) ++ sent live i ⟨w, l, w'⟩ =
      received live i ⟨w, l, w'⟩ ++ levelsOf live (w'.microgrid.deviceId i) (w'.requests i) := by
  rw [hid]
  cases hstep with
  | cli | write | intentLost | microgrid => exact List.append_nil _
  | @intents y data rest writeOk hy hdata => exact (levelsOf_append _ _ _).symm
  | @requests j data rest hdata =>
    change levelsOf live _ (w.requests i) ++ [] = (if j = i then _ else []) ++
      levelsOf live _ (Function.update w.requests j rest i)
    rw [List.append_nil]
    split_ifs with hj
    · obtain rfl := hj
      rw [Function.update_self, hdata, levelsOf_append]
    · rw [Function.update_of_ne (Ne.symm hj)]
      rfl
  | @requestLost j s hs =>
    change levelsOf live _ (w.requests i) ++ [] =
      levelsOf live _ (Function.update w.requests j ((w.requests j).erase s) i)
    rw [List.append_nil]
    rcases eq_or_ne i j with rfl | hne
    · rw [Function.update_self, levelsOf, levelsOf,
        filter_erase_of_neg _ (by simpa using hattended rfl)]
    · rw [Function.update_of_ne hne]
  | @overtake j before after s s' hrequests hne =>
    change levelsOf live _ (w.requests i) ++ [] =
      levelsOf live _ (Function.update w.requests j (before ++ s' :: s :: after) i)
    rw [List.append_nil]
    rcases eq_or_ne i j with rfl | hij
    · -- Only one of the two requests is one of the controllers.
      have hs : s ∈ w.requests i := by simp [hrequests]
      have hs' : s' ∈ w.requests i := by simp [hrequests]
      rw [Function.update_self, hrequests, levelsOf, levelsOf, List.filter_append,
        List.filter_append, List.filter_cons, List.filter_cons, List.filter_cons (x := s'),
        List.filter_cons (x := s)]
      by_cases hof : IsRequestOf live (w.microgrid.deviceId i) s
      · have hother : ¬IsRequestOf live (w.microgrid.deviceId i) s' := fun hof' =>
          hne (requestId_eq hrun hserves hs hs' hof hof')
        simp [hof, hother]
      · simp [hof]
    · rw [Function.update_of_ne hij]

/-- What a device is asked for is its level. -/
theorem Step.level_eq (hstep : Step w l w') (hrun : IsOperatedRun tr w)
    (hsel : w.selected i ∈ live ∨ w.selected i = "")
    (hserves : ¬w.Quiet live i → Serves live i w) :
    w'.levels i = (received live i ⟨w, l, w'⟩).getLastD (w.levels i) := by
  cases hstep with
  | cli | write | microgrid | intents | intentLost | requestLost | overtake => rfl
  | @requests j data rest hdata hkeyed =>
    change Function.update w.levels j ((w.device j).essrOnDataAvailable data).1.essl i =
      (if j = i then _ else []).getLastD _
    split_ifs with hj
    · obtain rfl := hj
      have haccepted : ((w.device j).accepted data).map (·.toLevel) =
          levelsOf live (w.microgrid.deviceId j) data := by
        rw [PowerDevice.accepted, List.map_map, levelsOf]
        refine congrArg _ (List.filter_congr fun s hs => decide_eq_decide.mpr ?_)
        exact accepts_iff hrun hsel hserves (hdata ▸ List.mem_append_left rest hs)
      have hone : ((w.device j).accepted data).length ≤ 1 := by
        rw [← List.length_map (·.toLevel), haccepted, levelsOf, List.length_map]
        refine KeepLast.length_le_one (hkeyed.sublist (List.filter_sublist.map _))
          fun s hs s' hs' => ?_
        obtain ⟨hs, hof⟩ := List.mem_filter.mp hs
        obtain ⟨hs', hof'⟩ := List.mem_filter.mp hs'
        exact requestId_eq hrun hserves (hdata ▸ List.mem_append_left rest hs)
          (hdata ▸ List.mem_append_left rest hs') (of_decide_eq_true hof) (of_decide_eq_true hof')
      rw [Function.update_self, PowerDevice.essl_of_accepted hone, haccepted]
      rfl
    · rw [Function.update_of_ne (Ne.symm hj)]
      rfl

/-! ### What the controllers send -/

theorem levelsOf_sentBy (hrun : IsOperatedRun tr w) (d : Identity)
    (data : List (Sample OperatorIntentRequest)) (writeOk : Bool) :
    levelsOf live d (w.sentBy x data writeOk) = if x ∈ live then
      (((w.microgrid.servers x).oirOnDataAvailable data writeOk).2.filter
        (·.requestId.targetDeviceId = d)).map (·.toLevel)
    else [] := by
  have hsender : ∀ essr ∈ ((w.microgrid.servers x).oirOnDataAvailable data writeOk).2,
      essr.requestId.requestingDeviceId = x := fun essr hessr =>
    (CLIServer.sender_of_mem_oirOnDataAvailable hessr).trans
      (hrun.controlledRun.consistent.server x)
  rw [levelsOf, sentBy, List.filter_map, List.map_map]
  split_ifs with hx
  · refine congrArg (List.map _) (List.filter_congr fun essr hessr => decide_eq_decide.mpr ?_)
    exact ⟨fun hof => hof.2.2, fun htarget => ⟨rfl, (hsender essr hessr).symm ▸ hx, htarget⟩⟩
  · rw [List.map_eq_nil_iff, List.filter_eq_nil_iff]
    intro essr hessr hof
    exact hx (hsender essr hessr ▸ (of_decide_eq_true hof).2.1)

/-- The controller that the device has selected sends what it is asked for if it had recorded
another level, and the others send nothing. -/
theorem Step.sent_eq (hstep : Step w l w') (hrun : IsOperatedRun tr w)
    (hserves : ¬w.Quiet live i → Serves live i w) (hattended : Attended live i ⟨w, l, w'⟩)
    (hto : ∀ x ∈ live, .unknown ∉ w.awaited x i) (hknown : ∀ x ∈ live, w.recordedLevel x i ≠ none) :
    sent live i ⟨w, l, w'⟩ = if w.selected i ∈ live then
      (taken (w.selected i) i ⟨w, l, w'⟩).filter (w.recordedLevel (w.selected i) i ≠ some ·)
    else [] := by
  cases hstep with
  | cli | write | microgrid | intentLost | requests | requestLost | overtake =>
    exact (ite_self _).symm
  | @intents y data rest writeOk hy hdata hkeyed =>
    change levelsOf live _ (w.sentBy y data writeOk) = if w.selected i ∈ live then
      (if y = w.selected i then askedOf (w.microgrid.deviceId i) (w.selected i) data
      else []).filter (w.recordedLevel (w.selected i) i ≠ some ·) else []
    rw [levelsOf_sentBy hrun]
    by_cases hlive : y ∈ live
    · obtain ⟨level, hlevel⟩ := Option.ne_none_iff_exists'.mp (hknown y hlive)
      obtain ⟨pd, hpd, rfl⟩ := Option.map_eq_some_iff.mp hlevel
      have hserver := hrun.controlledRun.consistent.server y
      have hone := hrun.consistent.length_directives_le hdata hkeyed
      obtain rfl := hattended hlive
      have hawaited := hto y hlive
      rw [awaited_of_append hdata, List.mem_append, not_or] at hawaited
      rw [if_pos hlive, (CLIServer.oirOnDataAvailable_of_known hserver hpd hone hawaited.1).2]
      change (if _ then (askedOf (w.microgrid.deviceId i) y data).filter _ else []) = _
      by_cases hnone : askedOf (w.microgrid.deviceId i) y data = []
      · rw [hnone, List.filter_nil, ite_self]
        split_ifs with hsel hown
        · rw [← hown, hnone, List.filter_nil]
        · rfl
        · rfl
      · have hbusy : ¬w.Quiet live i := fun hquiet => hnone <| by
          have hnil := hquiet.1 y hlive
          rw [awaited_of_append hdata] at hnil
          exact (List.append_eq_nil_iff.mp hnil).1
        obtain ⟨hsel, hviewed, -, -⟩ := hserves hbusy
        have hmaster : pd.masterId = some (w.selected i) := by
          have hview := hviewed y hlive
          rw [ControlledMicrogrid.view, Controller.view, hpd] at hview
          exact Option.some.inj hview
        rw [if_pos hsel, hmaster]
        by_cases hown : y = w.selected i
        · rw [if_pos (congrArg some hown.symm), if_pos hown, ← hown, hlevel]
          exact List.filter_congr fun l _ => by simp
        · rw [if_neg fun h => hown (Option.some.inj h).symm, if_neg hown, List.filter_nil]
    · rw [if_neg hlive]
      split_ifs with hsel hown
      · exact absurd (hown ▸ hsel) hlive
      · rfl
      · rfl

/-- A transition in which nothing is commanded keeps the microgrid quiet. -/
theorem Step.quiet (hstep : Step w l w') (hrun : IsOperatedRun tr w)
    (hid : w'.microgrid.deviceId i = w.microgrid.deviceId i)
    (hattended : Attended live i ⟨w, l, w'⟩) (hquiet : w.Quiet live i)
    (hcommanded : commanded i ⟨w, l, w'⟩ = []) (hsent : sent live i ⟨w, l, w'⟩ = []) :
    w'.Quiet live i := by
  constructor
  · intro x hx
    have heq := hstep.awaited_eq hid hx hattended
    rw [hquiet.1 x hx, hcommanded] at heq
    exact (List.append_eq_nil_iff.mp heq.symm).2
  · have heq := hstep.levelsOf_eq hrun hid (fun hbusy => absurd hquiet hbusy) hattended
    rw [hquiet.2, hsent] at heq
    exact (List.append_eq_nil_iff.mp heq.symm).2

/-- What the controller that a device has selected is still to take. -/
def due (live : List Identity) (w : OperatedMicrogrid τ ι) (i : ι) : List EnergyStartStopLevel :=
  if w.selected i ∈ live then w.awaited (w.selected i) i else []

omit [TimePoint τ] [DecidableEq ι] in
theorem due_eq_nil (h : w.Quiet live i) : due live w i = [] := by
  rw [due]
  split_ifs with hsel
  · exact h.1 _ hsel
  · rfl

/-- The device keeps its controller, or nothing is on its way for it. -/
theorem Step.selected_cases (hstep : Step w l w') (hsteady : Steady live i ⟨w, l, w'⟩) :
    w'.selected i = w.selected i ∨ w.Quiet live i ∧ (w'.selected i ∈ live ∨ w'.selected i = "") ∧
      commanded i ⟨w, l, w'⟩ = [] ∧ ∀ x, taken x i ⟨w, l, w'⟩ = [] := by
  cases hstep with
  | microgrid => exact hsteady.imp_right fun h => ⟨h.1, h.2, rfl, fun _ => rfl⟩
  | cli | write | intents | intentLost | requests | requestLost | overtake => exact Or.inl rfl

/-- What the selected controller is asked for waits until it takes it. -/
theorem Step.due_eq (hstep : Step w l w')
    (hid : w'.microgrid.deviceId i = w.microgrid.deviceId i)
    (hattended : Attended live i ⟨w, l, w'⟩) (hsteady : Steady live i ⟨w, l, w'⟩) :
    due live w i ++ commanded i ⟨w, l, w'⟩ =
      (if w.selected i ∈ live then taken (w.selected i) i ⟨w, l, w'⟩ else []) ++
        due live w' i := by
  rcases hstep.selected_cases hsteady with hsame | ⟨hquiet, -, hcommanded, htaken⟩
  · rw [due, due, hsame]
    split_ifs with hsel
    · exact hstep.awaited_eq hid hsel hattended
    · cases hstep with
      | cli =>
        by_contra hne
        exact hsel (hattended hne).1
      | write | microgrid | intents | intentLost | requests | requestLost | overtake => rfl
  · rw [due_eq_nil hquiet, hcommanded, htaken, ite_self, due]
    split_ifs with hsel
    · have heq := hstep.awaited_eq hid hsel hattended
      rw [hquiet.1 _ hsel, hcommanded, htaken] at heq
      exact heq
    · rfl

/-! ### Who serves the device -/

/-- The controllers go on recording the controller that the device has selected. -/
theorem Serves.view_step (h : Serves live i w) (hstep : Step w l w')
    (hrun : IsOperatedRun tr w)
    (hunique : ∀ j, w.microgrid.deviceId j = w.microgrid.deviceId i → j = i)
    (hattended : Attended live i ⟨w, l, w'⟩) (hx : x ∈ live) :
    w'.microgrid.view x i = some (some (w.selected i)) := by
  cases hstep with
  | cli | write | intentLost | requests | requestLost | overtake => exact h.viewed x hx
  | @microgrid k c hk hstep =>
    have hrun := hrun.controlledRun
    have hid : c.deviceId i = w.microgrid.deviceId i := hstep.deviceId_eq hrun i
    obtain ⟨pd, hpd, hmaster⟩ := Option.map_eq_some_iff.mp (h.viewed x hx)
    obtain ⟨pd', hpd', -, hcases⟩ := hstep.find?_of_known hk (hattended.1 x hx) hpd
    change (c.servers x).controller.view (c.deviceId i) = _
    rw [hid, Controller.view, hpd', Option.map_some]
    rcases hcases with hsame | ⟨j, s, hs, hdev, hstate⟩
    · rw [hsame, hmaster]
    · obtain ⟨y, rfl⟩ := hrun.consistent.states x j s hs
      obtain rfl := hunique j hdev
      rw [hstate, h.states x hx _ hs]
  | @intents y data rest writeOk hy hdata =>
    refine Eq.trans ?_ (h.viewed x hx)
    change (w.microgrid.withServer y _).view x i = _
    rcases eq_or_ne x y with rfl | hne
    · rw [ControlledMicrogrid.view_withServer_self]
      exact CLIServer.view_oirOnDataAvailable data writeOk _
    · exact ControlledMicrogrid.view_withServer_of_ne hne _

/-- The selected controller goes on serving the device as long as it is selected. -/
theorem Serves.step (h : Serves live i w) (hstep : Step w l w')
    (hrun : IsOperatedRun tr w)
    (hunique : ∀ j, w.microgrid.deviceId j = w.microgrid.deviceId i → j = i)
    (hattended : Attended live i ⟨w, l, w'⟩) (hsel : w'.selected i = w.selected i) :
    Serves live i w' := by
  refine ⟨?_, fun x hx => ?_, fun x hx s hs => ?_, fun s hs hof => ?_⟩ <;> rw [hsel]
  · exact h.selected
  · exact h.view_step hstep hrun hunique hattended hx
  · cases hstep with
    | microgrid hk hstep =>
      rcases hstep.states_cases hrun.controlledRun (hattended.1 x hx) hs with hold | rfl
      · exact h.states x hx s hold
      · exact congrArg some hsel
    | cli | write | intents | intentLost | requests | requestLost | overtake =>
      exact h.states x hx s hs
  · rw [hrun.deviceId_eq hstep i] at hof
    rcases hstep.mem_requests hs with hs | ⟨y, -, data, writeOk, essr, hessr, rfl⟩
    · exact h.requests s hs hof
    · -- The sender has recorded itself as the master, and so the device has selected it.
      have hserver := hrun.controlledRun.consistent.server y
      have hsender := (CLIServer.sender_of_mem_oirOnDataAvailable hessr).trans hserver
      have hview := CLIServer.view_of_mem_oirOnDataAvailable hessr
      obtain ⟨-, hlive, htarget⟩ := hof
      have hlive : essr.requestId.requestingDeviceId ∈ live := hlive
      have htarget : essr.requestId.targetDeviceId = w.microgrid.deviceId i := htarget
      rw [htarget, hserver] at hview
      rw [hsender] at hlive
      have hown := Option.some.inj (Option.some.inj (hview.symm.trans (h.viewed y hlive)))
      exact hsender.trans hown

end Steps

end OperatedMicrogrid

end TacticalMicrogrid
