import TacticalMicrogrid.Library.Changes
import TacticalMicrogrid.StartStop.RequestSteps

/-!
# The operator's last command

An operator stops and starts a device again and again, in a microgrid whose controllers go on and
get all their requests. Every controller records what the operator asks for, so each knows
the level of the device when it becomes the device's master; the master sends what changes that
level, and the device obeys. So the device follows the operator's commands, without repetitions, and
ends at the last one.

## Main definitions

* `OperatedMicrogrid.Settled`: the state at the start.
* `OperatedMicrogrid.Inv`: what holds all along a run.
* `OperatedMicrogrid.FollowsOperator`: the device follows the operator's commands.
* `OperatedMicrogrid.HeardInTime`: the heartbeats of its controller reach a device in time.

## Main results

* `OperatedMicrogrid.Inv.step`, `OperatedMicrogrid.inv_of_run`: the invariant.
* `OperatedMicrogrid.obeys_operator_of_run`: the device follows the operator's commands.
* `OperatedMicrogrid.reports_level_of_run`: what the operator is told about the device.
* `OperatedMicrogrid.obeys_operator_in_time`: the same when the device hears its controller in time.
-/

namespace TacticalMicrogrid

open TransitionSystem

namespace OperatedMicrogrid

variable {τ ι : Type} [TimePoint τ] [DecidableEq ι] {live : List Identity}
  {w w' : OperatedMicrogrid τ ι} {l : Label ι} {x : Identity} {i : ι} {before tr : Trace τ ι}

/-! ### All along a run -/

/-- The controllers know a device, at its level, and have missed none of its states, the last of
which has been published; the device has selected one of them or none; and no request for it is on
its way or to be written. -/
structure Settled (live : List Identity) (w : OperatedMicrogrid τ ι) (i : ι) (tr : Trace τ ι) :
    Prop where
  selected : w.selected i ∈ live ∨ w.selected i = ""
  recorded : ∀ x ∈ live, w.recordedLevel x i = some (w.levels i)
  informed : ∀ x ∈ live, ¬ControlledMicrogrid.HasMissed x i (controlled.trace tr)
  written : ¬ControlledMicrogrid.Unwritten i (controlled.trace tr)
  quiet : w.Quiet live i

omit [DecidableEq ι] in
/-- The operator commands levels that a device can have. -/
theorem unknown_notMem_commanded (t : Transition (OperatedMicrogrid τ ι) (Label ι)) :
    .unknown ∉ commanded i t := by
  rcases t with ⟨w, l, w'⟩
  cases l with
  | cli e =>
    intro hmem
    obtain ⟨⟨pdId, opt⟩, hask, hunknown⟩ := List.mem_map.mp hmem
    have hask := Option.mem_toList.mp (List.mem_filter.mp hask).1
    exact (CLISession.of_asks hask).2 hunknown
  | write | microgrid | intents | intentLost | requests | requestLost | overtake =>
    exact List.not_mem_nil

/-- What holds all along a run, from a level that the controllers have recorded and the device is
at. -/
structure Inv (live : List Identity) (i : ι) (before : Trace τ ι) (level : EnergyStartStopLevel)
    (tr : Trace τ ι) (w : OperatedMicrogrid τ ι) : Prop where
  unique : ∀ j, w.microgrid.deviceId j = w.microgrid.deviceId i → j = i
  selected : w.selected i ∈ live ∨ w.selected i = ""
  informed : ∀ x ∈ live,
    ¬ControlledMicrogrid.HasMissed x i (controlled.trace (before ++ tr))
  written : ¬ControlledMicrogrid.Unwritten i (controlled.trace (before ++ tr))
  recorded : ∀ x ∈ live, ∃ recorded, w.recordedLevel x i = some recorded ∧
    Changes.Tracks level (tr.flatMap (commanded i)) (w.awaited x i) recorded
  emits : Changes.Emits level (tr.flatMap (commanded i)) (due live w i)
    (tr.flatMap (sent live i))
  obeys : Changes.Tracks level (tr.flatMap (sent live i))
    (levelsOf live (w.microgrid.deviceId i) (w.requests i)) (w.levels i)
  serves : ¬w.Quiet live i → Serves live i w

section Inv

variable {level : EnergyStartStopLevel}

theorem Inv.of_settled {m : OperatedMicrogrid τ ι} (h : m.Settled live i before)
    (hunique : ∀ j, m.microgrid.deviceId j = m.microgrid.deviceId i → j = i) :
    Inv live i before (m.levels i) [] m where
  unique := hunique
  selected := h.selected
  informed x hx := by
    rw [List.append_nil]
    exact h.informed x hx
  written := by
    rw [List.append_nil]
    exact h.written
  recorded x hx := ⟨m.levels i, h.recorded x hx, h.quiet.1 x hx ▸ .nil _⟩
  emits := due_eq_nil h.quiet ▸ .nil _
  obeys := h.quiet.2 ▸ .nil _
  serves hbusy := absurd h.quiet hbusy

theorem Inv.unknown_notMem (h : Inv live i before level tr w) (hx : x ∈ live) :
    .unknown ∉ w.awaited x i := by
  intro hmem
  obtain ⟨recorded, -, htracks⟩ := h.recorded x hx
  obtain ⟨t, -, ht⟩ := List.mem_flatMap.mp (htracks.queue_subset hmem)
  exact unknown_notMem_commanded t ht

theorem Inv.recordedLevel_ne (h : Inv live i before level tr w) (hx : x ∈ live) :
    w.recordedLevel x i ≠ none := by
  obtain ⟨recorded, hrecorded, -⟩ := h.recorded x hx
  rw [hrecorded]
  exact Option.some_ne_none recorded

/-- A controller that has recorded a level drops no state. -/
theorem Inv.informed_snoc (h : Inv live i before level tr w) (hx : x ∈ live) :
    ¬ControlledMicrogrid.HasMissed x i
      (controlled.trace (before ++ (tr ++ [⟨w, l, w'⟩]))) := by
  rw [← List.append_assoc, Component.trace_snoc, Component.transition]
  cases controlled.label l with
  | none =>
    rw [Option.map_none, Option.toList_none, List.append_nil]
    exact h.informed x hx
  | some k =>
    refine ControlledMicrogrid.not_hasMissed_snoc (h.informed x hx) fun hunknown => ?_
    have hnone := Option.map_eq_none_iff.mp hunknown
    refine h.recordedLevel_ne hx ?_
    rw [recordedLevel, Option.map_eq_none_iff]
    exact hnone

/-- The states of the device go on being published. -/
theorem Inv.written_snoc (h : Inv live i before level tr w)
    (hattended : Attended live i ⟨w, l, w'⟩) :
    ¬ControlledMicrogrid.Unwritten i (controlled.trace (before ++ (tr ++ [⟨w, l, w'⟩]))) := by
  rw [← List.append_assoc, Component.trace_snoc, Component.transition]
  cases hk : controlled.label l with
  | none =>
    rw [Option.map_none, Option.toList_none, List.append_nil]
    exact h.written
  | some k =>
    have hwrites : ¬k.Writes i false := by
      cases l with
      | microgrid =>
        obtain rfl := Option.some.inj hk
        exact hattended.2
      | intents =>
        obtain rfl := Option.some.inj hk
        exact id
      | cli | write | intentLost | requests | requestLost | overtake => cases hk
    refine fun hsince => (since_snoc.mp hsince).elim hwrites fun hold => h.written hold.1

/-- Who serves the device after a transition. -/
theorem Inv.serves_step (h : Inv live i before level tr w) (hlive : "" ∉ live)
    (hrun : IsOperatedRun (before ++ tr) w) (hstep : Step w l w')
    (hid : w'.microgrid.deviceId i = w.microgrid.deviceId i)
    (hattended : Attended live i ⟨w, l, w'⟩) (hsteady : Steady live i ⟨w, l, w'⟩)
    (hbusy : ¬w'.Quiet live i) : Serves live i w' := by
  by_cases hcommanded : commanded i ⟨w, l, w'⟩ = []
  · -- Nothing is commanded, so something was on its way before.
    have hbusy' : ¬w.Quiet live i := fun hquiet => by
      refine hbusy (hstep.quiet hrun hid hattended hquiet hcommanded ?_)
      have hsent := hstep.sent_eq hrun h.serves hattended (fun x => h.unknown_notMem)
        fun x => h.recordedLevel_ne
      have hnow := hstep.due_eq hid hattended hsteady
      rw [due_eq_nil hquiet, hcommanded, List.nil_append] at hnow
      rw [hsent]
      split_ifs with hsel
      · rw [if_pos hsel] at hnow
        rw [(List.append_eq_nil_iff.mp hnow.symm).1, List.filter_nil]
      · rfl
    refine (h.serves hbusy').step hstep hrun h.unique hattended ?_
    exact (hstep.selected_cases hsteady).resolve_right fun hquiet => hbusy' hquiet.1
  · cases hstep with
    | @cli e hpending henabled =>
      obtain ⟨hsel, haddressed⟩ := hattended hcommanded
      have hstates : ∀ x ∈ live, w.microgrid.states x i = [] := fun x hx => (haddressed x hx).2
      refine ⟨hsel, fun x hx => ?_, fun x hx s hs => ?_, fun s hs hof => ?_⟩
      · exact hrun.controlledRun.view_eq h.unique (h.informed x hx) h.written (hstates x hx)
          fun hnone => hlive (hnone ▸ hsel)
      · change s ∈ w.microgrid.states x i at hs
        rw [hstates x hx] at hs
        cases hs
      · have hbusy' : ¬w.Quiet live i := fun hquiet => levelsOf_eq_nil_iff.mp hquiet.2 s hs hof
        exact (h.serves hbusy').requests s hs hof
    | write | microgrid | intents | intentLost | requests | requestLost | overtake =>
      exact absurd rfl hcommanded

/-- A controller takes the request of one command at a time. -/
theorem Step.length_taken_le (hstep : Step w l w') (hrun : IsOperatedRun tr w) :
    (taken x i ⟨w, l, w'⟩).length ≤ 1 := by
  cases hstep with
  | @intents y data rest writeOk hy hdata hkeyed =>
    change (if y = x then askedOf _ x data else []).length ≤ 1
    split_ifs with hyx
    · obtain rfl := hyx
      rw [askedOf, CLIServer.levelsFor, List.length_map]
      exact (List.length_filter_le _ _).trans
        (hrun.consistent.length_directives_le hdata hkeyed)
    · exact Nat.zero_le 1
  | cli | write | microgrid | intentLost | requests | requestLost | overtake => exact Nat.zero_le 1

/-- The selected controller sends each change of the level. -/
theorem Inv.emits_step (h : Inv live i before level tr w) (hstep : Step w l w')
    (hrun : IsOperatedRun (before ++ tr) w)
    (hid : w'.microgrid.deviceId i = w.microgrid.deviceId i)
    (hattended : Attended live i ⟨w, l, w'⟩) (hsteady : Steady live i ⟨w, l, w'⟩) :
    Changes.Emits level (tr.flatMap (commanded i) ++ commanded i ⟨w, l, w'⟩) (due live w' i)
      (tr.flatMap (sent live i) ++ sent live i ⟨w, l, w'⟩) := by
  have hsent := hstep.sent_eq hrun h.serves hattended (fun x => h.unknown_notMem)
    fun x => h.recordedLevel_ne
  have hdue := hstep.due_eq hid hattended hsteady
  rw [hsent]
  split_ifs with hsel
  · obtain ⟨recorded, hrecorded, htracks⟩ := h.recorded _ hsel
    have hfilter : (taken (w.selected i) i ⟨w, l, w'⟩).filter
        (w.recordedLevel (w.selected i) i ≠ some ·) =
          (taken (w.selected i) i ⟨w, l, w'⟩).filter (recorded ≠ ·) :=
      List.filter_congr fun l _ => by simp [hrecorded]
    rw [if_pos hsel] at hdue
    rw [hfilter]
    refine h.emits.step ?_ hdue (hstep.length_taken_le hrun)
    rwa [due, if_pos hsel]
  · rw [if_neg hsel, List.nil_append] at hdue
    rw [List.append_nil, ← hdue]
    exact h.emits.put _

theorem Inv.step (h : Inv live i before level tr w) (hlive : "" ∉ live)
    (hrun : IsOperatedRun (before ++ tr) w) (hstep : Step w l w')
    (hattended : Attended live i ⟨w, l, w'⟩) (hsteady : Steady live i ⟨w, l, w'⟩) :
    Inv live i before level (tr ++ [⟨w, l, w'⟩]) w' := by
  have hid := hrun.deviceId_eq hstep
  refine ⟨?_, ?_, fun x => h.informed_snoc, h.written_snoc hattended, fun x hx => ?_, ?_, ?_,
    h.serves_step hlive hrun hstep (hid i) hattended hsteady⟩
  · simpa only [hid] using h.unique
  · rcases hstep.selected_cases hsteady with hsame | hother
    · rw [hsame]
      exact h.selected
    · exact hother.2.1
  · obtain ⟨recorded, hrecorded, htracks⟩ := h.recorded x hx
    refine ⟨_, hstep.recordedLevel_eq hrun (hid i) hx hattended (h.unknown_notMem hx) hrecorded, ?_⟩
    rw [List.flatMap_append, List.flatMap_singleton]
    exact htracks.step (hstep.awaited_eq (hid i) hx hattended)
  · rw [List.flatMap_append, List.flatMap_append, List.flatMap_singleton, List.flatMap_singleton]
    exact h.emits_step hstep hrun (hid i) hattended hsteady
  · rw [List.flatMap_append, List.flatMap_singleton,
      hstep.level_eq hrun h.selected h.serves]
    exact h.obeys.step (hstep.levelsOf_eq hrun (hid i) h.serves hattended)

/-- When no request is on its way any more, the device is at the level of the last command. -/
theorem Inv.level_eq_last (h : Inv live i before level tr w) (hquiet : w.Quiet live i) :
    w.levels i = (tr.flatMap (commanded i)).getLastD level := by
  have hemits := h.emits
  have hobeys := h.obeys
  rw [due_eq_nil hquiet] at hemits
  rw [hquiet.2] at hobeys
  exact hobeys.eq_last.trans hemits.getLastD_eq

/-- When no request is on its way any more, the microgrid is settled again. -/
theorem Inv.settled (h : Inv live i before level tr w)
    (hquiet : w.Quiet live i) : w.Settled live i (before ++ tr) where
  selected := h.selected
  informed := h.informed
  written := h.written
  quiet := hquiet
  recorded x hx := by
    obtain ⟨recorded, hrecorded, htracks⟩ := h.recorded x hx
    rw [hquiet.1 x hx] at htracks
    rw [hrecorded, htracks.eq_last, h.level_eq_last hquiet]

/-- The invariant holds all along a run whose transitions meet the conditions. -/
theorem inv_of_run {m : OperatedMicrogrid τ ι} (hbefore : IsOperatedRun before m)
    (hafter : IsRun Step m tr w) (hlive : "" ∉ live)
    (hunique : ∀ j, m.microgrid.deviceId j = m.microgrid.deviceId i → j = i)
    (hsettled : m.Settled live i before) (hattended : ∀ t ∈ tr, Attended live i t)
    (hsteady : ∀ t ∈ tr, Steady live i t) : Inv live i before (m.levels i) tr w := by
  refine hafter.traceInvariant (P := fun tr w => (∀ t ∈ tr, Attended live i t) →
    (∀ t ∈ tr, Steady live i t) → Inv live i before (m.levels i) tr w)
    (fun _ _ => .of_settled hsettled hunique) ?_ hattended hsteady
  intro tr w l w' hrun ih hstep hattended hsteady
  refine (ih (fun t ht => hattended t (List.mem_append_left _ ht))
    fun t ht => hsteady t (List.mem_append_left _ ht)).step hlive (hbefore.append hrun) hstep ?_ ?_
  · exact hattended _ (List.mem_append_right _ List.mem_cons_self)
  · exact hsteady _ (List.mem_append_right _ List.mem_cons_self)

end Inv

/-! ### Following the operator -/

/-- The device follows the operator's commands. What the controllers have sent are the first changes
of the level that the operator has commanded, each once and in their order, and the device is at one
of them. When no request is on its way or to be written, they are all changes, the device is at the
level of the last command, and every controller has recorded that level. -/
structure FollowsOperator (live : List Identity) (i : ι) (level : EnergyStartStopLevel)
    (tr : Trace τ ι) (w : OperatedMicrogrid τ ι) : Prop where
  changes : level :: tr.flatMap (sent live i) <+:
    (level :: tr.flatMap (commanded i)).destutter (· ≠ ·)
  obeyed : ∃ obeyed, obeyed <+: tr.flatMap (sent live i) ∧ w.levels i = obeyed.getLastD level
  all : w.Quiet live i → level :: tr.flatMap (sent live i) =
    (level :: tr.flatMap (commanded i)).destutter (· ≠ ·)
  last : w.Quiet live i → w.levels i = (tr.flatMap (commanded i)).getLastD level
  recorded : w.Quiet live i → ∀ x ∈ live, w.recordedLevel x i = some (w.levels i)

theorem Inv.followsOperator {level : EnergyStartStopLevel} (h : Inv live i before level tr w) :
    FollowsOperator live i level tr w where
  changes := h.emits.prefix_changes
  obeyed := by
    obtain ⟨obeyed, heq, hlevel⟩ := h.obeys
    exact ⟨obeyed, ⟨_, heq⟩, hlevel⟩
  all hquiet := by
    have hemits := h.emits
    rw [due_eq_nil hquiet] at hemits
    exact hemits.eq_changes
  last hquiet := h.level_eq_last hquiet
  recorded hquiet := (h.settled hquiet).recorded

/-! ### The controller of the device goes on -/

/-- What the microgrid does in a run, without its controllers' tables. -/
def gridTrace (tr : Trace τ ι) : SelectionSystem.Trace τ ι :=
  ControlledMicrogrid.gridComponent.trace (controlled.trace tr)

/-- The device has just heard its controller, whose heartbeats reach it in time from then on. -/
structure HeardInTime (lag delay : Duration) (i : ι) (m : OperatedMicrogrid ExactTime ι)
    (after : Trace ExactTime ι) : Prop where
  heard : m.microgrid.grid.JustHeard i (m.selected i)
  reaches : ∀ t ∈ gridTrace after,
    SelectionSystem.Reaches lag delay i (m.selected i) t.source t.label

instance (lag delay : Duration) (i : ι) (m : OperatedMicrogrid ExactTime ι)
    (after : Trace ExactTime ι) : Decidable (HeardInTime lag delay i m after) :=
  decidable_of_iff (m.microgrid.grid.JustHeard i (m.selected i) ∧ ∀ t ∈ gridTrace after,
      SelectionSystem.Reaches lag delay i (m.selected i) t.source t.label)
    ⟨fun h => ⟨h.1, h.2⟩, fun h => ⟨h.1, h.2⟩⟩

/-- A device keeps its controller in a step soon after its last heartbeat. -/
theorem Step.selected_eq {w w' : OperatedMicrogrid ExactTime ι} {tr : Trace ExactTime ι}
    {lag delay : Duration} (hstep : Step w l w') (hrun : IsOperatedRun tr w)
    (hshort : lag + delay < Sec 4) (hheard : ∀ k ∈ l.controlledLabel, ∀ g ∈ k.gridLabel,
      ∃ last ∈ (w.microgrid.grid.devices i).selector.lastHeard (w.selected i),
        g.now ≤ last + Sec 2 + lag + delay) : w'.selected i = w.selected i := by
  cases hstep with
  | microgrid hk hstep =>
    cases hstep with
    | grid _ hgrid => exact hgrid.keeps_heard hrun.controlledRun.gridRun hshort (hheard _ rfl _ rfl)
    | deviceInfo | activeController | replaced | operatorIntents | replies => rfl
  | cli | write | intents | intentLost | requests | requestLost | overtake => rfl

/-! ### Two controllers -/

/-- Two controllers, which a session lists, and a device that selects one of them. -/
def joinLabels : List (Label Unit) :=
  CLISession.joinEvents.map .cli ++ ControlledMicrogrid.selectsOne.map .microgrid

/-- A command of the operator for the device, which writes a request for each of the controllers,
and what happens between the two writes. -/
def commandLabels (input : String) (between : List (Label Unit)) : List (Label Unit) :=
  [.cli (.startStop input ⟨1, ["mc1", "mc2"], fun _ => .failed⟩ 1 ["mc1", "mc2"]), .write true] ++
    between ++ [.write true]

/-- A controller takes one of the requests of a command, which is for a controller. -/
def takeLabel (opt : OperatorPriorityType) (x mcId : Identity) : Label Unit :=
  .intents x [⟨⟨⟨"cli"⟩, 0, ⟨⟨mcId⟩, .operatorDefined, [⟨"dev", false, ⟨opt⟩⟩]⟩⟩, true⟩] true

/-- The device takes one request. -/
def obeyLabel (sequenceId : UInt64) (toLevel : EnergyStartStopLevel) : Label Unit :=
  .requests () [⟨⟨⟨"mc1", "dev", .active⟩, sequenceId, .any, toLevel⟩, true⟩]

/-- The operator stops the device twice and starts it again; its controller sends a heartbeat. -/
def stopAndStart : List (Label Unit) :=
  commandLabels "stop dev" [] ++ ["mc1", "mc2"].map (takeLabel .neverOperate "mc1") ++
  commandLabels "stop dev" [] ++ ["mc1", "mc2"].map (takeLabel .neverOperate "mc2") ++
  (SelectionSystem.Label.beats (Sec 3) "mc1" 2 [()]).map (.microgrid <| .grid · true) ++
  ["mc1", "mc2"].map (takeLabel .neverOperate "mc2") ++ [obeyLabel 0 .off] ++
  commandLabels "start dev" (["mc1", "mc2"].map (takeLabel .neverOperate "mc1")) ++
  ["mc1", "mc2"].map (takeLabel .alwaysOperate "mc1") ++
  ["mc1", "mc2"].map (takeLabel .alwaysOperate "mc2") ++ [obeyLabel 1 .operational]

/-- The commands are given when the microgrid is settled, and the requests for them are taken one by
one. -/
theorem exists_stopAndStart : ∃ (before : Trace ExactTime Unit)
      (m : OperatedMicrogrid ExactTime Unit) (after : Trace ExactTime Unit)
      (w : OperatedMicrogrid ExactTime Unit),
    IsOperatedRun before m ∧ IsRun Step m after w ∧
      m.Settled ["mc1", "mc2"] () before ∧ (∀ t ∈ after, Attended ["mc1", "mc2"] () t) ∧
      (∀ t ∈ after, Steady ["mc1", "mc2"] () t) ∧ w.Quiet ["mc1", "mc2"] () ∧
      HeardInTime 0 0 () m after ∧
      (∀ t ∈ gridTrace (before ++ after), SelectionSystem.OnSchedule "mc1" t.source t.label) ∧
      m.selected () = "mc1" ∧ w.selected () = "mc1" ∧
      (∀ x ∈ ["mc1", "mc2"], w.microgrid.states x () = []) ∧ m.levels () = .operational ∧
      after.flatMap (commanded ()) = [.off, .off, .operational] := by
  obtain ⟨before, m, after, w, hbefore, hafter, hknown, hwritten, hquiet, htransitions, hrest⟩ :=
    exists_isRun_of_follow_follow (step_of_next? (τ := ExactTime))
      (P := fun before (m : OperatedMicrogrid ExactTime Unit) after w =>
        (∀ x ∈ ["mc1", "mc2"], m.recordedLevel x () = some (m.levels ()) ∧
          ∀ t ∈ controlled.trace before, ¬ControlledMicrogrid.Misses x () t) ∧
        (∀ t ∈ controlled.trace before, ¬t.label.Writes () false) ∧
        m.Quiet ["mc1", "mc2"] () ∧
        (∀ t ∈ after, Attended ["mc1", "mc2"] () t ∧ Steady ["mc1", "mc2"] () t) ∧
        w.Quiet ["mc1", "mc2"] () ∧ HeardInTime 0 0 () m after ∧
        (∀ t ∈ gridTrace (before ++ after), SelectionSystem.OnSchedule "mc1" t.source t.label) ∧
        m.selected () = "mc1" ∧ w.selected () = "mc1" ∧
        (∀ x ∈ ["mc1", "mc2"], w.microgrid.states x () = []) ∧ m.levels () = .operational ∧
        after.flatMap (commanded ()) = [.off, .off, .operational])
      (s := init "cli" (fun _ => "dev") {} 0) joinLabels stopAndStart (by decide +kernel)
  have hsel : m.selected () = "mc1" := hrest.2.2.2.1
  have hsettled : m.Settled ["mc1", "mc2"] () before :=
    ⟨Or.inl (hsel ▸ List.mem_cons_self), fun x hx => (hknown x hx).1,
      fun x hx => ControlledMicrogrid.not_hasMissed (hknown x hx).2,
      ControlledMicrogrid.not_unwritten hwritten, hquiet⟩
  exact ⟨before, m, after, w, ⟨_, _, _, _, hbefore⟩, hafter, hsettled,
    fun t ht => (htransitions t ht).1, fun t ht => (htransitions t ht).2, hrest⟩

/-! ### Results -/

section Results

variable {m : OperatedMicrogrid τ ι} {after : Trace τ ι}

/-- **The operator's commands.** A microgrid is settled. From then on the operator's commands reach
the controllers and the device, and the device selects another controller only when no request for
it is on its way or to be written. Then it follows the operator's commands. -/
theorem obeys_operator_of_run (hbefore : IsOperatedRun before m)
    (hafter : IsRun Step m after w) (hlive : "" ∉ live)
    (hunique : ∀ j, m.microgrid.deviceId j = m.microgrid.deviceId i → j = i)
    (hsettled : m.Settled live i before) (hattended : ∀ t ∈ after, Attended live i t)
    (hsteady : ∀ t ∈ after, Steady live i t) :
    FollowsOperator live i (m.levels i) after w :=
  (inv_of_run hbefore hafter hlive hunique hsettled hattended hsteady).followsOperator

/-- The device is stopped once and started again. -/
theorem obeys_operator_of_two : ∃ (m w : OperatedMicrogrid ExactTime Unit)
      (after : Trace ExactTime Unit),
    IsRun Step m after w ∧
      after.flatMap (commanded ()) = [.off, .off, .operational] ∧
      after.flatMap (sent ["mc1", "mc2"] ()) = [.off, .operational] ∧
      w.levels () = .operational := by
  obtain ⟨before, m, after, w, hbefore, hafter, hsettled, hattended, hsteady, hquiet, -, -, -, -, -,
    hlevel, hcommanded⟩ := exists_stopAndStart
  have hfollows := obeys_operator_of_run hbefore hafter (by decide) (fun _ _ => rfl) hsettled
    hattended hsteady
  have hsent := hfollows.all hquiet
  have hlast := hfollows.last hquiet
  rw [hlevel, hcommanded] at hsent hlast
  exact ⟨m, w, after, hafter, hcommanded, (List.cons.inj hsent).2, hlast⟩

/-- **The operator's commands in time.** A microgrid is settled, and the device has just heard its
controller. From then on the operator's commands reach the controllers and the device, and the
heartbeats of its controller, whose reactor keeps to their schedule, reach the device in time. Then
the device keeps its controller and follows the operator's commands. -/
theorem obeys_operator_in_time {m w : OperatedMicrogrid ExactTime ι}
    {before after : Trace ExactTime ι} (lag delay : Duration) (hbefore : IsOperatedRun before m)
    (hafter : IsRun Step m after w) (hlive : "" ∉ live)
    (hunique : ∀ j, m.microgrid.deviceId j = m.microgrid.deviceId i → j = i)
    (hsettled : m.Settled live i before) (hattended : ∀ t ∈ after, Attended live i t)
    (hreactor : ∀ t ∈ gridTrace (before ++ after),
      SelectionSystem.OnSchedule (m.selected i) t.source t.label)
    (hdelay : 0 ≤ delay) (hshort : lag + delay < Sec 4) (hheard : HeardInTime lag delay i m after) :
    (∀ t ∈ after, t.target.selected i = m.selected i) ∧
      FollowsOperator live i (m.levels i) after w := by
  have hgrid := (hafter.component follows).component ControlledMicrogrid.grid_follows
  rw [gridTrace, Component.trace_append, Component.trace_append] at hreactor
  have hrecent : ∀ t ∈ after, ∀ k ∈ t.label.controlledLabel, ∀ g ∈ k.gridLabel,
      ∃ last ∈ (t.source.microgrid.grid.devices i).selector.lastHeard (m.selected i),
        g.now ≤ last + Sec 2 + lag + delay := fun t ht k hk g hg =>
    hbefore.controlledRun.gridRun.heard_after hgrid hreactor hheard.heard hdelay hheard.reaches
      _ (Component.mem_trace (p := ControlledMicrogrid.gridComponent)
        (Component.mem_trace (p := controlled) ht hk) hg)
  have hkeeps := hafter.forall_mem_of_keep
    (P := fun c => (∃ tr, IsOperatedRun tr c) ∧ c.selected i = m.selected i)
    (C := fun c l => ∀ k ∈ l.controlledLabel, ∀ g ∈ k.gridLabel,
      ∃ last ∈ (c.microgrid.grid.devices i).selector.lastHeard (m.selected i),
        g.now ≤ last + Sec 2 + lag + delay) hrecent ⟨⟨before, hbefore⟩, rfl⟩ ?_
  · refine ⟨fun t ht => (hkeeps t ht).2.2, (inv_of_run hbefore hafter hlive hunique hsettled
      hattended fun t ht => Or.inl ?_).followsOperator⟩
    exact (hkeeps t ht).2.2.trans (hkeeps t ht).1.2.symm
  · rintro c l c' ⟨⟨tr, hrun⟩, hsel⟩ hheard hstep
    rw [← hsel] at hheard ⊢
    exact ⟨⟨_, hrun.append (.snoc .nil hstep)⟩, hstep.selected_eq hrun hshort hheard⟩

/-- The device keeps its controller while it is stopped and started. -/
theorem obeys_operator_in_time_of_two : ∃ (m w : OperatedMicrogrid ExactTime Unit)
      (after : Trace ExactTime Unit),
    IsRun Step m after w ∧
      (∀ t ∈ after, t.target.selected () = m.selected ()) ∧ w.levels () = .operational := by
  obtain ⟨before, m, after, w, hbefore, hafter, hsettled, hattended, -, hquiet, hheard, hreactor,
    hsel, -, -, -, hcommanded⟩ := exists_stopAndStart
  obtain ⟨hkeeps, hfollows⟩ := obeys_operator_in_time 0 0 hbefore hafter (by decide)
    (fun _ _ => rfl) hsettled hattended (hsel ▸ hreactor) (by decide) (by decide) hheard
  refine ⟨m, w, after, hafter, hkeeps, ?_⟩
  rw [hfollows.last hquiet, hcommanded]
  rfl

end Results

end OperatedMicrogrid

end TacticalMicrogrid
