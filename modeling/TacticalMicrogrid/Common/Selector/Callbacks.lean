import TacticalMicrogrid.Common.Selector.TimerStates

/-!
# The order of the callbacks of a selector

With all callbacks set, a selector calls the new-controller callback for a controller, then the
missed-heartbeat callback for it any number of times, and, after at least one of these, the
lost-controller callback for it; then a new block begins. An automaton reads the calls: its state
is the open block, with the number of missed heartbeats so far.

## Main definitions

* `ControllerSelector.block`: the calls of one selection.
* `ControllerSelector.Calls`: the automaton.
* `ControllerSelector.selectionCalls`: the calls of a run.
* `ControllerSelector.CallsTracked`: the invariant.

## Main results

* `ControllerSelector.callbacks_of_run`: the calls of a run are a prefix of whole blocks, are made
  for the selected controller, and a loss follows a missed heartbeat without a heartbeat between.
-/

namespace TacticalMicrogrid

open TransitionSystem

namespace ControllerSelector

/-! ### Blocks of calls -/

/-- The start of the calls of one selection: the selection and `k` missed heartbeats. -/
def openBlock (x : Identity) (k : ℕ) : List Effect :=
  .newController x :: List.replicate k (.missedHeartbeat x)

/-- The calls of one selection with `k + 1` missed heartbeats. -/
def block (x : Identity) (k : ℕ) : List Effect := openBlock x (k + 1) ++ [.lostController x]

/-- The automaton of the calls. Its state is the controller of the open block and the number of
missed heartbeats in it. -/
inductive Calls : List Effect → Option (Identity × ℕ) → Prop
  | nil : Calls [] none
  | new {calls} (h : Calls calls none) (x : Identity) :
      Calls (calls ++ [.newController x]) (some (x, 0))
  | missed {calls x k} (h : Calls calls (some (x, k))) :
      Calls (calls ++ [.missedHeartbeat x]) (some (x, k + 1))
  | lost {calls x k} (h : Calls calls (some (x, k + 1))) :
      Calls (calls ++ [.lostController x]) none

/-- The automaton reads whole blocks and the open one. -/
theorem Calls.exists_blocks {calls : List Effect} {phase : Option (Identity × ℕ)}
    (h : Calls calls phase) : ∃ blocks : List (Identity × ℕ),
      calls = blocks.flatMap (fun b => block b.1 b.2) ++
        (phase.map fun p => openBlock p.1 p.2).getD [] := by
  induction h with
  | nil => exact ⟨[], rfl⟩
  | new h x ih =>
    obtain ⟨blocks, rfl⟩ := ih
    exact ⟨blocks, by simp [openBlock]⟩
  | missed h ih =>
    obtain ⟨blocks, rfl⟩ := ih
    exact ⟨blocks, by simp [openBlock, List.replicate_succ']⟩
  | @lost calls x k h ih =>
    obtain ⟨blocks, rfl⟩ := ih
    exact ⟨blocks ++ [(x, k)], by simp [block]⟩

/-- Calls that the automaton reads are a prefix of whole blocks. -/
theorem Calls.prefix_blocks {calls : List Effect} {phase : Option (Identity × ℕ)}
    (h : Calls calls phase) :
    ∃ blocks : List (Identity × ℕ), calls <+: blocks.flatMap fun b => block b.1 b.2 := by
  obtain ⟨blocks, rfl⟩ := h.exists_blocks
  cases phase with
  | none => exact ⟨blocks, by simp⟩
  | some p =>
    refine ⟨blocks ++ [p], [.missedHeartbeat p.1, .lostController p.1], ?_⟩
    simp [block, openBlock, List.replicate_succ']

/-! ### The calls of a run -/

/-- The calls about one controller. -/
def isSelectionCall : Effect → Bool
  | .newController _ | .missedHeartbeat _ | .lostController _ => true
  | .noControllers | .write _ => false

section Run

variable {τ : Type}

/-- The new-controller, missed-heartbeat and lost-controller callbacks of a run. -/
def selectionCalls (tr : Trace τ) : List Effect :=
  (tr.flatMap (·.label.effects)).filter isSelectionCall

/-- The missed-heartbeat callback was called for a controller, and no heartbeat of it has been
handled since. -/
def MissedSince (x : Identity) (tr : Trace τ) : Prop :=
  Since (fun t => .missedHeartbeat x ∈ t.label.effects)
    (fun t => ∀ hb, t.label.event.input = .heartbeat hb → hb.deviceId ≠ x) tr

variable [TimePoint τ]

/-- The calls so far, by what is selected. LostController is active only after a missed heartbeat
of the open block. -/
structure CallsTracked (tr : Trace τ) (c : Config τ) : Prop where
  idle : c.selector.selected = "" → Calls (selectionCalls tr) none
  busy : c.selector.selected ≠ "" → ∃ k,
    Calls (selectionCalls tr) (some (c.selector.selected, k)) ∧
      (c.selector.lostController.active = true → k ≠ 0)
  since : c.selector.lostController.active = true → MissedSince c.selector.selected tr

section Steps

variable {tr : Trace ExactTime} {c c' : Config ExactTime} {e : Event}
  {s' : ControllerSelector ExactTime} {effects : List Effect}

omit [TimePoint τ] in
theorem selectionCalls_snoc {tr : Trace τ} {c c' : Config τ} :
    selectionCalls (tr ++ [⟨c, ⟨e, effects⟩, c'⟩]) =
      selectionCalls tr ++ effects.filter isSelectionCall := by
  simp [selectionCalls]

omit [TimePoint τ] in
theorem filter_selectEffects {s : ControllerSelector τ} (h : s.callbacks.newController = true)
    (id : Identity) : (s.selectEffects id).filter isSelectionCall = [.newController id] := by
  simp [selectEffects, callback, h, List.filter_cons, isSelectionCall]

/-- Steps without a call that leave the selection as it is. If LostController is active afterwards,
it was so before, and the step was not a heartbeat of the selected controller. -/
theorem CallsTracked.of_quiet (h : CallsTracked tr c)
    (hcalls : effects.filter isSelectionCall = []) (hsel : s'.selected = c.selector.selected)
    (hlost : s'.lostController.active = true → c.selector.lostController.active = true ∧
      ∀ hb, e.input = .heartbeat hb → hb.deviceId ≠ c.selector.selected) :
    CallsTracked (tr ++ [⟨c, ⟨e, effects⟩, ⟨s', e.now⟩⟩]) ⟨s', e.now⟩ := by
  constructor
  · intro hempty
    rw [selectionCalls_snoc, hcalls, List.append_nil]
    exact h.idle (hsel ▸ hempty)
  · intro hne
    obtain ⟨k, hk, hpos⟩ := h.busy (hsel ▸ hne)
    refine ⟨k, ?_, fun hactive => hpos (hlost hactive).1⟩
    rw [selectionCalls_snoc, hcalls, List.append_nil, hsel]
    exact hk
  · intro hactive
    obtain ⟨hbefore, hother⟩ := hlost hactive
    change MissedSince s'.selected _
    rw [hsel]
    exact since_snoc.mpr (Or.inr ⟨h.since hbefore, hother⟩)

/-- The calls after a step that makes a selection. -/
theorem CallsTracked.of_select (calls : List Effect)
    (hcalls : Calls (selectionCalls tr ++ effects) none)
    (hset : c.selector.callbacks.newController = true) {id : Identity} (hid : id ≠ "")
    (hsel : s'.selected = id) (hlost : s'.lostController.active = false)
    (heffects : calls.filter isSelectionCall = effects) :
    CallsTracked (tr ++ [⟨c, ⟨e, calls ++ c.selector.selectEffects id⟩, ⟨s', e.now⟩⟩])
      ⟨s', e.now⟩ where
  idle hempty := absurd (hsel.symm.trans hempty) hid
  busy _ := by
    refine ⟨0, ?_, fun hactive => absurd (hlost.symm.trans hactive) Bool.false_ne_true⟩
    rw [selectionCalls_snoc, List.filter_append, heffects, filter_selectEffects hset,
      ← List.append_assoc, hsel]
    exact hcalls.new id
  since hactive := absurd (hlost.symm.trans hactive) Bool.false_ne_true

/-- The calls after a missed heartbeat. -/
theorem CallsTracked.of_missed (h : CallsTracked tr c) (hne : c.selector.selected ≠ "")
    (hset : c.selector.callbacks.missedHeartbeat = true)
    (hsel : s'.selected = c.selector.selected) :
    CallsTracked (tr ++ [⟨c, ⟨e, callback c.selector.callbacks.missedHeartbeat
      (.missedHeartbeat c.selector.selected)⟩, ⟨s', e.now⟩⟩]) ⟨s', e.now⟩ where
  idle hempty := absurd (hsel.symm.trans hempty) hne
  busy _ := by
    obtain ⟨k, hk, -⟩ := h.busy hne
    refine ⟨k + 1, ?_, fun _ => k.succ_ne_zero⟩
    rw [selectionCalls_snoc, hset, hsel]
    exact hk.missed
  since _ := by
    change MissedSince s'.selected _
    rw [hsel]
    exact since_snoc.mpr (Or.inl (by simp [callback, hset]))

/-- The calls after LostController has fired and before another selection. -/
theorem CallsTracked.lost (h : CallsTracked tr c) (hne : c.selector.selected ≠ "")
    (hactive : c.selector.lostController.active = true) :
    Calls (selectionCalls tr ++ [.lostController c.selector.selected]) none := by
  obtain ⟨k, hk, hpos⟩ := h.busy hne
  obtain ⟨k, rfl⟩ := Nat.exists_eq_succ_of_ne_zero (hpos hactive)
  exact hk.lost

/-- Every handler keeps the invariant if all callbacks are set. -/
theorem CallsTracked.of_outcome (h : CallsTracked tr c) (hrun : IsSelectorRun tr c)
    (hset : c.selector.callbacks = ⟨true, true, true, true⟩) (henabled : Enabled c e)
    (hout : Outcome c.selector e.now e.input s' effects) :
    CallsTracked (tr ++ [⟨c, ⟨e, effects⟩, ⟨s', e.now⟩⟩]) ⟨s', e.now⟩ := by
  have hc := hrun.timersConsistent
  have hwf := hrun.wellFormed
  obtain ⟨now, i⟩ := e
  obtain ⟨-, hadm⟩ := henabled
  cases hout with
  | deviceInfoIgnored | deviceInfoNew =>
    exact h.of_quiet rfl rfl fun hactive => ⟨hactive, fun hb hinput => by cases hinput⟩
  | heartbeatUnknown hb hunknown =>
    refine h.of_quiet rfl rfl fun hactive => ⟨hactive, fun hb' hinput heq => hunknown ?_⟩
    obtain rfl := Input.heartbeat.inj hinput
    exact heq ▸ hrun.selected_mem (hc.selected_of_lostController hactive)
  | heartbeatWaiting hb hknown hsel | heartbeatFirst hb hknown hsel =>
    exact h.of_quiet rfl rfl fun hactive => absurd hsel (hc.selected_of_lostController hactive)
  | heartbeatOther hb hknown hsel hother =>
    refine h.of_quiet rfl rfl fun hactive => ⟨hactive, fun hb' hinput => ?_⟩
    obtain rfl := Input.heartbeat.inj hinput
    exact hother.symm
  | heartbeatSelected | heartbeatResumed =>
    exact h.of_quiet rfl rfl fun hactive => absurd hactive Bool.false_ne_true
  | newControllerNone =>
    exact h.of_quiet rfl rfl fun hactive => ⟨hactive, fun hb hinput => by cases hinput⟩
  | noControllers =>
    refine h.of_quiet (by simp [hset, callback, isSelectionCall]) rfl fun hactive => ⟨hactive, ?_⟩
    intro hb hinput
    cases hinput
  | newControllerSelect pc hpc =>
    have hsel := hc.selected_of_newController (active_of_expiry hadm)
    have hcalls := h.idle hsel
    rw [← List.append_nil (selectionCalls tr)] at hcalls
    exact .of_select [] hcalls (by rw [hset]) (hwf.id_ne_of_first? hpc) rfl (hc.idle hsel).2 rfl
  | missedHeartbeatAvailable | missedHeartbeatNone =>
    exact h.of_missed (hc.selected_of_missedHeartbeat (active_of_expiry hadm)) (by rw [hset]) rfl
  | lostControllerNone =>
    have hactive := active_of_expiry hadm
    have hcalls := h.lost (hc.selected_of_lostController hactive) hactive
    refine ⟨fun _ => ?_, fun hne => absurd rfl hne, fun h' => absurd h' Bool.false_ne_true⟩
    rw [selectionCalls_snoc, hset]
    exact hcalls
  | lostControllerSelect pc hpc =>
    have hactive := active_of_expiry hadm
    have hcalls := h.lost (hc.selected_of_lostController hactive) hactive
    refine .of_select _ hcalls (by rw [hset]) (hwf.id_ne_of_first? hpc) ?_ rfl (by rw [hset]; rfl)
    rfl

end Steps

end Run

/-! ### Runs -/

/-- A step does not change which callbacks are set. -/
theorem Outcome.callbacks_eq {s s' : ControllerSelector ExactTime} {now : ℤ} {i : Input}
    {effects : List Effect} (h : Outcome s now i s' effects) : s'.callbacks = s.callbacks := by
  cases h <;> rfl

theorem mem_callback {isSet : Bool} {call e : Effect} (h : e ∈ callback isSet call) : e = call := by
  cases isSet
  · cases h
  · exact List.mem_singleton.mp h

/-- `select` calls no callback for a missed heartbeat or a lost controller. -/
theorem notMem_selectEffects {s : ControllerSelector ExactTime} {id x : Identity} :
    .missedHeartbeat x ∉ s.selectEffects id ∧ .lostController x ∉ s.selectEffects id := by
  constructor <;> intro h <;> rcases List.mem_append.mp h with h | h
  · cases mem_callback h
  · cases List.mem_singleton.mp h
  · cases mem_callback h
  · cases List.mem_singleton.mp h

/-- The missed-heartbeat and lost-controller callbacks are called by the handlers of their timers,
for the selected controller. -/
theorem Outcome.of_call {s s' : ControllerSelector ExactTime} {now : ℤ} {i : Input}
    {effects : List Effect} (h : Outcome s now i s' effects) (x : Identity) :
    (.missedHeartbeat x ∈ effects → x = s.selected ∧ i = .timeout .missedHeartbeat) ∧
      (.lostController x ∈ effects → x = s.selected ∧ i = .timeout .lostController) := by
  cases h with
  | newControllerSelect =>
    exact ⟨fun h => absurd h notMem_selectEffects.1, fun h => absurd h notMem_selectEffects.2⟩
  | missedHeartbeatAvailable | missedHeartbeatNone =>
    exact ⟨fun h => ⟨Effect.missedHeartbeat.inj (mem_callback h), rfl⟩,
      fun h => (by cases mem_callback h)⟩
  | lostControllerNone =>
    exact ⟨fun h => (by cases mem_callback h),
      fun h => ⟨Effect.lostController.inj (mem_callback h), rfl⟩⟩
  | lostControllerSelect =>
    constructor <;> intro h <;> rcases List.mem_append.mp h with h | h
    · cases mem_callback h
    · exact absurd h notMem_selectEffects.1
    · exact ⟨Effect.lostController.inj (mem_callback h), rfl⟩
    · exact absurd h notMem_selectEffects.2
  | noControllers => exact ⟨fun h => (by cases mem_callback h), fun h => (by cases mem_callback h)⟩
  | _ => exact ⟨fun h => absurd h List.not_mem_nil, fun h => absurd h List.not_mem_nil⟩

section Runs

variable {tr : Trace ExactTime} {c : Config ExactTime}

/-- Which callbacks are set is the same all along a run. -/
theorem IsSelectorRun.callbacks_eq (h : IsSelectorRun tr c) :
    ∀ t ∈ tr, t.source.selector.callbacks = c.selector.callbacks := by
  refine h.traceInvariant (P := fun tr c => ∀ t ∈ tr, t.source.selector.callbacks =
    c.selector.callbacks) (fun _ _ _ t ht => absurd ht List.not_mem_nil) ?_
  intro tr c e s' effects hrun hsame henabled hout t ht
  rcases List.mem_append.mp ht with ht | ht
  · exact (hsame t ht).trans hout.callbacks_eq.symm
  · obtain rfl := List.mem_singleton.mp ht
    exact hout.callbacks_eq.symm

theorem IsSelectorRun.callsTracked (h : IsSelectorRun tr c)
    (hset : c.selector.callbacks = ⟨true, true, true, true⟩) : CallsTracked tr c := by
  revert hset
  refine h.traceInvariant (P := fun tr c => c.selector.callbacks = ⟨true, true, true, true⟩ →
    CallsTracked tr c) ?_ ?_
  · intro deviceId callbacks clock hset
    exact ⟨fun _ => .nil, fun hne => absurd rfl hne, fun h => absurd h Bool.false_ne_true⟩
  · intro tr c e s' effects hrun htracked henabled hout hset
    rw [hout.callbacks_eq] at hset
    exact (htracked hset).of_outcome hrun hset henabled hout

/-- **The order of the callbacks.** With all callbacks set, the new-controller, missed-heartbeat
and lost-controller callbacks of a run are a prefix of blocks that select a controller, miss its
heartbeat at least once and lose it; the missed and the lost controller is the selected one; and
between the last missed heartbeat of a lost controller and the loss no heartbeat of it is
handled. -/
theorem callbacks_of_run (h : IsSelectorRun tr c)
    (hset : c.selector.callbacks = ⟨true, true, true, true⟩) :
    (∃ blocks : List (Identity × ℕ),
        selectionCalls tr <+: blocks.flatMap fun b => block b.1 b.2) ∧
      (∀ t ∈ tr, ∀ x,
        .missedHeartbeat x ∈ t.label.effects ∨ .lostController x ∈ t.label.effects →
          x = t.source.selector.selected) ∧
      ∀ pre t, pre ++ [t] <+: tr → ∀ x, .lostController x ∈ t.label.effects →
        MissedSince x pre := by
  have htracked := h.callsTracked hset
  refine ⟨?_, fun t ht x hcall => ?_, fun pre t hpre x hcall => ?_⟩
  · by_cases hsel : c.selector.selected = ""
    · exact (htracked.idle hsel).prefix_blocks
    · obtain ⟨k, hk, -⟩ := htracked.busy hsel
      exact hk.prefix_blocks
  · obtain ⟨pre, hpre⟩ := exists_prefix_snoc_of_mem ht
    obtain ⟨-, -, hout⟩ := h.of_prefix hpre
    exact hcall.elim (fun h => ((hout.of_call x).1 h).1) fun h => ((hout.of_call x).2 h).1
  · obtain ⟨hrun, henabled, hout⟩ := h.of_prefix hpre
    obtain ⟨rfl, hinput⟩ := (hout.of_call x).2 hcall
    have hadm := henabled.2
    rw [hinput] at hadm
    have ht := hpre.subset (List.mem_append_right pre List.mem_cons_self)
    exact (hrun.callsTracked ((h.callbacks_eq t ht).trans hset)).since (active_of_expiry hadm)

end Runs

/-- A selector that misses a heartbeat of its controller, hears from it again, misses another one,
and loses it. -/
theorem callbacks_of_loss : ∃ (tr : Trace ExactTime) (c : Config ExactTime),
    IsSelectorRun tr c ∧ selectionCalls tr = block "mc1" 1 ∧
      (∃ blocks : List (Identity × ℕ),
        selectionCalls tr <+: blocks.flatMap fun b => block b.1 b.2) ∧
      ∀ pre t, pre ++ [t] <+: tr → ∀ x, .lostController x ∈ t.label.effects →
        MissedSince x pre :=
  have hrun := isSelectorRun_of_follow "dev" ⟨true, true, true, true⟩ 0
    [⟨0, .deviceInfo ⟨"mc1", .microgridController, none⟩⟩, ⟨Sec 1, .heartbeat ⟨"mc1", 0⟩⟩,
      ⟨Sec 3, .heartbeat ⟨"mc1", 1⟩⟩, ⟨Sec 4, .timeout .newController⟩,
      ⟨Sec 6, .timeout .missedHeartbeat⟩, ⟨Sec 7, .heartbeat ⟨"mc1", 2⟩⟩,
      ⟨Sec 10, .timeout .missedHeartbeat⟩, ⟨Sec 16, .timeout .lostController⟩] rfl
  have hcalls := callbacks_of_run hrun rfl
  ⟨_, _, hrun, rfl, hcalls.1, hcalls.2.2⟩

end ControllerSelector

end TacticalMicrogrid
