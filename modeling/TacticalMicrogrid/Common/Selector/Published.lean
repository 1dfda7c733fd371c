import TacticalMicrogrid.Common.Selector.Outcome

/-!
# What a device publishes about its controller

`select` publishes the controller it selects. The handler of LostController clears the selection
and publishes nothing itself, so the last published state goes on naming the lost controller
unless another one is selected in its place.

## Main definitions

* `ControllerSelector.lastPublished`, `ControllerSelector.selectedMaster`.
* `ControllerSelector.Replaced`: the condition on a step.

## Main results

* `ControllerSelector.published_agrees_iff`: the last published state agrees with the selection all
  along a run exactly when every lost controller is replaced.
* `ControllerSelector.published_stale_after_loss`: a run after which it does not.
-/

namespace TacticalMicrogrid

open TransitionSystem

namespace ControllerSelector

variable {τ : Type} [TimePoint τ]

/-! ### Published states -/

/-- The `masterId` that a write publishes. -/
def publishedMaster : Effect → Option (Option Identity)
  | .write amcs => some amcs.masterId
  | .newController _ | .missedHeartbeat _ | .lostController _ | .noControllers => none

/-- The `masterId` of the last published state; before the first one there is none. -/
def lastPublished (tr : Trace τ) : Option Identity :=
  ((tr.flatMap (·.label.effects)).filterMap publishedMaster).getLast?.join

/-- The `masterId` of a state that agrees with the selection. -/
def selectedMaster (s : ControllerSelector τ) : Option Identity :=
  if s.selected = "" then none else some s.selected

/-- If the input is the timeout of LostController and a controller is selected, a known controller
is recent, so that the lost controller is replaced. -/
def Replaced (s : ControllerSelector τ) (now : ℤ) : Input → Prop
  | .timeout .lostController => s.selected ≠ "" → s.SomeRecent now
  | _ => True

instance (s : ControllerSelector τ) (now : ℤ) : (i : Input) → Decidable (s.Replaced now i)
  | .timeout .lostController => inferInstanceAs (Decidable (s.selected ≠ "" → s.SomeRecent now))
  | .timeout .newController | .timeout .missedHeartbeat | .timeout .noControllers | .deviceInfo _ |
    .heartbeat _ => isTrue trivial

/-! ### Steps -/

section Steps

variable {tr : Trace τ} {c c' : Config τ} {e : Event} {effects : List Effect}

omit [TimePoint τ] in
/-- A step without a write does not change the last published state. -/
theorem lastPublished_snoc_of_silent (h : effects.filterMap publishedMaster = []) :
    lastPublished (tr ++ [⟨c, ⟨e, effects⟩, c'⟩]) = lastPublished tr := by
  simp [lastPublished, h]

omit [TimePoint τ] in
/-- A callback writes nothing. -/
theorem filterMap_callback (isSet : Bool) (call : Effect) (h : publishedMaster call = none) :
    (callback isSet call).filterMap publishedMaster = [] := by
  cases isSet <;> simp [callback, h]

omit [TimePoint τ] in
/-- A selection publishes the selected controller. -/
theorem lastPublished_snoc_select (s : ControllerSelector τ) {id : Identity} (hid : id ≠ "")
    (h : effects.filterMap publishedMaster = []) :
    lastPublished (tr ++ [⟨c, ⟨e, effects ++ s.selectEffects id⟩, c'⟩]) = some id := by
  have hcallback := filterMap_callback s.callbacks.newController (.newController id) rfl
  simp [lastPublished, selectEffects, h, hcallback, publishedMaster, hid]

end Steps

/-! ### Runs -/

/-- **The published controller.** After every step of a run the last published state agrees with
the selection if and only if, whenever LostController fires with a controller selected, some known
controller is recent. -/
theorem published_agrees_iff {tr : Trace τ} {c : Config τ} (h : IsSelectorRun tr c) :
    (∀ pre r, pre <+: tr → IsSelectorRun pre r → lastPublished pre = r.selector.selectedMaster) ↔
      ∀ t ∈ tr, t.source.selector.Replaced t.label.event.now t.label.event.input := by
  rw [← forall_prefix_snoc_iff]
  refine h.forall_prefix_iff (P := fun tr c => lastPublished tr = c.selector.selectedMaster)
    (C := fun _ c e => c.selector.Replaced e.now e.input) (fun _ _ _ => rfl) ?_
  rintro tr c ⟨now, i⟩ s' effects hrun hP ⟨-, hadm⟩ hout
  have hkept : effects.filterMap publishedMaster = [] → s'.selected = c.selector.selected →
      lastPublished (tr ++ [⟨c, ⟨⟨now, i⟩, effects⟩, ⟨s', now⟩⟩]) = s'.selectedMaster :=
    fun hsilent hsel => by
      rw [lastPublished_snoc_of_silent hsilent, hP, selectedMaster, selectedMaster, hsel]
  cases hout with
  | deviceInfoIgnored | deviceInfoNew | heartbeatUnknown | heartbeatWaiting | heartbeatFirst |
    heartbeatOther | heartbeatSelected | heartbeatResumed | newControllerNone =>
    exact iff_of_true (hkept rfl rfl) trivial
  | missedHeartbeatAvailable | missedHeartbeatNone | noControllers =>
    exact iff_of_true (hkept (filterMap_callback _ _ rfl) rfl) trivial
  | newControllerSelect pc hpc =>
    have hid := hrun.wellFormed.id_ne_of_first? hpc
    refine iff_of_true ?_ trivial
    rw [← List.nil_append (selectEffects _ _), lastPublished_snoc_select _ hid rfl]
    exact (if_neg hid).symm
  | lostControllerSelect pc hpc =>
    have hid := hrun.wellFormed.id_ne_of_first? hpc
    refine iff_of_true ?_ fun _ => someRecent_of_first? hpc
    rw [lastPublished_snoc_select _ hid (filterMap_callback _ _ rfl)]
    exact (if_neg hid).symm
  | lostControllerNone hnone =>
    change lastPublished _ = none ↔ (c.selector.selected ≠ "" → c.selector.SomeRecent now)
    rw [lastPublished_snoc_of_silent (filterMap_callback _ _ rfl), hP, selectedMaster]
    have hnone := not_someRecent_iff.mpr hnone
    by_cases hsel : c.selector.selected = ""
    · exact iff_of_true (if_pos hsel) fun hne => absurd hsel hne
    · rw [if_neg hsel]
      exact iff_of_false (Option.some_ne_none _) fun hreplaced => hnone (hreplaced hsel)

/-- A selector that replaces the controller it has lost by another one that it hears from. -/
theorem published_agrees_with_replacement : ∃ (tr : Trace ExactTime) (c : Config ExactTime),
    IsSelectorRun tr c ∧ c.selector.selected = "mc2" ∧
      (∃ t ∈ tr, t.label.event.input = .timeout .lostController) ∧
      ∀ pre r, pre <+: tr → IsSelectorRun pre r →
        lastPublished pre = r.selector.selectedMaster :=
  have hrun := isSelectorRun_of_follow "dev" {} 0
    [⟨0, .deviceInfo ⟨"mc1", .microgridController, none⟩⟩,
      ⟨0, .deviceInfo ⟨"mc2", .microgridController, none⟩⟩, ⟨Sec 1, .heartbeat ⟨"mc1", 0⟩⟩,
      ⟨Sec 3, .heartbeat ⟨"mc1", 1⟩⟩, ⟨Sec 4, .timeout .newController⟩,
      ⟨Sec 6, .timeout .missedHeartbeat⟩, ⟨Sec 11, .heartbeat ⟨"mc2", 0⟩⟩,
      ⟨Sec 12, .timeout .lostController⟩] rfl
  ⟨_, _, hrun, by decide, by decide, (published_agrees_iff hrun).mpr (by decide)⟩

/-- A selector that has lost the only controller it knows has none selected, and the state it
published last names the lost one. -/
theorem published_stale_after_loss : ∃ (tr : Trace ExactTime) (c : Config ExactTime),
    IsSelectorRun tr c ∧ c.selector.selectedMaster = none ∧ lastPublished tr = some "mc1" :=
  have hrun := isSelectorRun_of_follow "dev" {} 0
    [⟨0, .deviceInfo ⟨"mc1", .microgridController, none⟩⟩, ⟨Sec 1, .heartbeat ⟨"mc1", 0⟩⟩,
      ⟨Sec 3, .heartbeat ⟨"mc1", 1⟩⟩, ⟨Sec 4, .timeout .newController⟩,
      ⟨Sec 6, .timeout .missedHeartbeat⟩, ⟨Sec 12, .timeout .lostController⟩] rfl
  ⟨_, _, hrun, by decide, by decide⟩

end ControllerSelector

end TacticalMicrogrid
