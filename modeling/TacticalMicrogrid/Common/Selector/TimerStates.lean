import TacticalMicrogrid.Common.Selector.Outcome

/-!
# Which timers of a selector are active

While no controller is selected, only NewController and NoControllers can be active; while one is
selected, exactly one of MissedHeartbeat and LostController is. The invariant that carries this
also says when NoControllers can be active: not together with NewController or MissedHeartbeat,
and together with LostController only if no controller was heard from since LostController was
scheduled. So no handler schedules an active timer, and no handler throws.

## Main definitions

* `ControllerSelector.lastHeard`.
* `ControllerSelector.TimersConsistent`: the invariant.
* `ControllerSelector.Reselects`: the inputs that change the selection.

## Main results

* `ControllerSelector.IsSelectorRun.timersConsistent`: every run keeps the invariant.
* `ControllerSelector.IsSelectorRun.selected_ne_iff`: the selection changes at these inputs only.
* `ControllerSelector.timer_states_of_run`: which timers are active after every run, and that no
  handler throws.
-/

namespace TacticalMicrogrid

open TransitionSystem

namespace ControllerSelector

/-! ### Last heartbeats -/

/-- The reading at which a controller was last heard from, if it is known and ever was. -/
def lastHeard (s : ControllerSelector ExactTime) (id : Identity) : Option ℤ :=
  (s.allControllers.find? id).join

section LastHeard

variable {s : ControllerSelector ExactTime} {now : ℤ} {id : Identity}

theorem lastHeard_eq_some_iff {t : ℤ} :
    s.lastHeard id = some t ↔ s.allControllers.find? id = some (some t) := by
  rw [lastHeard, Option.join_eq_some_iff]

/-- A heartbeat sets the time of its own controller only. -/
theorem lastHeard_heard (s : ControllerSelector ExactTime) (now : ℤ) (id id' : Identity) :
    (s.heard now id).lastHeard id' = if id' = id then some now else s.lastHeard id' := by
  rw [lastHeard, heard, Table.find?_set]
  split_ifs <;> rfl

/-- A new controller has not been heard from. -/
theorem join_find?_set_none {table : Table Identity ExactTime} {k : Identity} (hk : k ∉ table)
    (id : Identity) : ((table.set k none).find? id).join = (table.find? id).join := by
  rw [Table.find?_set]
  split_ifs with hid
  · rw [hid, Table.find?_eq_none.mpr hk]
    rfl
  · rfl

/-- No controller is recent when every one was last heard from at least the deadline ago. -/
theorem forall_isRecent_eq_false_iff :
    (∀ id t, s.allControllers.find? id = some t → isRecent now t = false) ↔
      ∀ id, ∀ t ∈ s.lastHeard id, heartbeatDeadline ≤ now - t := by
  constructor
  · intro h id t ht
    simpa [isRecent] using h id (some t) (lastHeard_eq_some_iff.mp ht)
  · intro h id t ht
    cases t with
    | none => rfl
    | some t => simpa [isRecent] using h id t (lastHeard_eq_some_iff.mpr ht)

/-- A recent controller has been heard from, and its age is exact. -/
theorem exists_lastHeard_of_available {pc : PrioritizedController}
    (h : s.available now pc = true) : ∃ t ∈ s.lastHeard pc.id,
      s.ageOf now pc.id = now - t ∧ now - t < heartbeatDeadline := by
  obtain ⟨t, ht, hage, hlt⟩ := available_iff.mp h
  cases t with
  | none => simp at hage
  | some t =>
    have hageOf : now - t = s.ageOf now pc.id := Option.some.inj hage
    exact ⟨t, lastHeard_eq_some_iff.mpr ht, hageOf.symm, hageOf ▸ hlt⟩

end LastHeard

/-! ### The invariant -/

/-- A timeout is that of an active timer. -/
theorem active_of_expiry {Arg : Type} {timer : Timer Arg} {now : ℤ}
    (h : ∃ d ∈ timer.expiry, d ≤ now) : timer.active = true :=
  let ⟨d, hd, _⟩ := h
  Timer.active_iff.mpr ⟨d, hd⟩

/-- Which timers can be active together, and what an active NoControllers says about the last
heartbeats. -/
structure TimersConsistent (c : Config ExactTime) : Prop where
  idle : c.selector.selected = "" →
    c.selector.missedHeartbeat.active = false ∧ c.selector.lostController.active = false
  busy : c.selector.selected ≠ "" → c.selector.newController.active = false ∧
    c.selector.missedHeartbeat.active = !c.selector.lostController.active
  alone : c.selector.noControllers.active = true →
    c.selector.newController.active = false ∧ c.selector.missedHeartbeat.active = false
  heard_le : ∀ id, ∀ t ∈ c.selector.lastHeard id, t ≤ c.clock
  silent : c.selector.noControllers.active = true → ∀ d ∈ c.selector.lostController.expiry,
    ∀ id, ∀ t ∈ c.selector.lastHeard id, t + lostActiveControllerDelay ≤ d

namespace TimersConsistent

variable {c : Config ExactTime} {s' : ControllerSelector ExactTime} {now : ℤ} {i : Input}
  {effects : List Effect}

theorem init (deviceId : Identity) (callbacks : ControllerCallbacks) (clock : ℤ) :
    TimersConsistent (Config.init deviceId callbacks clock) where
  idle _ := ⟨rfl, rfl⟩
  busy h := absurd rfl h
  alone h := absurd h Bool.false_ne_true
  heard_le id t h := by simp [Config.init, lastHeard] at h
  silent h := absurd h Bool.false_ne_true

theorem selected_of_newController (h : TimersConsistent c)
    (hactive : c.selector.newController.active = true) : c.selector.selected = "" := by
  by_contra hsel
  rw [(h.busy hsel).1] at hactive
  exact Bool.false_ne_true hactive

theorem selected_of_missedHeartbeat (h : TimersConsistent c)
    (hactive : c.selector.missedHeartbeat.active = true) : c.selector.selected ≠ "" := fun hsel =>
  Bool.false_ne_true ((h.idle hsel).1.symm.trans hactive)

theorem selected_of_lostController (h : TimersConsistent c)
    (hactive : c.selector.lostController.active = true) : c.selector.selected ≠ "" := fun hsel =>
  Bool.false_ne_true ((h.idle hsel).2.symm.trans hactive)

theorem missedHeartbeat_of_lostController (h : TimersConsistent c)
    (hactive : c.selector.lostController.active = true) :
    c.selector.missedHeartbeat.active = false := by
  rw [(h.busy (h.selected_of_lostController hactive)).2, hactive]
  rfl

theorem lostController_of_missedHeartbeat (h : TimersConsistent c)
    (hactive : c.selector.missedHeartbeat.active = true) :
    c.selector.lostController.active = false := by
  have hone := (h.busy (h.selected_of_missedHeartbeat hactive)).2
  simpa [hactive] using hone

theorem noControllers_of_newController (h : TimersConsistent c)
    (hactive : c.selector.newController.active = true) :
    c.selector.noControllers.active = false := by
  by_contra hno
  rw [(h.alone (Bool.not_eq_false _ ▸ hno)).1] at hactive
  exact Bool.false_ne_true hactive

theorem noControllers_of_missedHeartbeat (h : TimersConsistent c)
    (hactive : c.selector.missedHeartbeat.active = true) :
    c.selector.noControllers.active = false := by
  by_contra hno
  rw [(h.alone (Bool.not_eq_false _ ▸ hno)).2] at hactive
  exact Bool.false_ne_true hactive

/-- While NoControllers and LostController are active, no controller is recent when LostController
fires: it was scheduled six seconds ago, after the last heartbeat, and a heartbeat is recent for
three. -/
theorem noControllers_of_recent (h : TimersConsistent c) {d : ℤ}
    (hd : d ∈ c.selector.lostController.expiry) (hnow : d ≤ now) {pc : PrioritizedController}
    (hpc : c.selector.available now pc = true) : c.selector.noControllers.active = false := by
  by_contra hno
  obtain ⟨t, ht, -, hlt⟩ := exists_lastHeard_of_available hpc
  have hsilent := h.silent (Bool.not_eq_false _ ▸ hno) d hd pc.id t ht
  simp only [lostActiveControllerDelay, heartbeatDeadline, Sec] at hsilent hlt
  omega

/-- A heartbeat of a known controller keeps the invariant: it cancels NoControllers. -/
private theorem heard (h : TimersConsistent c) (hclock : c.clock ≤ now) (id : Identity) :
    TimersConsistent ⟨c.selector.heard now id, now⟩ where
  idle := h.idle
  busy := h.busy
  alone hactive := by simp [ControllerSelector.heard] at hactive
  heard_le id' t ht := by
    rw [lastHeard_heard] at ht
    split_ifs at ht with hid
    · exact (Option.some.inj ht).ge
    · exact (h.heard_le id' t ht).trans hclock
  silent hactive := by simp [ControllerSelector.heard] at hactive

/-- Every handler keeps the invariant. -/
theorem of_outcome (h : TimersConsistent c) (hwf : c.selector.WellFormed)
    (hclock : c.clock ≤ now) (hadm : c.selector.Admissible now i)
    (hout : Outcome c.selector now i s' effects) : TimersConsistent ⟨s', now⟩ := by
  have hle : ∀ id, ∀ t ∈ c.selector.lastHeard id, t ≤ now :=
    fun id t ht => (h.heard_le id t ht).trans hclock
  cases hout with
  | deviceInfoIgnored | heartbeatUnknown => exact { h with heard_le := hle }
  | deviceInfoNew di hrole hnew =>
    have hold := join_find?_set_none hnew
    exact { h with
      heard_le := fun id t ht => hle id t ((hold id).symm.trans ht)
      silent := fun hactive d hd id t ht => h.silent hactive d hd id t ((hold id).symm.trans ht) }
  | heartbeatWaiting hb | heartbeatOther hb => exact h.heard hclock hb.deviceId
  | heartbeatFirst hb hknown hsel =>
    exact { h.heard hclock hb.deviceId with
      busy := fun hne => absurd hsel hne
      alone := fun hactive => by simp [ControllerSelector.heard] at hactive }
  | heartbeatSelected hb hknown hsel | heartbeatResumed hb hknown hsel =>
    exact { h.heard hclock hb.deviceId with
      idle := fun hempty => absurd hempty hsel
      busy := fun _ => ⟨(h.busy hsel).1, rfl⟩
      alone := fun hactive => by simp [ControllerSelector.heard] at hactive
      silent := fun hactive => by simp [ControllerSelector.heard] at hactive }
  | newControllerNone =>
    have hsel := h.selected_of_newController (active_of_expiry hadm)
    exact { h with
      busy := fun hne => absurd hsel hne
      alone := fun hactive => ⟨rfl, (h.alone hactive).2⟩
      heard_le := hle }
  | newControllerSelect pc hpc =>
    have hactive := active_of_expiry hadm
    have hlost := (h.idle (h.selected_of_newController hactive)).2
    have hno := h.noControllers_of_newController hactive
    exact {
      idle := fun hempty => absurd hempty (hwf.id_ne_of_first? hpc)
      busy := fun _ => ⟨rfl, by simp [selecting, hlost]⟩
      alone := fun hactive => absurd hactive (by simp [selecting, hno])
      heard_le := hle
      silent := fun hactive => absurd hactive (by simp [selecting, hno]) }
  | missedHeartbeatAvailable =>
    have hactive := active_of_expiry hadm
    have hsel := h.selected_of_missedHeartbeat hactive
    have hno := h.noControllers_of_missedHeartbeat hactive
    exact {
      idle := fun hempty => absurd hempty hsel
      busy := fun _ => ⟨(h.busy hsel).1, rfl⟩
      alone := fun hactive => absurd hactive (by simp [hno])
      heard_le := hle
      silent := fun hactive => absurd hactive (by simp [hno]) }
  | missedHeartbeatNone =>
    have hsel := h.selected_of_missedHeartbeat (active_of_expiry hadm)
    exact {
      idle := fun hempty => absurd hempty hsel
      busy := fun _ => ⟨(h.busy hsel).1, rfl⟩
      alone := fun _ => ⟨(h.busy hsel).1, rfl⟩
      heard_le := hle
      silent := fun _ d hd id t ht => by
        obtain rfl := Option.some.inj hd
        exact Int.add_le_add_right (hle id t ht) _ }
  | lostControllerNone =>
    have hactive := active_of_expiry hadm
    have hnew := (h.busy (h.selected_of_lostController hactive)).1
    have hmissed := h.missedHeartbeat_of_lostController hactive
    exact {
      idle := fun _ => ⟨hmissed, rfl⟩
      busy := fun hne => absurd rfl hne
      alone := fun _ => ⟨hnew, hmissed⟩
      heard_le := hle
      silent := fun _ d hd => by simp at hd }
  | lostControllerSelect pc hpc =>
    obtain ⟨d, hd, hnow⟩ := hadm
    have hactive : c.selector.lostController.active = true := Timer.active_iff.mpr ⟨d, hd⟩
    have hno := h.noControllers_of_recent hd hnow (available_of_first? hpc)
    exact {
      idle := fun hempty => absurd hempty (hwf.id_ne_of_first? hpc)
      busy := fun _ => ⟨(h.busy (h.selected_of_lostController hactive)).1, rfl⟩
      alone := fun hactive => absurd hactive (by simp [selecting, hno])
      heard_le := hle
      silent := fun hactive => absurd hactive (by simp [selecting, hno]) }
  | noControllers =>
    exact { h with
      alone := fun hactive => by simp at hactive
      heard_le := hle
      silent := fun hactive => by simp at hactive }

/-- No handler schedules an active timer. -/
theorem not_blocked (h : TimersConsistent c) (hadm : c.selector.Admissible now i) :
    ¬c.selector.Blocked now i := by
  intro hblocked
  cases i with
  | deviceInfo | heartbeat => exact hblocked
  | timeout k =>
    cases k with
    | newController =>
      have hsel := h.selected_of_newController (active_of_expiry hadm)
      exact Bool.false_ne_true ((h.idle hsel).1.symm.trans hblocked)
    | missedHeartbeat =>
      have hactive := active_of_expiry hadm
      rcases hblocked with hlost | ⟨hno, -⟩
      · exact Bool.false_ne_true ((h.lostController_of_missedHeartbeat hactive).symm.trans hlost)
      · exact Bool.false_ne_true ((h.noControllers_of_missedHeartbeat hactive).symm.trans hno)
    | lostController =>
      have hmissed := h.missedHeartbeat_of_lostController (active_of_expiry hadm)
      exact Bool.false_ne_true (hmissed.symm.trans hblocked)
    | noControllers => exact hblocked

end TimersConsistent

/-- Every run keeps the timers consistent. -/
theorem IsSelectorRun.timersConsistent {tr : Trace ExactTime} {c : Config ExactTime}
    (h : IsSelectorRun tr c) : TimersConsistent c := by
  refine h.traceInvariant (P := fun _ c => TimersConsistent c) .init ?_
  intro tr c e s' effects hrun hc henabled hout
  exact hc.of_outcome hrun.wellFormed henabled.1 henabled.2 hout

/-! ### When the selection changes -/

/-- The input changes the selection: LostController has fired, or NewController has and some
controller is recent. -/
def Reselects {τ : Type} [TimePoint τ] (s : ControllerSelector τ) (now : ℤ) : Input → Prop
  | .timeout .lostController => True
  | .timeout .newController => s.SomeRecent now
  | _ => False

instance {τ : Type} [TimePoint τ] (s : ControllerSelector τ) (now : ℤ) :
    (i : Input) → Decidable (s.Reselects now i)
  | .timeout .lostController => isTrue trivial
  | .timeout .newController => inferInstanceAs (Decidable (s.SomeRecent now))
  | .timeout .missedHeartbeat | .timeout .noControllers | .deviceInfo _ | .heartbeat _ =>
    isFalse not_false

/-- While LostController is active, the selected controller has not been heard from since
LostController was scheduled. -/
theorem IsSelectorRun.lost_silent {tr : Trace ExactTime} {c : Config ExactTime}
    (h : IsSelectorRun tr c) : ∀ d ∈ c.selector.lostController.expiry,
      ∀ t ∈ c.selector.lastHeard c.selector.selected, t + lostActiveControllerDelay ≤ d := by
  refine h.traceInvariant (P := fun _ c => ∀ d ∈ c.selector.lostController.expiry,
    ∀ t ∈ c.selector.lastHeard c.selector.selected, t + lostActiveControllerDelay ≤ d)
    (fun _ _ _ d hd => by simp [Config.init] at hd) ?_
  intro tr c e s' effects hrun hsilent henabled hout d hd t ht
  obtain ⟨now, i⟩ := e
  have hc := hrun.timersConsistent
  have hinactive : c.selector.lostController.active = false →
      d ∉ c.selector.lostController.expiry := fun hlost => by
    simp [Timer.active_eq_false_iff.mp hlost]
  cases hout with
  | deviceInfoIgnored | heartbeatUnknown | newControllerNone | noControllers =>
    exact hsilent d hd t ht
  | deviceInfoNew di hrole hnew => exact hsilent d hd t ((join_find?_set_none hnew _).symm.trans ht)
  | heartbeatWaiting hb hknown hsel | heartbeatFirst hb hknown hsel =>
    exact absurd hd (hinactive (hc.idle hsel).2)
  | heartbeatOther hb hknown hsel hother =>
    refine hsilent d hd t ?_
    change t ∈ (c.selector.heard now hb.deviceId).lastHeard c.selector.selected at ht
    rwa [lastHeard_heard, if_neg hother] at ht
  | heartbeatSelected | heartbeatResumed | lostControllerNone | lostControllerSelect => simp at hd
  | newControllerSelect =>
    have hsel := hc.selected_of_newController (active_of_expiry henabled.2)
    exact absurd hd (hinactive (hc.idle hsel).2)
  | missedHeartbeatAvailable | missedHeartbeatNone =>
    obtain rfl := Option.some.inj hd
    have hle : t ≤ now := (hc.heard_le _ t ht).trans henabled.1
    exact Int.add_le_add_right hle _

/-- The selection changes exactly when LostController fires, or NewController fires and some
controller is recent: a lost controller is not recent, so it is not selected again at once. -/
theorem IsSelectorRun.selected_ne_iff {tr : Trace ExactTime} {c : Config ExactTime} {e : Event}
    {s' : ControllerSelector ExactTime} {effects : List Effect} (h : IsSelectorRun tr c)
    (henabled : Enabled c e) (hout : Outcome c.selector e.now e.input s' effects) :
    s'.selected ≠ c.selector.selected ↔ c.selector.Reselects e.now e.input := by
  obtain ⟨now, i⟩ := e
  have hc := h.timersConsistent
  cases hout with
  | newControllerNone hnone =>
    exact iff_of_false (fun hne => hne rfl) (not_someRecent_iff.mpr hnone)
  | newControllerSelect pc hpc =>
    refine iff_of_true ?_ (someRecent_of_first? hpc)
    rw [hc.selected_of_newController (active_of_expiry henabled.2)]
    exact h.wellFormed.id_ne_of_first? hpc
  | lostControllerNone =>
    exact iff_of_true (hc.selected_of_lostController (active_of_expiry henabled.2)).symm trivial
  | lostControllerSelect pc hpc =>
    refine iff_of_true (fun heq => ?_) trivial
    obtain ⟨d, hd, hnow⟩ := henabled.2
    obtain ⟨t, ht, -, hlt⟩ := exists_lastHeard_of_available (available_of_first? hpc)
    have hsilent := h.lost_silent d hd t (heq ▸ ht)
    simp only [lostActiveControllerDelay, heartbeatDeadline, Sec] at hsilent hlt hnow
    omega
  | _ => exact iff_of_false (fun hne => hne rfl) not_false

/-! ### The timers after every run -/

/-- **Timers of a selector.** After every run: with no controller selected, MissedHeartbeat and
LostController are inactive; with one selected, NewController is inactive and exactly one of
MissedHeartbeat and LostController is active; and no enabled event makes its handler throw, so
none schedules a timer that is active. -/
theorem timer_states_of_run {tr : Trace ExactTime} {c : Config ExactTime}
    (h : IsSelectorRun tr c) :
    (c.selector.selected = "" →
        c.selector.missedHeartbeat.active = false ∧ c.selector.lostController.active = false) ∧
      (c.selector.selected ≠ "" → c.selector.newController.active = false ∧
        Xor (c.selector.missedHeartbeat.active = true) (c.selector.lostController.active = true)) ∧
      ∀ e, Enabled c e →
        ∃ s' effects, c.selector.handle e.now e.input = .ok (s', effects) := by
  have hc := h.timersConsistent
  refine ⟨hc.idle, fun hsel => ⟨(hc.busy hsel).1, ?_⟩, fun e he => ?_⟩
  · have hone := (hc.busy hsel).2
    cases hlost : c.selector.lostController.active <;> simp [hone, hlost, Xor]
  · rcases handle_cases h.wellFormed he.2 with ⟨s', effects, hok, -⟩ | ⟨-, hblocked⟩
    · exact ⟨s', effects, hok⟩
    · exact absurd hblocked (hc.not_blocked he.2)

/-- A selector that has selected a controller it heard from a second before. -/
theorem timer_states_of_selection : ∃ (tr : Trace ExactTime) (c : Config ExactTime),
    IsSelectorRun tr c ∧ c.selector.selected = "mc1" ∧
      c.selector.newController.active = false ∧
      Xor (c.selector.missedHeartbeat.active = true) (c.selector.lostController.active = true) :=
  have hrun := isSelectorRun_of_follow "dev" {} 0
    [⟨0, .deviceInfo ⟨"mc1", .microgridController, none⟩⟩, ⟨Sec 1, .heartbeat ⟨"mc1", 0⟩⟩,
      ⟨Sec 3, .heartbeat ⟨"mc1", 1⟩⟩, ⟨Sec 4, .timeout .newController⟩] rfl
  ⟨_, _, hrun, rfl, (timer_states_of_run hrun).2.1 (by decide)⟩

end ControllerSelector

end TacticalMicrogrid
