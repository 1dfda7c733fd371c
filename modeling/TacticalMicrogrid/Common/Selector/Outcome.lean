import TacticalMicrogrid.Common.ControllerSelector

/-!
# What a step of the selector can do

The handlers of a selector are described once, by the list `Outcome` of what they can do to a
well-formed selector; every property of runs is then proved from that list. A selector is
well-formed when its timers are one-shot timers, the two containers of controllers hold the same
ids, no id is empty, and the controller that started NewController is known.

## Main definitions

* `ControllerSelector.WellFormed`.
* `ControllerSelector.available`, `ControllerSelector.ageOf`: what `select_controller` looks at.
* `ControllerSelector.selecting`, `ControllerSelector.selectEffects`.
* `ControllerSelector.Outcome`.
* `ControllerSelector.selectedAfter`: the selection after an input.

## Main results

* `ControllerSelector.selectController_eq`: the loop of `select_controller` is a search for the
  first available controller, and never uses `end()`.
* `ControllerSelector.Outcome.of_handle`, `ControllerSelector.Outcome.handle_eq`: a handler that
  does not throw does what `Outcome` lists, and the other way round.
* `ControllerSelector.WellFormed.of_outcome`: every handler keeps well-formedness.
* `ControllerSelector.IsSelectorRun.traceInvariant`, `ControllerSelector.IsSelectorRun.of_prefix`,
  `ControllerSelector.IsSelectorRun.forall_prefix_iff`: the induction over a run, each of its steps,
  and the runs through good states only, in terms of `Outcome`.
-/

namespace TacticalMicrogrid

open TransitionSystem

namespace ControllerSelector

variable {τ : Type}

/-! ### Well-formed selectors -/

/-- The invariants of a selector that do not depend on the clock. -/
structure WellFormed (s : ControllerSelector τ) : Prop where
  period_newController : s.newController.period = 0
  period_missedHeartbeat : s.missedHeartbeat.period = 0
  period_lostController : s.lostController.period = 0
  period_noControllers : s.noControllers.period = 0
  perm_ids : (s.prioritizedControllers.toList.map (·.id)).Perm s.allControllers.keys
  id_ne_empty : ∀ id ∈ s.allControllers, id ≠ ""
  trigger_mem : s.newController.active = true → s.newController.arg.id ∈ s.allControllers

namespace WellFormed

variable {s : ControllerSelector τ}

/-- The two containers hold the same ids. -/
theorem mem_iff (h : s.WellFormed) {id : Identity} :
    id ∈ s.allControllers ↔ ∃ pc ∈ s.prioritizedControllers, pc.id = id := by
  rw [AList.mem_keys, ← h.perm_ids.mem_iff, List.mem_map]
  rfl

theorem init (deviceId : Identity) (callbacks : ControllerCallbacks) (clock : ℤ) :
    (Config.init deviceId callbacks clock : Config τ).selector.WellFormed where
  period_newController := rfl
  period_missedHeartbeat := rfl
  period_lostController := rfl
  period_noControllers := rfl
  perm_ids := List.Perm.refl _
  id_ne_empty id hid := absurd hid (AList.notMem_empty id)
  trigger_mem h := by simp [Config.init, Timer.active] at h

end WellFormed

variable [TimePoint τ]

/-! ### The search for an available controller -/

/-- The last heartbeat of a controller is recent. -/
def available (s : ControllerSelector τ) (now : ℤ) (pc : PrioritizedController) : Bool :=
  match s.allControllers.find? pc.id with
  | some t => isRecent now t
  | none => false

/-- The age of the last heartbeat of a controller. -/
def ageOf (s : ControllerSelector τ) (now : ℤ) (id : Identity) : Duration :=
  ((s.allControllers.find? id).bind (TimePoint.age now)).getD 0

/-- A recent time point has an age below the deadline. -/
theorem isRecent_iff {now : ℤ} {t : τ} :
    isRecent now t = true ↔ ∃ d, TimePoint.age now t = some d ∧ d < heartbeatDeadline := by
  rw [isRecent]
  cases TimePoint.age now t <;> simp

theorem available_iff {s : ControllerSelector τ} {now : ℤ} {pc : PrioritizedController} :
    s.available now pc = true ↔ ∃ t, s.allControllers.find? pc.id = some t ∧
      TimePoint.age now t = some (s.ageOf now pc.id) ∧ s.ageOf now pc.id < heartbeatDeadline := by
  rw [available, ageOf]
  cases s.allControllers.find? pc.id with
  | none => simp
  | some t =>
    simp only [isRecent_iff, Option.bind_some, Option.some.injEq, exists_eq_left']
    constructor
    · rintro ⟨d, hd, hlt⟩
      simp [hd, hlt]
    · rintro ⟨hage, hlt⟩
      exact ⟨_, hage, hlt⟩

theorem firstRecent_eq (s : ControllerSelector τ) (now : ℤ) :
    (l : List PrioritizedController) → (∀ pc ∈ l, pc.id ∈ s.allControllers) →
      s.firstRecent now l =
        .ok ((l.find? (s.available now)).map fun pc => (pc.id, s.ageOf now pc.id))
  | [], _ => rfl
  | pc :: l, h => by
    have ih := firstRecent_eq s now l fun q hq => h q (List.mem_cons_of_mem pc hq)
    obtain ⟨t, ht⟩ := Table.mem_iff_exists_find?.mp (h pc List.mem_cons_self)
    simp only [firstRecent, ht, List.find?_cons, available, isRecent]
    cases hage : TimePoint.age now t with
    | none => exact ih
    | some d =>
      by_cases hd : d < heartbeatDeadline
      · simp [hd, ageOf, ht, hage]
      · simpa [hd] using ih

/-- `select_controller` looks for the first available controller by priority. -/
theorem selectController_eq {s : ControllerSelector τ} (h : s.WellFormed) (now : ℤ) :
    s.selectController now =
      match s.prioritizedControllers.first? (s.available now) with
      | some pc => s.select now pc.id (s.ageOf now pc.id)
      | none => .ok (s, []) := by
  have hmem : ∀ pc ∈ s.prioritizedControllers.toList, pc.id ∈ s.allControllers :=
    fun pc hpc => h.mem_iff.mpr ⟨pc, hpc, rfl⟩
  rw [selectController, firstRecent_eq s now _ hmem, OrderedSet.first?]
  cases s.prioritizedControllers.toList.find? (s.available now) <;> rfl

/-- The search fails exactly when no known controller is recent. -/
theorem first?_available_eq_none_iff {s : ControllerSelector τ} (h : s.WellFormed) {now : ℤ} :
    s.prioritizedControllers.first? (s.available now) = none ↔
      ∀ id t, s.allControllers.find? id = some t → isRecent now t = false := by
  rw [OrderedSet.first?_eq_none_iff]
  constructor
  · intro hnone id t ht
    obtain ⟨pc, hpc, rfl⟩ := h.mem_iff.mp (Table.mem_of_find? ht)
    simpa [available, ht] using hnone pc hpc
  · intro hnone pc hpc
    obtain ⟨t, ht⟩ := Table.mem_iff_exists_find?.mp (h.mem_iff.mpr ⟨pc, hpc, rfl⟩)
    simpa [available, ht] using hnone pc.id t ht

/-- The controller that the search finds is recent. -/
theorem available_of_first? {s : ControllerSelector τ} {now : ℤ} {pc : PrioritizedController}
    (h : s.prioritizedControllers.first? (s.available now) = some pc) :
    s.available now pc = true :=
  (OrderedSet.first?_eq_some_iff.mp h).1.2

omit [TimePoint τ] in
/-- The controller that a search finds is known. -/
theorem WellFormed.mem_of_first? {s : ControllerSelector τ} (hwf : s.WellFormed)
    {p : PrioritizedController → Bool} {pc : PrioritizedController}
    (h : s.prioritizedControllers.first? p = some pc) : pc.id ∈ s.allControllers :=
  hwf.mem_iff.mpr ⟨pc, (OrderedSet.first?_eq_some_iff.mp h).1.1, rfl⟩

omit [TimePoint τ] in
theorem WellFormed.id_ne_of_first? {s : ControllerSelector τ} (hwf : s.WellFormed)
    {p : PrioritizedController → Bool} {pc : PrioritizedController}
    (h : s.prioritizedControllers.first? p = some pc) : pc.id ≠ "" :=
  hwf.id_ne_empty _ (hwf.mem_of_first? h)

/-- The loop of the MissedHeartbeat handler finds no recent controller. -/
theorem noAvailMc_iff {s : ControllerSelector τ} {now : ℤ} : s.noAvailMc now = true ↔
    ∀ id t, s.allControllers.find? id = some t → isRecent now t = false := by
  simp only [noAvailMc, List.all_eq_true, Bool.not_eq_true', Sigma.forall, Table.mem_entries_iff]

/-- Some known controller is recent. -/
def SomeRecent (s : ControllerSelector τ) (now : ℤ) : Prop :=
  ∃ id t, s.allControllers.find? id = some t ∧ isRecent now t = true

theorem not_someRecent_iff {s : ControllerSelector τ} {now : ℤ} : ¬s.SomeRecent now ↔
    ∀ id t, s.allControllers.find? id = some t → isRecent now t = false := by
  simp only [SomeRecent, not_exists, not_and, Bool.not_eq_true]

instance (s : ControllerSelector τ) (now : ℤ) : Decidable (s.SomeRecent now) :=
  decidable_of_iff (¬s.noAvailMc now = true) (by rw [noAvailMc_iff, ← not_someRecent_iff, not_not])

/-- The controller that the search finds shows that some controller is recent. -/
theorem someRecent_of_first? {s : ControllerSelector τ} {now : ℤ} {pc : PrioritizedController}
    (h : s.prioritizedControllers.first? (s.available now) = some pc) : s.SomeRecent now := by
  obtain ⟨t, ht, hage, hlt⟩ := available_iff.mp (available_of_first? h)
  exact ⟨pc.id, t, ht, isRecent_iff.mpr ⟨_, hage, hlt⟩⟩

/-! ### What the handlers do -/

/-- The selector after `select`. -/
def selecting (s : ControllerSelector τ) (now : ℤ) (id : Identity) : ControllerSelector τ :=
  { s with
    selected := id
    missedHeartbeat := s.missedHeartbeat.armed {} (heartbeatDeadline - s.ageOf now id) now }

/-- The calls of `select`. -/
def selectEffects (s : ControllerSelector τ) (id : Identity) : List Effect :=
  callback s.callbacks.newController (.newController id) ++
    [.write ⟨s.deviceId, if id = "" then none else some id⟩]

/-- What the handlers can do to a well-formed selector, with the guards under which they do it. -/
inductive Outcome (s : ControllerSelector τ) (now : ℤ) :
    Input → ControllerSelector τ → List Effect → Prop
  | deviceInfoIgnored (di : DeviceInfo)
      (h : ¬(di.role = .microgridController ∧ di.deviceId ∉ s.allControllers)) :
      Outcome s now (.deviceInfo di) s []
  | deviceInfoNew (di : DeviceInfo) (hrole : di.role = .microgridController)
      (hnew : di.deviceId ∉ s.allControllers) :
      Outcome s now (.deviceInfo di)
        { s with
          allControllers := s.allControllers.set di.deviceId TimePoint.min
          prioritizedControllers := s.prioritizedControllers.insert (.ofDeviceInfo di) } []
  | heartbeatUnknown (hb : Heartbeat) (h : hb.deviceId ∉ s.allControllers) :
      Outcome s now (.heartbeat hb) s []
  | heartbeatWaiting (hb : Heartbeat) (hknown : hb.deviceId ∈ s.allControllers)
      (hsel : s.selected = "") (hactive : s.newController.active = true) :
      Outcome s now (.heartbeat hb) (s.heard now hb.deviceId) []
  | heartbeatFirst (hb : Heartbeat) (hknown : hb.deviceId ∈ s.allControllers)
      (hsel : s.selected = "") (hactive : s.newController.active = false) :
      Outcome s now (.heartbeat hb)
        { s.heard now hb.deviceId with
          newController := s.newController.armed ⟨hb.deviceId⟩ newActiveControllerDelay now } []
  | heartbeatOther (hb : Heartbeat) (hknown : hb.deviceId ∈ s.allControllers)
      (hsel : s.selected ≠ "") (hother : s.selected ≠ hb.deviceId) :
      Outcome s now (.heartbeat hb) (s.heard now hb.deviceId) []
  | heartbeatSelected (hb : Heartbeat) (hknown : hb.deviceId ∈ s.allControllers)
      (hsel : s.selected ≠ "") (hself : s.selected = hb.deviceId)
      (hactive : s.missedHeartbeat.active = true) :
      Outcome s now (.heartbeat hb)
        { s.heard now hb.deviceId with
          lostController := s.lostController.cancel
          missedHeartbeat := s.missedHeartbeat.rearmed now } []
  | heartbeatResumed (hb : Heartbeat) (hknown : hb.deviceId ∈ s.allControllers)
      (hsel : s.selected ≠ "") (hself : s.selected = hb.deviceId)
      (hactive : s.missedHeartbeat.active = false) :
      Outcome s now (.heartbeat hb)
        { s.heard now hb.deviceId with
          lostController := s.lostController.cancel
          missedHeartbeat := s.missedHeartbeat.armed {} heartbeatDeadline now } []
  | newControllerNone
      (hnone : ∀ id t, s.allControllers.find? id = some t → isRecent now t = false) :
      Outcome s now (.timeout .newController)
        { s with newController := s.newController.cancel } []
  | newControllerSelect (pc : PrioritizedController)
      (hpc : s.prioritizedControllers.first? (s.available now) = some pc)
      (hactive : s.missedHeartbeat.active = false) :
      Outcome s now (.timeout .newController)
        { s.selecting now pc.id with newController := s.newController.cancel }
        (s.selectEffects pc.id)
  | missedHeartbeatAvailable (hactive : s.lostController.active = false)
      (havail : ¬∀ id t, s.allControllers.find? id = some t → isRecent now t = false) :
      Outcome s now (.timeout .missedHeartbeat)
        { s with
          lostController := s.lostController.armed {} lostActiveControllerDelay now
          missedHeartbeat := s.missedHeartbeat.cancel }
        (callback s.callbacks.missedHeartbeat (.missedHeartbeat s.selected))
  | missedHeartbeatNone (hactive : s.lostController.active = false)
      (hno : s.noControllers.active = false)
      (hnone : ∀ id t, s.allControllers.find? id = some t → isRecent now t = false) :
      Outcome s now (.timeout .missedHeartbeat)
        { s with
          lostController := s.lostController.armed {} lostActiveControllerDelay now
          missedHeartbeat := s.missedHeartbeat.cancel
          noControllers := s.noControllers.armed {} noControllersDelay now }
        (callback s.callbacks.missedHeartbeat (.missedHeartbeat s.selected))
  | lostControllerNone
      (hnone : ∀ id t, s.allControllers.find? id = some t → isRecent now t = false) :
      Outcome s now (.timeout .lostController)
        { s with selected := "", lostController := s.lostController.cancel }
        (callback s.callbacks.lostController (.lostController s.selected))
  | lostControllerSelect (pc : PrioritizedController)
      (hpc : s.prioritizedControllers.first? (s.available now) = some pc)
      (hactive : s.missedHeartbeat.active = false) :
      Outcome s now (.timeout .lostController)
        { s.selecting now pc.id with lostController := s.lostController.cancel }
        (callback s.callbacks.lostController (.lostController s.selected) ++
          s.selectEffects pc.id)
  | noControllers :
      Outcome s now (.timeout .noControllers)
        { s with noControllers := s.noControllers.cancel }
        (callback s.callbacks.noControllers .noControllers)

/-! ### The list is complete -/

private theorem bind_ok {α β : Type} (a : α) (f : α → Except String β) :
    (Except.ok a >>= f) = f a := rfl

/-- A computation that does not throw has a first part that does not throw. -/
theorem exists_of_bind_eq_ok {α β : Type} {x : Except String α} {f : α → Except String β}
    {b : β} (h : x >>= f = .ok b) : ∃ a, x = .ok a ∧ f a = .ok b := by
  cases x with
  | error msg => cases h
  | ok a => exact ⟨a, rfl, h⟩

/-- The handler of MissedHeartbeat changes two timers only. -/
theorem exists_of_missedHeartbeat {s s' : ControllerSelector τ} {now : ℤ} {effects : List Effect}
    (h : s.timerFired now .missedHeartbeat = .ok (s', effects)) :
    ∃ lost no, s' = { s with lostController := lost, noControllers := no } := by
  obtain ⟨lost, -, h⟩ := exists_of_bind_eq_ok h
  obtain ⟨s'', hstart, h⟩ := exists_of_bind_eq_ok h
  obtain ⟨rfl, -⟩ := Prod.mk.inj (Except.ok.inj h)
  rw [startNoControllers] at hstart
  split_ifs at hstart
  · obtain ⟨no, -, hstart⟩ := exists_of_bind_eq_ok hstart
    exact ⟨lost, no, (Except.ok.inj hstart).symm⟩
  · exact ⟨lost, s.noControllers, (Except.ok.inj hstart).symm⟩

section Complete

variable {s s' : ControllerSelector τ} {now : ℤ} {i : Input} {effects : List Effect}

private theorem select_of_inactive (h : s.missedHeartbeat.active = false) (now : ℤ)
    (id : Identity) :
    s.select now id (s.ageOf now id) = .ok (s.selecting now id, s.selectEffects id) := by
  rw [select]
  change (s.missedHeartbeat.scheduleOnce {} (heartbeatDeadline - s.ageOf now id) now).bind _ = _
  rw [Timer.scheduleOnce_of_inactive h]
  rfl

omit [TimePoint τ] in
private theorem select_of_active (h : s.missedHeartbeat.active = true) (now : ℤ) (id : Identity)
    (lastHb : Duration) : ∃ msg, s.select now id lastHb = .error msg := by
  rw [select]
  change ∃ msg, (s.missedHeartbeat.scheduleOnce {} (heartbeatDeadline - lastHb) now).bind _ = _
  rw [Timer.scheduleOnce_of_active h]
  exact ⟨_, rfl⟩

/-- What `select_controller` does, whatever `selected_` is: it throws if it has a controller to
select and MissedHeartbeat is active, and changes nothing if it has none. -/
theorem selectController_cases (hwf : s.WellFormed) (now : ℤ) (sel : Identity) :
    (∃ msg, { s with selected := sel }.selectController now = .error msg ∧ s.SomeRecent now ∧
        s.missedHeartbeat.active = true) ∨
      ((∀ id t, s.allControllers.find? id = some t → isRecent now t = false) ∧
        { s with selected := sel }.selectController now = .ok ({ s with selected := sel }, [])) ∨
      ∃ pc, s.prioritizedControllers.first? (s.available now) = some pc ∧
        s.missedHeartbeat.active = false ∧
        { s with selected := sel }.selectController now =
          .ok (s.selecting now pc.id, s.selectEffects pc.id) := by
  have hwf' : ({ s with selected := sel } : ControllerSelector τ).WellFormed := { hwf with }
  rw [selectController_eq hwf']
  change _ ∨ _ ∨ ∃ pc, s.prioritizedControllers.first? (s.available now) = some pc ∧ _
  have hfirst : ({ s with selected := sel } : ControllerSelector τ).prioritizedControllers.first?
      (({ s with selected := sel } : ControllerSelector τ).available now) =
        s.prioritizedControllers.first? (s.available now) := rfl
  rw [hfirst]
  cases hpc : s.prioritizedControllers.first? (s.available now) with
  | none => exact Or.inr (Or.inl ⟨(first?_available_eq_none_iff hwf).mp hpc, rfl⟩)
  | some pc =>
    cases hactive : s.missedHeartbeat.active with
    | true =>
      obtain ⟨msg, hmsg⟩ := select_of_active (s := { s with selected := sel }) hactive now pc.id
        (({ s with selected := sel } : ControllerSelector τ).ageOf now pc.id)
      exact Or.inl ⟨msg, hmsg, someRecent_of_first? hpc, rfl⟩
    | false =>
      exact Or.inr (Or.inr ⟨pc, rfl, rfl,
        select_of_inactive (s := { s with selected := sel }) hactive now pc.id⟩)

private theorem startNoControllers_cases (s : ControllerSelector τ) (now : ℤ) :
    (∃ msg, s.startNoControllers now = .error msg ∧ s.noControllers.active = true ∧
        ∀ id t, s.allControllers.find? id = some t → isRecent now t = false) ∨
      (¬(∀ id t, s.allControllers.find? id = some t → isRecent now t = false) ∧
        s.startNoControllers now = .ok s) ∨
      (∀ id t, s.allControllers.find? id = some t → isRecent now t = false) ∧
        s.noControllers.active = false ∧ s.startNoControllers now =
          .ok { s with noControllers := s.noControllers.armed {} noControllersDelay now } := by
  rw [startNoControllers, ← noAvailMc_iff]
  by_cases havail : s.noAvailMc now = true
  · simp only [if_pos havail]
    cases hactive : s.noControllers.active with
    | true =>
      rw [Timer.scheduleOnce_of_active hactive]
      exact Or.inl ⟨_, rfl, rfl, havail⟩
    | false =>
      rw [Timer.scheduleOnce_of_inactive hactive]
      exact Or.inr (Or.inr ⟨havail, rfl, rfl⟩)
  · rw [if_neg havail]
    exact Or.inr (Or.inl ⟨havail, rfl⟩)

theorem gotHeartbeat_cases (s : ControllerSelector τ) (now : ℤ) (hb : Heartbeat) :
    ∃ s', s.gotHeartbeat now hb = .ok s' ∧ Outcome s now (.heartbeat hb) s' [] := by
  rw [gotHeartbeat]
  by_cases hknown : hb.deviceId ∈ s.allControllers
  · rw [if_pos hknown]
    by_cases hsel : (s.heard now hb.deviceId).selected = ""
    · simp only [if_pos hsel]
      cases hactive : (s.heard now hb.deviceId).newController.active with
      | true => exact ⟨_, rfl, .heartbeatWaiting hb hknown hsel hactive⟩
      | false =>
        rw [Timer.scheduleOnce_of_inactive hactive]
        exact ⟨_, rfl, .heartbeatFirst hb hknown hsel hactive⟩
    · simp only [if_neg hsel]
      by_cases hself : (s.heard now hb.deviceId).selected = hb.deviceId
      · simp only [if_pos hself]
        cases hactive : (s.heard now hb.deviceId).missedHeartbeat.active with
        | true =>
          rw [Timer.reschedule_eq]
          exact ⟨_, rfl, .heartbeatSelected hb hknown hsel hself hactive⟩
        | false =>
          rw [Timer.scheduleOnce_of_inactive hactive]
          exact ⟨_, rfl, .heartbeatResumed hb hknown hsel hself hactive⟩
      · simp only [if_neg hself]
        exact ⟨_, rfl, .heartbeatOther hb hknown hsel hself⟩
  · rw [if_neg hknown]
    exact ⟨s, rfl, .heartbeatUnknown hb hknown⟩

/-- A timer that the handler of an input schedules is active already. -/
def Blocked (s : ControllerSelector τ) (now : ℤ) : Input → Prop
  | .timeout .newController | .timeout .lostController => s.missedHeartbeat.active = true
  | .timeout .missedHeartbeat => s.lostController.active = true ∨ s.noControllers.active = true ∧
      ∀ id t, s.allControllers.find? id = some t → isRecent now t = false
  | _ => False

/-- A handler does what `Outcome` lists, or it throws because it schedules an active timer. -/
theorem handle_cases (hwf : s.WellFormed) (hadm : s.Admissible now i) :
    (∃ s' effects, s.handle now i = .ok (s', effects) ∧ Outcome s now i s' effects) ∨
      (∃ msg, s.handle now i = .error msg) ∧ s.Blocked now i := by
  cases i with
  | deviceInfo di =>
    refine Or.inl ⟨_, [], rfl, ?_⟩
    rw [gotDeviceInfo]
    split_ifs with hnew
    · exact .deviceInfoNew di hnew.1 hnew.2
    · exact .deviceInfoIgnored di hnew
  | heartbeat hb =>
    obtain ⟨s', hs', hout⟩ := gotHeartbeat_cases s now hb
    exact Or.inl ⟨s', [], by rw [handle, hs']; rfl, hout⟩
  | timeout k =>
    cases k with
    | newController =>
      obtain ⟨d, hd, -⟩ := hadm
      have hmem := hwf.trigger_mem (Timer.active_iff.mpr ⟨d, hd⟩)
      rw [handle, handleTimeout, timerFired, if_pos hmem]
      rcases selectController_cases hwf now s.selected with
        ⟨msg, hthrow, -, hactive⟩ | ⟨hnone, hok⟩ | ⟨pc, hpc, hactive, hok⟩
      · exact Or.inr ⟨⟨msg, by rw [hthrow]; rfl⟩, hactive⟩
      · refine Or.inl ⟨_, _, by rw [hok]; rfl, ?_⟩
        rw [timerWontRun, Timer.afterUpcall_of_period hwf.period_newController]
        exact .newControllerNone hnone
      · refine Or.inl ⟨_, _, by rw [hok]; rfl, ?_⟩
        rw [timerWontRun, Timer.afterUpcall_of_period (t := (s.selecting now pc.id).newController)
          hwf.period_newController]
        exact .newControllerSelect pc hpc hactive
    | missedHeartbeat =>
      rw [handle, handleTimeout, timerFired]
      cases hlost : s.lostController.active with
      | true =>
        rw [Timer.scheduleOnce_of_active hlost]
        exact Or.inr ⟨⟨_, rfl⟩, Or.inl hlost⟩
      | false =>
        rw [Timer.scheduleOnce_of_inactive hlost]
        rcases startNoControllers_cases
            { s with lostController := s.lostController.armed {} lostActiveControllerDelay now } now
          with ⟨msg, hthrow, hno, hnone⟩ | ⟨havail, hok⟩ | ⟨hnone, hno, hok⟩
        · exact Or.inr ⟨⟨msg, by rw [bind_ok, hthrow]; rfl⟩, Or.inr ⟨hno, hnone⟩⟩
        · refine Or.inl ⟨_, _, by rw [bind_ok, hok]; rfl, ?_⟩
          rw [timerWontRun, Timer.afterUpcall_of_period hwf.period_missedHeartbeat]
          exact .missedHeartbeatAvailable hlost havail
        · refine Or.inl ⟨_, _, by rw [bind_ok, hok]; rfl, ?_⟩
          rw [timerWontRun, Timer.afterUpcall_of_period hwf.period_missedHeartbeat]
          exact .missedHeartbeatNone hlost hno hnone
    | lostController =>
      rw [handle, handleTimeout, timerFired]
      rcases selectController_cases hwf now "" with
        ⟨msg, hthrow, -, hactive⟩ | ⟨hnone, hok⟩ | ⟨pc, hpc, hactive, hok⟩
      · exact Or.inr ⟨⟨msg, by rw [hthrow]; rfl⟩, hactive⟩
      · refine Or.inl ⟨_, _, by rw [hok]; rfl, ?_⟩
        rw [timerWontRun, Timer.afterUpcall_of_period (t := s.lostController)
          hwf.period_lostController, List.append_nil]
        exact .lostControllerNone hnone
      · refine Or.inl ⟨_, _, by rw [hok]; rfl, ?_⟩
        rw [timerWontRun, Timer.afterUpcall_of_period (t := (s.selecting now pc.id).lostController)
          hwf.period_lostController]
        exact .lostControllerSelect pc hpc hactive
    | noControllers =>
      refine Or.inl ⟨_, _, rfl, ?_⟩
      rw [timerWontRun, Timer.afterUpcall_of_period hwf.period_noControllers]
      exact .noControllers

/-- A handler that does not throw does what `Outcome` lists. -/
theorem Outcome.of_handle (hwf : s.WellFormed) (hadm : s.Admissible now i)
    (h : s.handle now i = .ok (s', effects)) : Outcome s now i s' effects := by
  rcases handle_cases hwf hadm with ⟨s'', effects', hok, hout⟩ | ⟨⟨msg, herror⟩, -⟩
  · obtain ⟨rfl, rfl⟩ := Prod.mk.inj (Except.ok.inj (hok.symm.trans h))
    exact hout
  · rw [herror] at h
    cases h

/-- `select_controller` changes nothing if no controller is recent. -/
private theorem selectController_of_none (hwf : s.WellFormed)
    (hnone : ∀ id t, s.allControllers.find? id = some t → isRecent now t = false) :
    s.selectController now = .ok (s, []) := by
  rw [selectController_eq hwf, (first?_available_eq_none_iff hwf).mpr hnone]

/-- `select_controller` selects the first available controller. -/
private theorem selectController_of_first? (hwf : s.WellFormed) {pc : PrioritizedController}
    (hpc : s.prioritizedControllers.first? (s.available now) = some pc)
    (hactive : s.missedHeartbeat.active = false) :
    s.selectController now = .ok (s.selecting now pc.id, s.selectEffects pc.id) := by
  rw [selectController_eq hwf, hpc]
  exact select_of_inactive hactive now pc.id

private theorem Outcome.gotHeartbeat_eq {hb : Heartbeat}
    (h : Outcome s now (.heartbeat hb) s' effects) :
    s.gotHeartbeat now hb = .ok s' ∧ effects = [] := by
  cases h with
  | heartbeatUnknown _ hunknown =>
    rw [gotHeartbeat, if_neg hunknown]
    exact ⟨rfl, rfl⟩
  | heartbeatWaiting _ hknown hsel hactive =>
    simp [gotHeartbeat, heard, hknown, hsel, hactive, pure, Except.pure]
  | heartbeatFirst _ hknown hsel hactive =>
    simp [gotHeartbeat, heard, hknown, hsel, hactive, Timer.scheduleOnce_of_inactive hactive,
      pure, bind, Except.pure, Except.bind]
  | heartbeatOther _ hknown hsel hother =>
    simp [gotHeartbeat, heard, hknown, hsel, hother, pure, Except.pure]
  | heartbeatSelected _ hknown hsel hself hactive =>
    simp [gotHeartbeat, heard, hknown, hself ▸ hsel, hself, hactive]
  | heartbeatResumed _ hknown hsel hself hactive =>
    simp [gotHeartbeat, heard, hknown, hself ▸ hsel, hself, hactive,
      Timer.scheduleOnce_of_inactive hactive]

/-- A handler does what `Outcome` lists for it. -/
theorem Outcome.handle_eq (hwf : s.WellFormed) (hadm : s.Admissible now i)
    (h : Outcome s now i s' effects) : s.handle now i = .ok (s', effects) := by
  have hwf' : ({ s with selected := "" } : ControllerSelector τ).WellFormed := { hwf with }
  have hlost := startNoControllers_cases
    { s with lostController := s.lostController.armed {} lostActiveControllerDelay now } now
  cases i with
  | deviceInfo di =>
    rw [handle, gotDeviceInfo]
    cases h with
    | deviceInfoIgnored _ hold =>
      rw [if_neg hold]
      rfl
    | deviceInfoNew _ hrole hnew =>
      rw [if_pos ⟨hrole, hnew⟩]
      rfl
  | heartbeat hb =>
    obtain ⟨hok, rfl⟩ := h.gotHeartbeat_eq
    rw [handle, hok]
    rfl
  | timeout k =>
    rw [handle, handleTimeout]
    cases h with
    | newControllerNone hnone =>
      obtain ⟨d, hd, -⟩ := hadm
      rw [timerFired, if_pos (hwf.trigger_mem (Timer.active_iff.mpr ⟨d, hd⟩)),
        selectController_of_none hwf hnone]
      change Except.ok (s.timerWontRun .newController, _) = _
      rw [timerWontRun, Timer.afterUpcall_of_period hwf.period_newController]
    | newControllerSelect pc hpc hactive =>
      obtain ⟨d, hd, -⟩ := hadm
      rw [timerFired, if_pos (hwf.trigger_mem (Timer.active_iff.mpr ⟨d, hd⟩)),
        selectController_of_first? hwf hpc hactive]
      change Except.ok ((s.selecting now pc.id).timerWontRun .newController, _) = _
      rw [timerWontRun, Timer.afterUpcall_of_period (t := (s.selecting now pc.id).newController)
        hwf.period_newController]
      rfl
    | missedHeartbeatAvailable hactive havail =>
      rw [timerFired, Timer.scheduleOnce_of_inactive hactive, bind_ok]
      rcases hlost with ⟨-, -, -, hnone⟩ | ⟨-, hok⟩ | ⟨hnone, -, -⟩
      · exact absurd hnone havail
      · rw [hok, bind_ok]
        change Except.ok (ControllerSelector.timerWontRun _ .missedHeartbeat, _) = _
        rw [timerWontRun, Timer.afterUpcall_of_period hwf.period_missedHeartbeat]
      · exact absurd hnone havail
    | missedHeartbeatNone hactive hno hnone =>
      rw [timerFired, Timer.scheduleOnce_of_inactive hactive, bind_ok]
      rcases hlost with ⟨-, -, hno', -⟩ | ⟨havail, -⟩ | ⟨-, -, hok⟩
      · exact absurd (hno.symm.trans hno') Bool.false_ne_true
      · exact absurd hnone havail
      · rw [hok, bind_ok]
        change Except.ok (ControllerSelector.timerWontRun _ .missedHeartbeat, _) = _
        rw [timerWontRun, Timer.afterUpcall_of_period hwf.period_missedHeartbeat]
    | lostControllerNone hnone =>
      rw [timerFired, selectController_of_none hwf' hnone, bind_ok]
      change Except.ok (ControllerSelector.timerWontRun _ .lostController, _) = _
      rw [timerWontRun, Timer.afterUpcall_of_period (t := s.lostController)
        hwf.period_lostController, List.append_nil]
    | lostControllerSelect pc hpc hactive =>
      rw [timerFired, selectController_of_first? hwf' hpc hactive, bind_ok]
      change Except.ok ((s.selecting now pc.id).timerWontRun .lostController, _) = _
      rw [timerWontRun, Timer.afterUpcall_of_period (t := (s.selecting now pc.id).lostController)
        hwf.period_lostController]
      rfl
    | noControllers =>
      change Except.ok (s.timerWontRun .noControllers, _) = _
      rw [timerWontRun, Timer.afterUpcall_of_period hwf.period_noControllers]

/-- The controller that is selected after an input. -/
def selectedAfter (s : ControllerSelector τ) (now : ℤ) : Input → Identity
  | .timeout .newController =>
    ((s.prioritizedControllers.first? (s.available now)).map (·.id)).getD s.selected
  | .timeout .lostController =>
    ((s.prioritizedControllers.first? (s.available now)).map (·.id)).getD ""
  | .timeout .missedHeartbeat | .timeout .noControllers | .deviceInfo _ | .heartbeat _ =>
    s.selected

theorem Outcome.selected_eq (hwf : s.WellFormed) (h : Outcome s now i s' effects) :
    s'.selected = s.selectedAfter now i := by
  cases h with
  | newControllerNone hnone | lostControllerNone hnone =>
    rw [selectedAfter, (first?_available_eq_none_iff hwf).mpr hnone]
    rfl
  | newControllerSelect pc hpc | lostControllerSelect pc hpc =>
    rw [selectedAfter, hpc]
    rfl
  | _ => rfl

/-- Every handler keeps well-formedness. -/
theorem WellFormed.of_outcome (hwf : s.WellFormed) (hadm : s.Admissible now i)
    (h : Outcome s now i s' effects) : s'.WellFormed := by
  have hheard : ∀ id ∈ s.allControllers, (s.heard now id).WellFormed := fun id hid =>
    { hwf with
      perm_ids := hwf.perm_ids.trans (Table.perm_keys_set_of_mem hid).symm
      id_ne_empty := fun id' hid' => by
        rcases Table.mem_set.mp hid' with rfl | hid'
        exacts [hwf.id_ne_empty id' hid, hwf.id_ne_empty id' hid']
      trigger_mem := fun hactive => Table.mem_set.mpr (Or.inr (hwf.trigger_mem hactive)) }
  cases h with
  | deviceInfoIgnored | heartbeatUnknown => exact hwf
  | deviceInfoNew di hrole hnew =>
    have hnotMem : PrioritizedController.ofDeviceInfo di ∉ s.prioritizedControllers.toList :=
      fun hmem => hnew (hwf.mem_iff.mpr ⟨_, hmem, rfl⟩)
    refine { hwf with perm_ids := ?_, id_ne_empty := ?_, trigger_mem := ?_ }
    · rw [Table.keys_set_of_notMem hnew]
      exact ((OrderedSet.perm_insert hnotMem).map _).trans (hwf.perm_ids.cons _)
    · intro id hid
      rcases Table.mem_set.mp hid with rfl | hid
      exacts [hadm, hwf.id_ne_empty id hid]
    · exact fun hactive => Table.mem_set.mpr (Or.inr (hwf.trigger_mem hactive))
  | heartbeatWaiting hb hknown | heartbeatOther hb hknown => exact hheard _ hknown
  | heartbeatFirst hb hknown =>
    exact { hheard _ hknown with
      period_newController := rfl
      trigger_mem := fun _ => Table.mem_set.mpr (Or.inl rfl) }
  | heartbeatSelected hb hknown | heartbeatResumed hb hknown =>
    exact { hheard _ hknown with
      period_missedHeartbeat := by first | rfl | exact hwf.period_missedHeartbeat }
  | newControllerNone => exact { hwf with trigger_mem := fun hactive => by simp at hactive }
  | newControllerSelect =>
    exact { hwf with
      period_missedHeartbeat := rfl
      trigger_mem := fun hactive => by simp at hactive }
  | missedHeartbeatAvailable => exact { hwf with period_lostController := rfl }
  | missedHeartbeatNone =>
    exact { hwf with period_lostController := rfl, period_noControllers := rfl }
  | lostControllerNone | noControllers => exact { hwf with }
  | lostControllerSelect => exact { hwf with period_missedHeartbeat := rfl }

end Complete

/-! ### Runs -/

section Runs

variable {tr : Trace τ} {c : Config τ}

/-- Every selector that a run reaches is well-formed. -/
theorem IsSelectorRun.wellFormed (h : IsSelectorRun tr c) : c.selector.WellFormed := by
  obtain ⟨deviceId, callbacks, clock, hrun⟩ := h
  refine hrun.invariant (P := fun c => c.selector.WellFormed) (.init ..) ?_
  rintro c l c' hwf ⟨⟨-, hadm⟩, hhandle, -⟩
  exact hwf.of_outcome hadm (.of_handle hwf hadm hhandle)

/-- The induction over a run: a property of the history and the selector that holds of a new
selector and that every outcome keeps holds at the end of every run. -/
theorem IsSelectorRun.traceInvariant {P : Trace τ → Config τ → Prop} (h : IsSelectorRun tr c)
    (hinit : ∀ deviceId callbacks clock, P [] (Config.init deviceId callbacks clock))
    (hkeep : ∀ tr c e s' effects, IsSelectorRun tr c → P tr c → Enabled c e →
      Outcome c.selector e.now e.input s' effects →
        P (tr ++ [⟨c, ⟨e, effects⟩, ⟨s', e.now⟩⟩]) ⟨s', e.now⟩) : P tr c := by
  obtain ⟨deviceId, callbacks, clock, hrun⟩ := h
  refine hrun.traceInvariant (hinit ..) ?_
  rintro tr c ⟨e, effects⟩ ⟨s', clock'⟩ hrun' hP ⟨henabled, hhandle, rfl⟩
  have hrun : IsSelectorRun tr c := ⟨deviceId, callbacks, clock, hrun'⟩
  exact hkeep tr c e s' effects hrun hP henabled (.of_handle hrun.wellFormed henabled.2 hhandle)

/-- The selected controller is known. -/
theorem IsSelectorRun.selected_mem (h : IsSelectorRun tr c) :
    c.selector.selected ≠ "" → c.selector.selected ∈ c.selector.allControllers := by
  refine h.traceInvariant (P := fun _ c => c.selector.selected ≠ "" →
    c.selector.selected ∈ c.selector.allControllers) (fun _ _ _ hsel => absurd rfl hsel) ?_
  rintro tr c ⟨now, i⟩ s' effects hrun hmem henabled hout hsel
  cases hout with
  | deviceInfoNew | heartbeatWaiting | heartbeatFirst | heartbeatOther | heartbeatSelected
  | heartbeatResumed => exact Table.mem_set.mpr (Or.inr (hmem hsel))
  | newControllerSelect pc hpc | lostControllerSelect pc hpc =>
    exact hrun.wellFormed.mem_of_first? hpc
  | lostControllerNone => exact absurd rfl hsel
  | _ => exact hmem hsel

/-- Each step of a run is an outcome in the selector that the run before it reaches. -/
theorem IsSelectorRun.of_prefix (h : IsSelectorRun tr c) {pre : Trace τ}
    {t : Transition (Config τ) Label} (hpre : pre ++ [t] <+: tr) :
    IsSelectorRun pre t.source ∧ Enabled t.source t.label.event ∧
      Outcome t.source.selector t.label.event.now t.label.event.input t.target.selector
        t.label.effects := by
  obtain ⟨deviceId, callbacks, clock, hrun⟩ := h
  obtain ⟨hrun', henabled, hhandle, -⟩ := hrun.of_prefix_snoc hpre
  have hrun : IsSelectorRun pre t.source := ⟨deviceId, callbacks, clock, hrun'⟩
  exact ⟨hrun, henabled, .of_handle hrun.wellFormed henabled.2 hhandle⟩

/-- If a step out of a good state leads to a good state exactly when it meets the condition `C`,
then all states of a run are good exactly when all its steps meet `C`. -/
theorem IsSelectorRun.forall_prefix_iff {P : Trace τ → Config τ → Prop}
    {C : Trace τ → Config τ → Event → Prop} (h : IsSelectorRun tr c)
    (hinit : ∀ deviceId callbacks clock, P [] (Config.init deviceId callbacks clock))
    (hkeep : ∀ tr c e s' effects, IsSelectorRun tr c → P tr c → Enabled c e →
      Outcome c.selector e.now e.input s' effects →
        (P (tr ++ [⟨c, ⟨e, effects⟩, ⟨s', e.now⟩⟩]) ⟨s', e.now⟩ ↔ C tr c e)) :
    (∀ pre r, pre <+: tr → IsSelectorRun pre r → P pre r) ↔
      ∀ pre t, pre ++ [t] <+: tr → C pre t.source t.label.event := by
  obtain ⟨deviceId, callbacks, clock, hrun⟩ := h
  have hiff := hrun.forall_prefix_iff (P := P) (C := fun tr c l => C tr c l.event) (hinit ..) (by
    rintro tr c ⟨e, effects⟩ ⟨s', clock'⟩ hrun' hP ⟨henabled, hhandle, rfl⟩
    have hrun : IsSelectorRun tr c := ⟨deviceId, callbacks, clock, hrun'⟩
    exact hkeep tr c e s' effects hrun hP henabled
      (.of_handle hrun.wellFormed henabled.2 hhandle))
  rw [← hiff]
  constructor
  · exact fun hP pre r hpre hr => hP pre r hpre ⟨deviceId, callbacks, clock, hr⟩
  · rintro hP pre r hpre ⟨deviceId', callbacks', clock', hr⟩
    obtain ⟨r', hr'⟩ := hrun.exists_of_prefix hpre
    cases hr with
    | nil => exact hinit ..
    | snoc hrun'' hstep =>
      obtain ⟨-, -, rfl⟩ := IsRun.snoc_iff.mp hr'
      exact hP _ _ hpre hr'

end Runs

end ControllerSelector

end TacticalMicrogrid
