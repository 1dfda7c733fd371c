import TacticalMicrogrid.Common.Selector.Outcome
import Mathlib.Tactic.Linarith

/-!
# Ages in 64-bit arithmetic

A `std::chrono::time_point` of the system clock is a signed 64-bit number of nanoseconds. The age
of a heartbeat is a difference of two readings after the epoch and does not overflow. The entry of
a controller that was never heard from is `TimePoint::min()`, and its age wraps around to a
negative number: such a controller is always recent.

Both loops that compute ages end with the first recent controller: that of `select_controller` goes
by priority, and that of MissedHeartbeat by id, since `all_controllers_` is a `std::map`. So the
wrong age is computed only if the loop gets to a controller that was never heard from.

## Main definitions

* `ControllerSelector.selectReads`, `ControllerSelector.missedHeartbeatReads`: the controllers whose
  ages the loops compute.
* `ControllerSelector.NeverHeard`, `ControllerSelector.AgesSound`.
* `ControllerSelector.HeardFirst`: the condition on the table and the reading.

## Main results

* `ControllerSelector.agesSound_iff`: the ages are sound exactly when both loops meet a controller
  that was heard from recently before any that was never heard from.
* `ControllerSelector.selects_never_heard`: a run that selects a controller never heard from.
-/

namespace TacticalMicrogrid

open TransitionSystem

namespace ControllerSelector

/-! ### The ages that are computed -/

section Reads

variable {τ : Type} [TimePoint τ] (s : ControllerSelector τ) (now : ℤ)

/-- The keys of `all_controllers_`, in their order. -/
def knownIds : OrderedSet Identity := .ofList s.allControllers.keys

/-- The controller is known, and its last heartbeat is recent. -/
def recent (id : Identity) : Bool := (s.allControllers.find? id).any (isRecent now)

/-- The controllers whose ages the loop of `select_controller` computes. -/
def selectReads : List PrioritizedController := s.prioritizedControllers.walk (s.available now)

/-- The controllers whose ages the loop of the MissedHeartbeat handler computes. -/
def missedHeartbeatReads : List Identity := s.knownIds.walk (s.recent now)

/-- The controllers whose ages the loops compute. -/
def agesRead : List Identity := (s.selectReads now).map (·.id) ++ s.missedHeartbeatReads now

variable {s now}

omit [TimePoint τ] in
theorem mem_knownIds {id : Identity} : id ∈ s.knownIds ↔ id ∈ s.allControllers := by
  rw [knownIds, OrderedSet.mem_ofList, AList.mem_keys]

theorem available_eq_recent (pc : PrioritizedController) :
    s.available now pc = s.recent now pc.id := by
  rw [available, recent]
  cases s.allControllers.find? pc.id <;> rfl

theorem recent_iff {id : Identity} : s.recent now id = true ↔
    ∃ t, s.allControllers.find? id = some t ∧ isRecent now t = true := by
  rw [recent, Option.any_eq_true]

/-- What the loop of the MissedHeartbeat handler finds is among the ages that it computes. -/
theorem noAvailMc_iff_reads :
    s.noAvailMc now = true ↔ ∀ id ∈ s.missedHeartbeatReads now, s.recent now id = false := by
  rw [noAvailMc_iff]
  constructor
  · intro h id _
    by_contra hrecent
    obtain ⟨t, ht, hlt⟩ := recent_iff.mp (Bool.not_eq_false _ ▸ hrecent)
    exact Bool.false_ne_true ((h id t ht).symm.trans hlt)
  · intro h id t ht
    by_contra hlt
    have hrecent : s.recent now id = true := recent_iff.mpr ⟨t, ht, Bool.not_eq_false _ ▸ hlt⟩
    cases hfirst : s.knownIds.first? (s.recent now) with
    | none =>
      have hnot := OrderedSet.first?_eq_none_iff.mp hfirst id
        (mem_knownIds.mpr (Table.mem_of_find? ht))
      exact Bool.false_ne_true (hnot.symm.trans hrecent)
    | some id' =>
      have hnot := h id' (OrderedSet.mem_walk_of_first? hfirst)
      exact Bool.false_ne_true (hnot.symm.trans (OrderedSet.first?_eq_some_iff.mp hfirst).1.2)

/-- `select_controller` selects one of the controllers whose ages it computes. -/
theorem mem_selectReads_of_selectController (hwf : s.WellFormed) {sel : Identity}
    {s' : ControllerSelector τ} {effects : List Effect}
    (hok : { s with selected := sel }.selectController now = .ok (s', effects))
    (hne : s'.selected ≠ sel) : ∃ pc ∈ s.selectReads now, pc.id = s'.selected := by
  rcases selectController_cases hwf now sel with
    ⟨msg, herror, -⟩ | ⟨-, hnone⟩ | ⟨pc, hfirst, -, hselect⟩
  · rw [herror] at hok
    cases hok
  · obtain ⟨rfl, -⟩ := Prod.mk.inj (Except.ok.inj (hnone.symm.trans hok))
    exact absurd rfl hne
  · obtain ⟨rfl, -⟩ := Prod.mk.inj (Except.ok.inj (hselect.symm.trans hok))
    exact ⟨pc, OrderedSet.mem_walk_of_first? hfirst, rfl⟩

end Reads

/-! ### Sound ages -/

/-- The controller is known from its `DeviceInfo` only. -/
def NeverHeard (s : ControllerSelector Int64) (id : Identity) : Prop :=
  s.allControllers.find? id = some TimePoint.min

instance (s : ControllerSelector Int64) (id : Identity) : Decidable (s.NeverHeard id) :=
  inferInstanceAs (Decidable (_ = _))

/-- The controller has been heard from, less than the deadline ago. -/
def HasRecentHeartbeat (s : ControllerSelector Int64) (now : ℤ) (id : Identity) : Prop :=
  ∃ t ∈ s.allControllers.find? id, t ≠ TimePoint.min ∧ now - t.toInt < heartbeatDeadline

instance (s : ControllerSelector Int64) (now : ℤ) (id : Identity) :
    Decidable (s.HasRecentHeartbeat now id) :=
  inferInstanceAs (Decidable (∃ t ∈ s.allControllers.find? id, _))

/-- The ages that are computed at a clock reading do not overflow, and a controller known only from
its `DeviceInfo` is not recent, is not selected, and does not count when NoControllers is to be
started. -/
structure AgesSound (s : ControllerSelector Int64) (now : ℤ) : Prop where
  inRange : ∀ id ∈ s.agesRead now, ∀ t ∈ s.allControllers.find? id,
    Int64.minValue.toInt ≤ now - t.toInt ∧ now - t.toInt ≤ Int64.maxValue.toInt
  notRecent : ∀ id ∈ s.agesRead now, s.NeverHeard id → s.recent now id = false
  notSelected : ∀ sel s' effects, { s with selected := sel }.selectController now =
    .ok (s', effects) → s'.selected ≠ sel → ¬s.NeverHeard s'.selected
  notCounted : s.noAvailMc now = true ↔ ∀ id t, s.allControllers.find? id = some t →
    ¬s.NeverHeard id → isRecent now t = false

/-- Before every controller that was never heard from, by priority and by id, there is one that was
heard from recently. -/
structure HeardFirst (s : ControllerSelector Int64) (now : ℤ) : Prop where
  byPriority : ∀ pc ∈ s.prioritizedControllers, s.NeverHeard pc.id →
    ∃ pc' ∈ s.prioritizedControllers, pc' < pc ∧ s.HasRecentHeartbeat now pc'.id
  byId : ∀ id ∈ s.knownIds, s.NeverHeard id → ∃ id' ∈ s.knownIds, id' < id ∧
    s.HasRecentHeartbeat now id'

instance (s : ControllerSelector Int64) (now : ℤ) : Decidable (s.HeardFirst now) :=
  decidable_of_iff
    ((∀ pc ∈ s.prioritizedControllers.toList, s.NeverHeard pc.id →
      ∃ pc' ∈ s.prioritizedControllers.toList, pc' < pc ∧ s.HasRecentHeartbeat now pc'.id) ∧
    ∀ id ∈ s.knownIds.toList, s.NeverHeard id → ∃ id' ∈ s.knownIds.toList, id' < id ∧
      s.HasRecentHeartbeat now id')
    ⟨fun h => ⟨h.1, h.2⟩, fun h => ⟨h.1, h.2⟩⟩

/-- All clock readings of a run are after the epoch. -/
def AfterEpoch (tr : Trace Int64) : Prop := ∀ t ∈ tr, 0 ≤ t.label.event.now

instance (tr : Trace Int64) : Decidable (AfterEpoch tr) :=
  inferInstanceAs (Decidable (∀ t ∈ tr, _))

/-- The time of every heartbeat is a reading between the epoch and the clock. -/
def HeardInRange (c : Config Int64) : Prop :=
  ∀ id t, c.selector.allControllers.find? id = some t →
    t = TimePoint.min ∨ 0 ≤ t.toInt ∧ t.toInt ≤ c.clock

section Steps

variable {s s' : ControllerSelector Int64} {now : ℤ}

theorem toInt_now (hepoch : 0 ≤ now) (hnow : now < 2 ^ 63) :
    (TimePoint.now now : Int64).toInt = now :=
  Int64.toInt_ofInt_of_le (by linarith) hnow

/-- A controller that was never heard from is recent at every reading after the epoch: its age
wraps around to `now - 2 ^ 63`. -/
theorem isRecent_min (hepoch : 0 ≤ now) (hnow : now < 2 ^ 63) :
    isRecent now (TimePoint.min : Int64) = true := by
  have hage : (Int64.ofInt now - Int64.minValue).toInt = now - 2 ^ 63 := by
    rw [Int64.toInt_sub, Int64.toInt_ofInt_of_le (by linarith) hnow, Int64.toInt_minValue,
      Int.bmod_def]
    omega
  have hdeadline : (0 : ℤ) < heartbeatDeadline := by decide
  refine isRecent_iff.mpr ⟨now - 2 ^ 63, congrArg some hage, ?_⟩
  linarith

/-- The age of a heartbeat does not overflow. -/
theorem age_eq_of_heard {t : Int64} (h0 : 0 ≤ t.toInt) (hle : t.toInt ≤ now)
    (hnow : now < 2 ^ 63) : TimePoint.age now t = some (now - t.toInt) := by
  change some (Int64.ofInt now - t).toInt = _
  rw [Int64.toInt_sub, Int64.toInt_ofInt_of_le (by linarith) hnow, Int.bmod_def]
  congr 1
  omega

/-- A controller is recent if it was heard from recently or was never heard from. -/
theorem recent_iff_heard {c : Config Int64} (h : HeardInRange c) (hclock : c.clock ≤ now)
    (hepoch : 0 ≤ now) (hnow : now < 2 ^ 63) {id : Identity} : c.selector.recent now id = true ↔
      c.selector.NeverHeard id ∨ c.selector.HasRecentHeartbeat now id := by
  rw [recent_iff]
  constructor
  · rintro ⟨t, ht, hrecent⟩
    by_cases hmin : t = TimePoint.min
    · exact Or.inl (ht.trans (congrArg some hmin))
    · obtain ⟨h0, hle⟩ := (h id t ht).resolve_left hmin
      obtain ⟨d, hage, hlt⟩ := isRecent_iff.mp hrecent
      rw [age_eq_of_heard h0 (hle.trans hclock) hnow] at hage
      exact Or.inr ⟨t, ht, hmin, Option.some.inj hage ▸ hlt⟩
  · rintro (hnever | ⟨t, ht, hmin, hlt⟩)
    · exact ⟨_, hnever, isRecent_min hepoch hnow⟩
    · obtain ⟨h0, hle⟩ := (h id t ht).resolve_left hmin
      exact ⟨t, ht, isRecent_iff.mpr ⟨_, age_eq_of_heard h0 (hle.trans hclock) hnow, hlt⟩⟩

/-- The loop of `select_controller` computes the age of no controller that was never heard from, if
and only if it meets one that was heard from recently before it. -/
theorem forall_selectReads_iff {c : Config Int64} (h : HeardInRange c) (hclock : c.clock ≤ now)
    (hepoch : 0 ≤ now) (hnow : now < 2 ^ 63) :
    (∀ pc ∈ c.selector.selectReads now, ¬c.selector.NeverHeard pc.id) ↔
      ∀ pc ∈ c.selector.prioritizedControllers, c.selector.NeverHeard pc.id →
        ∃ pc' ∈ c.selector.prioritizedControllers,
          pc' < pc ∧ c.selector.HasRecentHeartbeat now pc'.id :=
  OrderedSet.forall_walk_not_iff
    (P := fun pc : PrioritizedController => c.selector.NeverHeard pc.id)
    (Q := fun pc : PrioritizedController => c.selector.HasRecentHeartbeat now pc.id) fun pc _ => by
      rw [available_eq_recent, recent_iff_heard h hclock hepoch hnow]

/-- The loops compute the age of no controller that was never heard from, if and only if both meet
one that was heard from recently before it. -/
theorem forall_agesRead_iff {c : Config Int64} (h : HeardInRange c) (hclock : c.clock ≤ now)
    (hepoch : 0 ≤ now) (hnow : now < 2 ^ 63) :
    (∀ id ∈ c.selector.agesRead now, ¬c.selector.NeverHeard id) ↔ c.selector.HeardFirst now := by
  have hselect := forall_selectReads_iff h hclock hepoch hnow
  have hmissed := OrderedSet.forall_walk_not_iff (s := c.selector.knownIds)
    (p := c.selector.recent now) (P := c.selector.NeverHeard)
    (Q := c.selector.HasRecentHeartbeat now) fun id _ => recent_iff_heard h hclock hepoch hnow
  rw [agesRead, List.forall_mem_append, List.forall_mem_map]
  constructor
  · exact fun hnot => ⟨hselect.mp hnot.1, hmissed.mp hnot.2⟩
  · exact fun hfirst => ⟨hselect.mpr hfirst.byPriority, hmissed.mpr hfirst.byId⟩

/-- A heartbeat at a reading in range is not taken for no heartbeat. -/
theorem HeardInRange.of_outcome {c : Config Int64} {i : Input} {effects : List Effect}
    (h : HeardInRange c) (hclock : c.clock ≤ now) (hepoch : 0 ≤ now) (hnow : now < 2 ^ 63)
    (hout : Outcome c.selector now i s' effects) : HeardInRange ⟨s', now⟩ := by
  have hold : HeardInRange ⟨c.selector, now⟩ := fun id t ht =>
    (h id t ht).imp_right fun hrange => ⟨hrange.1, hrange.2.trans hclock⟩
  have hheard : ∀ id, HeardInRange ⟨c.selector.heard now id, now⟩ := by
    intro id id' t ht
    rw [heard, Table.find?_set] at ht
    split_ifs at ht
    · obtain rfl := Option.some.inj ht
      exact Or.inr ⟨by rwa [toInt_now hepoch hnow], (toInt_now hepoch hnow).le⟩
    · exact hold id' t ht
  cases hout with
  | deviceInfoNew di =>
    intro id t ht
    rw [Table.find?_set] at ht
    split_ifs at ht
    · exact Or.inl (Option.some.inj ht).symm
    · exact hold id t ht
  | heartbeatWaiting hb | heartbeatFirst hb | heartbeatOther hb | heartbeatSelected hb
  | heartbeatResumed hb => exact hheard hb.deviceId
  | _ => exact hold

end Steps

/-! ### Runs -/

theorem IsSelectorRun.heardInRange {tr : Trace Int64} {c : Config Int64} (h : IsSelectorRun tr c)
    (hepoch : AfterEpoch tr) (hclock : c.clock < 2 ^ 63) : HeardInRange c := by
  revert hepoch hclock
  refine h.traceInvariant (P := fun tr c => AfterEpoch tr → c.clock < 2 ^ 63 → HeardInRange c)
    (fun _ _ _ _ _ id t ht => by simp [Config.init] at ht) ?_
  intro tr c e s' effects hrun hrange henabled hout hepoch hclock
  have hbefore := hrange (fun t ht => hepoch t (List.mem_append_left _ ht))
    (henabled.1.trans_lt hclock)
  exact hbefore.of_outcome henabled.1 (hepoch _ (List.mem_append_right _ List.mem_cons_self))
    hclock hout

/-- **Ages in 64-bit arithmetic.** After a run whose clock readings are all after the epoch, and at
every later reading that a signed 64-bit number holds: the ages that are computed do not overflow,
and controllers that were never heard from are neither recent nor selected nor counted, if and only
if both loops meet a controller that was heard from recently before any of them. -/
theorem agesSound_iff {tr : Trace Int64} {c : Config Int64} (h : IsSelectorRun tr c)
    (hepoch : AfterEpoch tr) {now : ℤ} (hclock : c.clock ≤ now) (hpos : 0 ≤ now)
    (hnow : now < 2 ^ 63) :
    AgesSound c.selector now ↔ c.selector.HeardFirst now := by
  have hrange := h.heardInRange hepoch (hclock.trans_lt hnow)
  have hrecent : ∀ id, c.selector.recent now id = true ↔ _ := fun id =>
    recent_iff_heard hrange hclock hpos hnow
  rw [← forall_agesRead_iff hrange hclock hpos hnow]
  constructor
  · intro hsound id hid hnever
    have hnot := hsound.notRecent id hid hnever
    exact Bool.false_ne_true (hnot.symm.trans ((hrecent id).mpr (Or.inl hnever)))
  · intro hnot
    refine ⟨fun id hid t ht => ?_, fun id hid hnever => absurd hnever (hnot id hid),
      fun sel s' effects hok hne => ?_, ?_⟩
    · rcases hrange id t ht with rfl | ⟨h0, hle⟩
      · exact absurd ht (hnot id hid)
      · rw [Int64.toInt_minValue, Int64.toInt_maxValue]
        constructor <;> linarith
    · obtain ⟨pc, hpc, hid⟩ := mem_selectReads_of_selectController h.wellFormed hok hne
      exact hid ▸ hnot pc.id (List.mem_append_left _ (List.mem_map_of_mem hpc))
    · constructor
      · exact fun hnone id t ht _ => noAvailMc_iff.mp hnone id t ht
      · intro hheard
        refine noAvailMc_iff_reads.mpr fun id hid => ?_
        by_contra hne
        obtain ⟨t, ht, hlt⟩ := recent_iff.mp (Bool.not_eq_false _ ▸ hne)
        have hfalse := hheard id t ht (hnot id (List.mem_append_right _ hid))
        exact Bool.false_ne_true (hfalse.symm.trans hlt)

/-- A selector that has selected a controller it hears from. It knows another one from its
`DeviceInfo` only, which comes behind. -/
theorem agesSound_of_heard : ∃ (tr : Trace Int64) (c : Config Int64),
    IsSelectorRun tr c ∧ c.selector.selected = "mc1" ∧ c.selector.NeverHeard "mc2" ∧
      AgesSound c.selector (Sec 5) :=
  have hrun := isSelectorRun_of_follow "dev" {} 0
    [⟨0, .deviceInfo ⟨"mc1", .microgridController, none⟩⟩,
      ⟨0, .deviceInfo ⟨"mc2", .microgridController, none⟩⟩, ⟨Sec 1, .heartbeat ⟨"mc1", 0⟩⟩,
      ⟨Sec 3, .heartbeat ⟨"mc1", 1⟩⟩, ⟨Sec 4, .timeout .newController⟩] rfl
  ⟨_, _, hrun, rfl, by decide,
    (agesSound_iff hrun (by decide) (by decide) (by decide) (by decide)).mpr (by decide)⟩

/-- Of two known controllers the selector hears from the second one only, and selects the first
one. -/
theorem selects_never_heard : ∃ (tr : Trace Int64) (c : Config Int64),
    IsSelectorRun tr c ∧ AfterEpoch tr ∧ c.selector.selected = "mc1" ∧
      c.selector.NeverHeard "mc1" ∧ ¬AgesSound c.selector c.clock :=
  have hrun := isSelectorRun_of_follow "dev" {} 0
    [⟨0, .deviceInfo ⟨"mc1", .microgridController, none⟩⟩,
      ⟨0, .deviceInfo ⟨"mc2", .microgridController, none⟩⟩, ⟨Sec 1, .heartbeat ⟨"mc2", 0⟩⟩,
      ⟨Sec 3, .heartbeat ⟨"mc2", 1⟩⟩, ⟨Sec 4, .timeout .newController⟩] rfl
  ⟨_, _, hrun, by decide, by decide, by decide,
    fun hsound => absurd (hsound.notRecent "mc1" (by decide) (by decide)) (by decide)⟩

end ControllerSelector

end TacticalMicrogrid
