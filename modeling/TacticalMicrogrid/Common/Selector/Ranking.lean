import TacticalMicrogrid.Common.Selector.TimerStates

/-!
# Which controller is selected

`select_controller` walks along the controllers by priority and takes the first one that was heard
from less than three seconds ago. If every controller is always advertised with one ranking, this
is the least controller by ranking and id among them. So the choice depends on the rankings and on
which controllers are recent, and not on the order in which the `DeviceInfo`s came in.

## Main definitions

* `ControllerSelector.deviceInfos`, `ControllerSelector.AdvertisedAs`.
* `ControllerSelector.HeardRecently`, `ControllerSelector.Preferred`, `ControllerSelector.Selects`.
* `ControllerSelector.SelectsByRank`: what `select_controller` is for.

## Main results

* `ControllerSelector.selection_by_rank`: after every run `select_controller` selects by rank, and
  two devices with the same `DeviceInfo`s and the same recent controllers select the same one.
-/

namespace TacticalMicrogrid

open TransitionSystem

namespace ControllerSelector

/-! ### Advertised rankings -/

section Advertised

variable {τ : Type}

/-- The `DeviceInfo` of an input. -/
def Input.deviceInfo? : Input → Option DeviceInfo
  | .deviceInfo di => some di
  | .heartbeat _ | .timeout _ => none

/-- The `DeviceInfo`s that a device has received. -/
def deviceInfos (tr : Trace τ) : List DeviceInfo := tr.filterMap (·.label.event.input.deviceInfo?)

/-- Every controller is always advertised with the ranking that `rank` gives it. -/
def AdvertisedAs (rank : Identity → UInt16) (tr : Trace τ) : Prop :=
  ∀ di ∈ deviceInfos tr, di.role = .microgridController →
    PrioritizedController.ranking di = rank di.deviceId

instance (rank : Identity → UInt16) (tr : Trace τ) : Decidable (AdvertisedAs rank tr) :=
  inferInstanceAs (Decidable (∀ di ∈ deviceInfos tr, _))

/-- The controllers are filed under their rankings. -/
def FiledAs (rank : Identity → UInt16) (s : ControllerSelector τ) : Prop :=
  ∀ pc ∈ s.prioritizedControllers, pc.priority = rank pc.id

theorem deviceInfos_append (tr tr' : Trace τ) :
    deviceInfos (tr ++ tr') = deviceInfos tr ++ deviceInfos tr' := List.filterMap_append

theorem IsSelectorRun.filedAs [TimePoint τ] {rank : Identity → UInt16} {tr : Trace τ} {c : Config τ}
    (h : IsSelectorRun tr c) (hrank : AdvertisedAs rank tr) : FiledAs rank c.selector := by
  revert hrank
  refine h.traceInvariant (P := fun tr c => AdvertisedAs rank tr → FiledAs rank c.selector)
    (fun _ _ _ _ pc hpc => absurd hpc (OrderedSet.notMem_empty pc)) ?_
  intro tr c e s' effects hrun hfiled henabled hout hrank
  rw [AdvertisedAs, deviceInfos_append] at hrank
  have hold : FiledAs rank c.selector := hfiled fun di hdi => hrank di (List.mem_append_left _ hdi)
  obtain ⟨now, i⟩ := e
  cases hout with
  | deviceInfoNew di hrole hnew =>
    intro pc hpc
    rcases OrderedSet.mem_insert.mp hpc with rfl | hpc
    · exact hrank di (List.mem_append_right _ List.mem_cons_self) hrole
    · exact hold pc hpc
  | _ => exact hold

end Advertised

/-! ### The preferred controller -/

/-- The last heartbeat of a known controller is less than three seconds old. -/
def HeardRecently (s : ControllerSelector ExactTime) (now : ℤ) (id : Identity) : Prop :=
  ∃ t ∈ s.lastHeard id, now - t < heartbeatDeadline

/-- The controllers heard from recently. -/
def recentIds (s : ControllerSelector ExactTime) (now : ℤ) : List Identity :=
  (s.allControllers.entries.filter fun entry => isRecent now entry.2).map (·.1)

/-- The controller is the least one by ranking and id among those heard from recently. -/
structure Preferred (rank : Identity → UInt16) (s : ControllerSelector ExactTime) (now : ℤ)
    (id : Identity) : Prop where
  recent : s.HeardRecently now id
  least : ∀ id', s.HeardRecently now id' → rank id < rank id' ∨ rank id = rank id' ∧ id ≤ id'

/-- `select_controller` returns with the controller selected. -/
def Selects (s : ControllerSelector ExactTime) (now : ℤ) (id : Identity) : Prop :=
  ∃ s' effects, s.selectController now = .ok (s', effects) ∧ s'.selected = id

/-- `select_controller` selects the preferred controller; there is one if some controller was heard
from recently, and otherwise it changes nothing. -/
structure SelectsByRank (rank : Identity → UInt16) (s : ControllerSelector ExactTime) (now : ℤ) :
    Prop where
  preferred : s.missedHeartbeat.active = false → ∀ id, s.Preferred rank now id → s.Selects now id
  exists_preferred : ∀ id, s.HeardRecently now id → ∃ id', s.Preferred rank now id'
  unchanged : (∀ id, ¬s.HeardRecently now id) → s.selectController now = .ok (s, [])

section Preferred

variable {rank : Identity → UInt16} {s : ControllerSelector ExactTime} {now : ℤ}
  {pc : PrioritizedController} {id id' : Identity}

theorem available_iff_heardRecently : s.available now pc = true ↔ s.HeardRecently now pc.id := by
  rw [available, HeardRecently, lastHeard]
  cases s.allControllers.find? pc.id with
  | none => simp
  | some t => cases t <;> simp [isRecent]

theorem mem_recentIds : id ∈ s.recentIds now ↔ s.HeardRecently now id := by
  simp only [recentIds, List.mem_map, List.mem_filter, Sigma.exists, Table.mem_entries_iff,
    exists_and_right, exists_eq_right, HeardRecently, lastHeard_eq_some_iff, Option.mem_def]
  constructor
  · rintro ⟨_ | t, ht, hrecent⟩
    · simp [isRecent] at hrecent
    · exact ⟨t, ht, by simpa [isRecent] using hrecent⟩
  · rintro ⟨t, ht, hlt⟩
    exact ⟨some t, ht, by simpa [isRecent] using hlt⟩

theorem forall_not_heardRecently_iff : (∀ id, ¬s.HeardRecently now id) ↔ ¬s.SomeRecent now := by
  rw [not_someRecent_iff, forall_isRecent_eq_false_iff]
  simp only [HeardRecently, not_exists, not_and, not_lt]

theorem Preferred.unique (h : s.Preferred rank now id) (h' : s.Preferred rank now id') :
    id = id' := by
  rcases h.least id' h'.recent with hlt | ⟨heq, hle⟩ <;>
    rcases h'.least id h.recent with hlt' | ⟨heq', hle'⟩
  · exact absurd hlt' (UInt16.lt_asymm hlt)
  · exact absurd heq'.symm (UInt16.ne_of_lt hlt)
  · exact absurd heq.symm (UInt16.ne_of_lt hlt')
  · exact le_antisymm hle hle'

/-- The first available controller of the walk is the preferred one. -/
theorem Preferred.of_first? (hwf : s.WellFormed) (hfiled : FiledAs rank s)
    (h : s.prioritizedControllers.first? (s.available now) = some pc) :
    s.Preferred rank now pc.id := by
  obtain ⟨⟨hpc, havail⟩, hleast⟩ := OrderedSet.first?_eq_some_iff.mp h
  refine ⟨available_iff_heardRecently.mp havail, fun other hrecent => ?_⟩
  have ⟨t, ht, _⟩ := hrecent
  obtain ⟨q, hq, rfl⟩ := hwf.mem_iff.mp (Table.mem_of_find? (lastHeard_eq_some_iff.mp ht))
  have hle := hleast ⟨hq, available_iff_heardRecently.mpr hrecent⟩
  rw [PrioritizedController.le_def, PrioritizedController.tie, PrioritizedController.tie,
    Prod.Lex.toLex_le_toLex, hfiled pc hpc, hfiled q hq] at hle
  exact hle.imp UInt16.lt_iff_toNat_lt.mpr (And.imp_left UInt16.toNat.inj)

/-- If a controller was heard from recently, the walk finds the preferred one. -/
theorem Preferred.exists_first? (hwf : s.WellFormed) (hfiled : FiledAs rank s)
    (h : s.HeardRecently now id) :
    ∃ pc, s.prioritizedControllers.first? (s.available now) = some pc ∧
      s.Preferred rank now pc.id := by
  cases hpc : s.prioritizedControllers.first? (s.available now) with
  | some pc => exact ⟨pc, rfl, .of_first? hwf hfiled hpc⟩
  | none =>
    have hnone := not_someRecent_iff.mpr ((first?_available_eq_none_iff hwf).mp hpc)
    exact absurd h (forall_not_heardRecently_iff.mpr hnone id)

/-- If a controller was heard from recently, the selected one is the preferred one. -/
theorem Selects.preferred (hwf : s.WellFormed) (hfiled : FiledAs rank s) {sel : Identity}
    (h : { s with selected := sel }.Selects now id) (hrecent : s.HeardRecently now id') :
    s.Preferred rank now id := by
  obtain ⟨s', effects, hok, rfl⟩ := h
  rcases selectController_cases hwf now sel with
    ⟨msg, herror, -⟩ | ⟨hnone, -⟩ | ⟨pc, hpc, -, hselect⟩
  · rw [herror] at hok
    cases hok
  · exact absurd hrecent (forall_not_heardRecently_iff.mpr (not_someRecent_iff.mpr hnone) id')
  · obtain ⟨rfl, -⟩ := Prod.mk.inj (Except.ok.inj (hselect.symm.trans hok))
    exact .of_first? hwf hfiled hpc

/-- `select_controller` selects by rank, whatever is selected before. -/
theorem SelectsByRank.of_filedAs (hwf : s.WellFormed) (hfiled : FiledAs rank s) (now : ℤ)
    (sel : Identity) : SelectsByRank rank { s with selected := sel } now where
  preferred hinactive id hid := by
    rcases selectController_cases hwf now sel with
      ⟨msg, -, -, hactive⟩ | ⟨hnone, -⟩ | ⟨pc, hpc, -, hselect⟩
    · exact absurd (hinactive.symm.trans hactive) Bool.false_ne_true
    · exact absurd hid.recent
        (forall_not_heardRecently_iff.mpr (not_someRecent_iff.mpr hnone) id)
    · exact ⟨_, _, hselect, (Preferred.of_first? hwf hfiled hpc).unique ⟨hid.recent, hid.least⟩⟩
  exists_preferred id hid := by
    obtain ⟨pc, -, hpreferred⟩ := Preferred.exists_first? hwf hfiled hid
    exact ⟨pc.id, hpreferred.recent, hpreferred.least⟩
  unchanged hnone := by
    rcases selectController_cases hwf now sel with
      ⟨msg, -, hrecent, -⟩ | ⟨-, hok⟩ | ⟨pc, hpc, -⟩
    · exact absurd hrecent (forall_not_heardRecently_iff.mp hnone)
    · exact hok
    · exact absurd (someRecent_of_first? hpc) (forall_not_heardRecently_iff.mp hnone)

end Preferred

/-! ### Runs -/

/-- **Selection by rank.** After a run in which every controller is always advertised with one
ranking: the two containers hold the same ids, each once, so that every lookup of
`select_controller` succeeds; `select_controller` selects the controller that is least by ranking
and id among those heard from less than three seconds ago, and changes nothing if there is none; it
is called with MissedHeartbeat inactive; and another device that has received the same
`DeviceInfo`s, in whatever order, and agrees on the recent controllers selects the same one. -/
theorem selection_by_rank (rank : Identity → UInt16) {tr : Trace ExactTime} {c : Config ExactTime}
    (h : IsSelectorRun tr c) (hrank : AdvertisedAs rank tr) :
    (c.selector.prioritizedControllers.toList.map (·.id)).Perm c.selector.allControllers.keys ∧
      c.selector.allControllers.keys.Nodup ∧
      (∀ pc ∈ c.selector.prioritizedControllers,
        ∃ t, c.selector.allControllers.find? pc.id = some t) ∧
      (∀ now sel, SelectsByRank rank { c.selector with selected := sel } now) ∧
      (∀ e, Enabled c e → e.input = .timeout .newController ∨ e.input = .timeout .lostController →
        c.selector.missedHeartbeat.active = false) ∧
      ∀ tr' c', IsSelectorRun tr' c' → (∀ di, di ∈ deviceInfos tr ↔ di ∈ deviceInfos tr') →
        ∀ now now' sel sel' id id',
          (∀ x, c.selector.HeardRecently now x ↔ c'.selector.HeardRecently now' x) →
          (∃ x, c.selector.HeardRecently now x) →
          { c.selector with selected := sel }.Selects now id →
          { c'.selector with selected := sel' }.Selects now' id' → id = id' := by
  have hwf := h.wellFormed
  have hfiled := h.filedAs hrank
  refine ⟨hwf.perm_ids, c.selector.allControllers.nodupKeys, fun pc hpc => ?_,
    .of_filedAs hwf hfiled, fun e he hinput => ?_, ?_⟩
  · exact Table.mem_iff_exists_find?.mp (hwf.mem_iff.mpr ⟨pc, hpc, rfl⟩)
  · obtain ⟨now, i⟩ := e
    have hc := h.timersConsistent
    rcases hinput with rfl | rfl
    · exact (hc.idle (hc.selected_of_newController (active_of_expiry he.2))).1
    · exact hc.missedHeartbeat_of_lostController (active_of_expiry he.2)
  · rintro tr' c' h' hinfos now now' sel sel' id id' hagree ⟨x, hx⟩ hid hid'
    have hfiled' := h'.filedAs fun di hdi => hrank di ((hinfos di).mpr hdi)
    have hpreferred := hid.preferred hwf hfiled hx
    have hpreferred' := hid'.preferred h'.wellFormed hfiled' ((hagree x).mp hx)
    exact hpreferred.unique ⟨(hagree id').mpr hpreferred'.recent,
      fun y hy => hpreferred'.least y ((hagree y).mp hy)⟩

/-- Two devices that hear of two controllers in different orders, and from them at different
times, select the same one. -/
theorem selection_by_rank_of_two : ∃ (tr tr' : Trace ExactTime) (c c' : Config ExactTime),
    IsSelectorRun tr c ∧ IsSelectorRun tr' c' ∧ deviceInfos tr ≠ deviceInfos tr' ∧
      c.selector.Selects (Sec 3) "mc2" ∧ c'.selector.Selects (Sec 4) "mc2" ∧
      ∀ id id', c.selector.Selects (Sec 3) id → c'.selector.Selects (Sec 4) id' → id = id' :=
  have hrun := isSelectorRun_of_follow "dev1" {} 0
    [⟨0, .deviceInfo ⟨"mc1", .microgridController, some ⟨some ⟨2⟩⟩⟩⟩,
      ⟨0, .deviceInfo ⟨"mc2", .microgridController, some ⟨some ⟨1⟩⟩⟩⟩,
      ⟨Sec 1, .heartbeat ⟨"mc1", 0⟩⟩, ⟨Sec 2, .heartbeat ⟨"mc2", 0⟩⟩] rfl
  have hrun' := isSelectorRun_of_follow "dev2" {} 0
    [⟨0, .deviceInfo ⟨"mc2", .microgridController, some ⟨some ⟨1⟩⟩⟩⟩,
      ⟨Sec 2, .heartbeat ⟨"mc2", 0⟩⟩,
      ⟨Sec 2, .deviceInfo ⟨"mc1", .microgridController, some ⟨some ⟨2⟩⟩⟩⟩,
      ⟨Sec 3, .heartbeat ⟨"mc1", 0⟩⟩] rfl
  have hsame := selection_by_rank (fun id => if id = "mc1" then 2 else 1) hrun (by decide)
  ⟨_, _, _, _, hrun, hrun', by decide, ⟨_, _, rfl, rfl⟩, ⟨_, _, rfl, rfl⟩,
    fun id id' => hsame.2.2.2.2.2 _ _ hrun'
      (fun _ => List.Perm.mem_iff (by decide)) (Sec 3) (Sec 4) "" "" id id'
      (fun x => by rw [← mem_recentIds, ← mem_recentIds]; exact List.Perm.mem_iff (by decide))
      ⟨"mc1", mem_recentIds.mp (by decide)⟩⟩

end ControllerSelector

end TacticalMicrogrid
