import TacticalMicrogrid.Common.Selector.Ranking
import TacticalMicrogrid.Library.KeepLast

/-!
# Rankings that are advertised again

A controller may advertise itself again with another `priorityRanking`, for example after a restart.
`DeviceInfo` is written with the profile `PublishLast`, so a device that joins late receives the
last `DeviceInfo` of each device only, and files each controller under the ranking advertised last.
`got_device_info` ignores a controller that is known, so a device that was there all the time has
filed it under the ranking advertised first. Both select the same controller whenever no two
controllers have changed their order in between.

## Main definitions

* `ControllerSelector.Received`: a selector that has received some `DeviceInfo`s, and what else.
* `ControllerSelector.latest`: the `DeviceInfo`s that a late joiner receives.
* `ControllerSelector.filedAs`: under which ranking a controller is filed.
* `ControllerSelector.AgreesWithLate`, `ControllerSelector.KeepsOrder`.

## Main results

* `ControllerSelector.Received.mem_iff`: what is filed after a history.
* `ControllerSelector.agreesWithLate_iff`: when a late joiner agrees with a device that was there.
-/

namespace TacticalMicrogrid

namespace ControllerSelector

/-! ### Received device information -/

section Received

variable {τ : Type} [TimePoint τ]

/-- A selector that has received the `DeviceInfo`s in their order, with any heartbeats and any
timeouts in between. -/
inductive Received : List DeviceInfo → ControllerSelector τ → Prop
  | new (deviceId : Identity) (callbacks : ControllerCallbacks) :
      Received [] { deviceId, callbacks }
  | deviceInfo {dis s} (h : Received dis s) (di : DeviceInfo) :
      Received (dis ++ [di]) (s.gotDeviceInfo di)
  | heartbeat {dis s s'} (h : Received dis s) (now : ℤ) (hb : Heartbeat)
      (hok : s.gotHeartbeat now hb = .ok s') : Received dis s'
  | timeout {dis s s' effects} (h : Received dis s) (now : ℤ) (k : TimerKind)
      (hok : s.handleTimeout now k = .ok (s', effects)) : Received dis s'

/-- The controller that `select_controller` hands to `select`, if it finds one. -/
def chosen (s : ControllerSelector τ) (now : ℤ) : Except String (Option Identity) :=
  (s.firstRecent now s.prioritizedControllers.toList).map (Option.map (·.1))

/-- Under what a controller is filed after a history: the first `DeviceInfo` of it counts. -/
def filedAs (dis : List DeviceInfo) (id : Identity) : Option PrioritizedController :=
  (dis.find? fun di => di.role = .microgridController ∧ di.deviceId = id).map .ofDeviceInfo

/-- The `DeviceInfo`s that a late joiner receives: the last one of each device. -/
def latest (dis : List DeviceInfo) : List DeviceInfo :=
  KeepLast.values (dis.foldl (KeepLast.store DeviceInfo.deviceId) ∅)

/-- Under what a controller is to be filed after a history: the last `DeviceInfo` of it counts. -/
def advertisedLast (dis : List DeviceInfo) (id : Identity) : Option PrioritizedController :=
  ((dis.filter (·.deviceId = id)).getLast?.filter (·.role = .microgridController)).map .ofDeviceInfo

/-! ### Filed controllers -/

variable {s s' : ControllerSelector τ} {now : ℤ} {id : Identity} {dis : List DeviceInfo}
  {effects : List Effect}

/-- The selectors know the same controllers, filed under the same rankings. -/
def SameControllers (s s' : ControllerSelector τ) : Prop :=
  s'.prioritizedControllers = s.prioritizedControllers ∧
    ∀ id, id ∈ s'.allControllers ↔ id ∈ s.allControllers

omit [TimePoint τ] in
theorem sameControllers_select {lastHb : Duration}
    (h : s.select now id lastHb = .ok (s', effects)) : SameControllers s s' := by
  obtain ⟨timer, -, h⟩ := exists_of_bind_eq_ok h
  obtain ⟨rfl, -⟩ := Prod.mk.inj (Except.ok.inj h)
  exact ⟨rfl, fun _ => Iff.rfl⟩

theorem sameControllers_selectController (h : s.selectController now = .ok (s', effects)) :
    SameControllers s s' := by
  obtain ⟨found, -, h⟩ := exists_of_bind_eq_ok h
  cases found with
  | none =>
    obtain ⟨rfl, -⟩ := Prod.mk.inj (Except.ok.inj h)
    exact ⟨rfl, fun _ => Iff.rfl⟩
  | some found => exact sameControllers_select h

theorem sameControllers_timerFired {k : TimerKind} (h : s.timerFired now k = .ok (s', effects)) :
    SameControllers s s' := by
  cases k with
  | newController =>
    rw [timerFired] at h
    split_ifs at h
    · exact sameControllers_selectController h
    · obtain ⟨rfl, -⟩ := Prod.mk.inj (Except.ok.inj h)
      exact ⟨rfl, fun _ => Iff.rfl⟩
  | missedHeartbeat =>
    obtain ⟨lost, no, rfl⟩ := exists_of_missedHeartbeat h
    exact ⟨rfl, fun _ => Iff.rfl⟩
  | lostController =>
    obtain ⟨⟨s'', effects'⟩, hselect, h⟩ := exists_of_bind_eq_ok h
    obtain ⟨rfl, -⟩ := Prod.mk.inj (Except.ok.inj h)
    exact sameControllers_selectController (s := { s with selected := "" }) hselect
  | noControllers =>
    obtain ⟨rfl, -⟩ := Prod.mk.inj (Except.ok.inj h)
    exact ⟨rfl, fun _ => Iff.rfl⟩

theorem sameControllers_handleTimeout {k : TimerKind}
    (h : s.handleTimeout now k = .ok (s', effects)) : SameControllers s s' := by
  obtain ⟨⟨s'', effects'⟩, hfired, h⟩ := exists_of_bind_eq_ok h
  obtain ⟨rfl, -⟩ := Prod.mk.inj (Except.ok.inj h)
  have hsame := sameControllers_timerFired hfired
  cases k <;> exact hsame

/-- What a heartbeat leaves in the two containers. -/
theorem gotHeartbeat_controllers {hb : Heartbeat} (h : s.gotHeartbeat now hb = .ok s') :
    s'.prioritizedControllers = s.prioritizedControllers ∧ s'.allControllers =
      if hb.deviceId ∈ s.allControllers then s.allControllers.set hb.deviceId (TimePoint.now now)
      else s.allControllers := by
  obtain ⟨s'', hok, hout⟩ := gotHeartbeat_cases s now hb
  obtain rfl := Except.ok.inj (hok.symm.trans h)
  cases hout with
  | heartbeatUnknown _ hunknown => exact ⟨rfl, (if_neg hunknown).symm⟩
  | heartbeatWaiting _ hknown | heartbeatFirst _ hknown | heartbeatOther _ hknown
  | heartbeatSelected _ hknown | heartbeatResumed _ hknown => exact ⟨rfl, (if_pos hknown).symm⟩

theorem sameControllers_gotHeartbeat {hb : Heartbeat} (h : s.gotHeartbeat now hb = .ok s') :
    SameControllers s s' := by
  obtain ⟨hprioritized, hall⟩ := gotHeartbeat_controllers h
  refine ⟨hprioritized, fun id => ?_⟩
  rw [hall]
  split_ifs with hknown
  · rw [Table.mem_set]
    exact ⟨fun h => h.elim (fun heq => heq ▸ hknown) fun h => h, Or.inr⟩
  · exact Iff.rfl

omit [TimePoint τ] in
theorem id_of_filedAs {pc : PrioritizedController} (h : filedAs dis id = some pc) : pc.id = id := by
  obtain ⟨di, hdi, rfl⟩ := Option.map_eq_some_iff.mp h
  have hmatch := List.find?_some hdi
  rw [decide_eq_true_eq] at hmatch
  exact hmatch.2

/-- A further `DeviceInfo` files a controller that is not filed yet, and no other one. -/
theorem filedAs_snoc {di : DeviceInfo} : filedAs (dis ++ [di]) id =
    (filedAs dis id).or (if di.role = .microgridController ∧ di.deviceId = id then
      some (.ofDeviceInfo di) else none) := by
  rw [filedAs, List.find?_append, filedAs]
  cases dis.find? fun di => di.role = .microgridController ∧ di.deviceId = id with
  | some first => rfl
  | none =>
    simp only [Option.none_or, Option.map_none, List.find?_singleton, decide_eq_true_eq]
    split_ifs <;> rfl

/-- **What is filed.** Of each known controller the first `DeviceInfo` counts, whatever else the
device has received. -/
theorem Received.filed (h : Received dis s) :
    (∀ pc, pc ∈ s.prioritizedControllers ↔ filedAs dis pc.id = some pc) ∧
      ∀ id, id ∈ s.allControllers ↔ (filedAs dis id).isSome := by
  induction h with
  | new deviceId callbacks =>
    exact ⟨fun pc => iff_of_false (OrderedSet.notMem_empty pc) (Option.some_ne_none pc).symm,
      fun id => iff_of_false (AList.notMem_empty id) Bool.false_ne_true⟩
  | heartbeat h now hb hok ih =>
    obtain ⟨hprioritized, hall⟩ := sameControllers_gotHeartbeat hok
    exact ⟨fun pc => hprioritized ▸ ih.1 pc, fun id => (hall id).trans (ih.2 id)⟩
  | timeout h now k hok ih =>
    obtain ⟨hprioritized, hall⟩ := sameControllers_handleTimeout hok
    exact ⟨fun pc => hprioritized ▸ ih.1 pc, fun id => (hall id).trans (ih.2 id)⟩
  | @deviceInfo dis s h di ih =>
    simp only [filedAs_snoc]
    rw [gotDeviceInfo]
    split_ifs with hnew
    · have hnone : filedAs dis di.deviceId = none := by
        simpa using mt (ih.2 di.deviceId).mpr hnew.2
      constructor
      · intro pc
        rw [OrderedSet.mem_insert, ih.1]
        by_cases hid : di.deviceId = pc.id
        · rw [← hid, hnone, if_pos ⟨hnew.1, rfl⟩]
          simp [eq_comm]
        · rw [if_neg fun h => hid h.2, Option.or_none, or_iff_right]
          rintro rfl
          exact hid rfl
      · intro id
        rw [Table.mem_set, ih.2]
        by_cases hid : di.deviceId = id
        · rw [if_pos ⟨hnew.1, hid⟩]
          simp [hid.symm]
        · rw [if_neg fun h => hid h.2, Option.or_none, or_iff_right (Ne.symm hid)]
    · have hold : ∀ id, (filedAs dis id).or (if di.role = .microgridController ∧ di.deviceId = id
          then some (.ofDeviceInfo di) else none) = filedAs dis id := by
        intro id
        split_ifs with hid
        · have hknown : di.deviceId ∈ s.allControllers := by
            by_contra hunknown
            exact hnew ⟨hid.1, hunknown⟩
          obtain ⟨pc, hpc⟩ := Option.isSome_iff_exists.mp ((ih.2 _).mp hknown)
          rw [← hid.2, hpc]
          rfl
        · exact Option.or_none
      simp only [hold]
      exact ih

omit [TimePoint τ] in
/-- A late joiner files each controller under what it has advertised last, in whatever order it
receives the `DeviceInfo`s. -/
theorem filedAs_of_perm {late : List DeviceInfo} (h : late.Perm (latest dis)) :
    filedAs late id = advertisedLast dis id := by
  have hmem : ∀ di, di ∈ late ↔ (dis.filter (·.deviceId = di.deviceId)).getLast? = some di :=
    fun di => h.mem_iff.trans KeepLast.mem_values_foldl_store
  have hfirst : ∀ di, late.find? (fun di => di.role = .microgridController ∧ di.deviceId = id) =
      some di → di ∈ late ∧ di.role = .microgridController ∧ di.deviceId = id := by
    intro di hdi
    exact ⟨List.mem_of_find?_eq_some hdi, by simpa using List.find?_some hdi⟩
  rw [filedAs, advertisedLast]
  congr 1
  cases hlast : (dis.filter (·.deviceId = id)).getLast? with
  | none =>
    refine Option.eq_none_iff_forall_ne_some.mpr fun di hdi => ?_
    obtain ⟨hlate, -, rfl⟩ := hfirst di hdi
    cases hlast.symm.trans ((hmem di).mp hlate)
  | some last =>
    obtain rfl : last.deviceId = id := by
      simpa using (List.mem_filter.mp (List.mem_of_getLast? hlast)).2
    cases hfind : late.find? fun di => di.role = .microgridController ∧
        di.deviceId = last.deviceId with
    | some di =>
      obtain ⟨hlate, hrole, hid⟩ := hfirst di hfind
      have hsame := (hmem di).mp hlate
      rw [hid, hlast] at hsame
      obtain rfl := Option.some.inj hsame
      rw [Option.filter_some, if_pos (decide_eq_true hrole)]
    | none =>
      have hrole := List.find?_eq_none.mp hfind last ((hmem last).mpr hlast)
      rw [Option.filter_some, if_neg]
      simpa using hrole

end Received

/-! ### The controller chosen -/

section Chosen

variable {s : ControllerSelector ExactTime} {now : ℤ} {dis : List DeviceInfo} {p : Identity}

theorem Received.known_of_heardRecently (h : Received dis s) (hrecent : s.HeardRecently now p) :
    ∃ a, filedAs dis p = some a := by
  obtain ⟨t, ht, -⟩ := hrecent
  exact Option.isSome_iff_exists.mp
    ((h.filed.2 p).mp (Table.mem_of_find? (lastHeard_eq_some_iff.mp ht)))

/-- `select_controller` never uses `end()`. -/
theorem Received.chosen_eq (h : Received dis s) (now : ℤ) : s.chosen now =
    .ok ((s.prioritizedControllers.first? (s.available now)).map (·.id)) := by
  have hmem : ∀ pc ∈ s.prioritizedControllers.toList, pc.id ∈ s.allControllers := by
    intro pc hpc
    rw [h.filed.2, (h.filed.1 pc).mp hpc]
    rfl
  rw [chosen, firstRecent_eq s now _ hmem, OrderedSet.first?]
  cases s.prioritizedControllers.toList.find? (s.available now) <;> rfl

/-- The controller chosen is the least one, as filed, among those heard from recently. -/
theorem Received.chosen_eq_some_iff (h : Received dis s) : s.chosen now = .ok (some p) ↔
    s.HeardRecently now p ∧ ∃ a, filedAs dis p = some a ∧
      ∀ q, s.HeardRecently now q → ∀ b, filedAs dis q = some b → a ≤ b := by
  rw [h.chosen_eq]
  constructor
  · intro hok
    obtain ⟨a, ha, rfl⟩ := Option.map_eq_some_iff.mp (Except.ok.inj hok)
    obtain ⟨⟨hfiled, havail⟩, hleast⟩ := OrderedSet.first?_eq_some_iff.mp ha
    refine ⟨available_iff_heardRecently.mp havail, a, (h.filed.1 a).mp hfiled, ?_⟩
    intro q hq b hb
    obtain rfl := id_of_filedAs hb
    exact hleast ⟨(h.filed.1 b).mpr hb, available_iff_heardRecently.mpr hq⟩
  · rintro ⟨hrecent, a, ha, hleast⟩
    obtain rfl := id_of_filedAs ha
    have hfirst : s.prioritizedControllers.first? (s.available now) = some a := by
      refine OrderedSet.first?_eq_some_iff.mpr ⟨⟨(h.filed.1 a).mpr ha,
        available_iff_heardRecently.mpr hrecent⟩, ?_⟩
      rintro b ⟨hb, havail⟩
      exact hleast b.id (available_iff_heardRecently.mp havail) b ((h.filed.1 b).mp hb)
    rw [hfirst]
    rfl

theorem Received.chosen_eq_none_iff (h : Received dis s) : s.chosen now = .ok none ↔
    ∀ q, ¬s.HeardRecently now q := by
  rw [h.chosen_eq, Except.ok.injEq, Option.map_eq_none_iff, OrderedSet.first?_eq_none_iff]
  constructor
  · intro hnone q hq
    obtain ⟨a, ha⟩ := h.known_of_heardRecently hq
    obtain rfl := id_of_filedAs ha
    have havail := available_iff_heardRecently.mpr hq
    exact Bool.false_ne_true ((hnone a ((h.filed.1 a).mpr ha)).symm.trans havail)
  · intro hnone a _
    exact Bool.eq_false_iff.mpr (mt available_iff_heardRecently.mp (hnone a.id))

end Chosen

/-! ### Late joiners -/

/-- A device that has received the whole history and a device that has received only the last
`DeviceInfo` of each device, in any order, choose the same controller, whichever controllers both
have heard from recently. -/
def AgreesWithLate (hist : List DeviceInfo) : Prop :=
  ∀ late, late.Perm (latest hist) → ∀ s s' : ControllerSelector ExactTime, Received hist s →
    Received late s' → ∀ now now', (∀ x, s.HeardRecently now x ↔ s'.HeardRecently now' x) →
      s.chosen now = s'.chosen now'

/-- No two controllers change their order between what they have advertised first and what they
have advertised last. -/
def KeepsOrder (hist : List DeviceInfo) : Prop :=
  ∀ p q, ∀ a ∈ filedAs hist p, ∀ b ∈ filedAs hist q,
    ∀ a' ∈ advertisedLast hist p, ∀ b' ∈ advertisedLast hist q, (a ≤ b ↔ a' ≤ b')

section Late

variable {hist dis late : List DeviceInfo} {s s' : ControllerSelector ExactTime} {now now' : ℤ}

/-- A device that has just started. -/
theorem exists_received (dis : List DeviceInfo) :
    ∃ s : ControllerSelector ExactTime, Received dis s ∧ ∀ x, s.lastHeard x = none := by
  induction dis using List.reverseRecOn with
  | nil => exact ⟨_, .new "" {}, fun x => rfl⟩
  | append_singleton dis di ih =>
    obtain ⟨s, hs, hnone⟩ := ih
    refine ⟨_, hs.deviceInfo di, fun x => ?_⟩
    rw [gotDeviceInfo]
    split_ifs with hnew
    · exact (join_find?_set_none hnew.2 x).trans (hnone x)
    · exact hnone x

/-- A device hears from a known controller. -/
theorem Received.exists_heartbeat (h : Received dis s) {p : Identity}
    (hp : (filedAs dis p).isSome) (now : ℤ) : ∃ s', Received dis s' ∧
      ∀ x, s'.lastHeard x = if x = p then some now else s.lastHeard x := by
  obtain ⟨s', hok, -⟩ := gotHeartbeat_cases s now ⟨p, 0⟩
  refine ⟨s', h.heartbeat now _ hok, fun x => ?_⟩
  rw [lastHeard, (gotHeartbeat_controllers hok).2, if_pos ((h.filed.2 p).mpr hp)]
  exact lastHeard_heard s now p x

/-- Two known controllers can be the ones heard from recently. -/
theorem exists_received_of_two {p q : Identity} (hp : (filedAs dis p).isSome)
    (hq : (filedAs dis q).isSome) : ∃ s : ControllerSelector ExactTime,
      Received dis s ∧ ∀ x, s.HeardRecently 0 x ↔ x = p ∨ x = q := by
  obtain ⟨s, hs, hnone⟩ := exists_received dis
  obtain ⟨s₁, hs₁, hheard₁⟩ := hs.exists_heartbeat hp 0
  obtain ⟨s₂, hs₂, hheard₂⟩ := hs₁.exists_heartbeat hq 0
  refine ⟨s₂, hs₂, fun x => ?_⟩
  rw [HeardRecently, hheard₂, hheard₁, hnone]
  split_ifs with hxq hxp
  · simp [hxq, heartbeatDeadline, Sec]
  · simp [hxp, heartbeatDeadline, Sec]
  · simp [hxq, hxp]

/-- Of two controllers that both devices know, the device that was there and the late joiner put the
same one first. -/
theorem AgreesWithLate.le_of_le (h : AgreesWithLate hist) {p q : Identity}
    {a b a' b' : PrioritizedController} (ha : filedAs hist p = some a)
    (hb : filedAs hist q = some b) (ha' : advertisedLast hist p = some a')
    (hb' : advertisedLast hist q = some b') (hle : a ≤ b) : a' ≤ b' := by
  rw [← filedAs_of_perm (List.Perm.refl _)] at ha' hb'
  obtain ⟨s, hs, hrecent⟩ := exists_received_of_two (Option.isSome_of_mem ha)
    (Option.isSome_of_mem hb)
  obtain ⟨s', hs', hrecent'⟩ := exists_received_of_two (Option.isSome_of_mem ha')
    (Option.isSome_of_mem hb')
  have hsame := h _ (List.Perm.refl _) s s' hs hs' 0 0 fun x =>
    (hrecent x).trans (hrecent' x).symm
  have hchosen : s.chosen 0 = .ok (some p) := by
    refine hs.chosen_eq_some_iff.mpr ⟨(hrecent p).mpr (Or.inl rfl), a, ha, fun x hx c hc => ?_⟩
    rcases (hrecent x).mp hx with rfl | rfl
    · exact (Option.some.inj (ha.symm.trans hc)).le
    · exact hle.trans_eq (Option.some.inj (hb.symm.trans hc))
  obtain ⟨-, c, hc, hleast⟩ := hs'.chosen_eq_some_iff.mp (hsame ▸ hchosen)
  obtain rfl := Option.some.inj (ha'.symm.trans hc)
  exact hleast q ((hrecent' q).mpr (Or.inr rfl)) b' hb'

/-- If the order is kept, a device that was there and a late joiner choose the same controller. -/
theorem KeepsOrder.chosen_eq (h : KeepsOrder hist) (hlate : late.Perm (latest hist))
    (hs : Received hist s) (hs' : Received late s')
    (hrecent : ∀ x, s.HeardRecently now x ↔ s'.HeardRecently now' x) :
    s.chosen now = s'.chosen now' := by
  cases hchosen : s.prioritizedControllers.first? (s.available now) with
  | none =>
    have hnone : s.chosen now = .ok none := by rw [hs.chosen_eq, hchosen]; rfl
    rw [hnone, eq_comm, hs'.chosen_eq_none_iff]
    exact fun q hq => hs.chosen_eq_none_iff.mp hnone q ((hrecent q).mpr hq)
  | some pc =>
    have hsome : s.chosen now = .ok (some pc.id) := by rw [hs.chosen_eq, hchosen]; rfl
    obtain ⟨hpc, a, ha, hleast⟩ := hs.chosen_eq_some_iff.mp hsome
    have hpc' := (hrecent pc.id).mp hpc
    obtain ⟨a', ha'⟩ := hs'.known_of_heardRecently hpc'
    rw [hsome, eq_comm, hs'.chosen_eq_some_iff]
    refine ⟨hpc', a', ha', fun q hq b' hb' => ?_⟩
    have hq' := (hrecent q).mpr hq
    obtain ⟨b, hb⟩ := hs.known_of_heardRecently hq'
    rw [filedAs_of_perm hlate] at ha' hb'
    exact (h pc.id q a ha b hb a' ha' b' hb').mp (hleast q hq' b hb)

/-- **Rankings advertised again.** A device that has received the whole history and every device
that joined late choose the same controller, whichever controllers they have heard from recently, if
and only if no two controllers change their order, by ranking and id, between the first and the last
`DeviceInfo` of each. -/
theorem agreesWithLate_iff (hist : List DeviceInfo) : AgreesWithLate hist ↔ KeepsOrder hist := by
  constructor
  · intro h p q a ha b hb a' ha' b' hb'
    refine ⟨h.le_of_le ha hb ha' hb', fun hle' => ?_⟩
    by_contra hlt
    have hge' := h.le_of_le hb ha hb' ha' (le_of_not_ge hlt)
    -- Then both are the same controller.
    obtain rfl := le_antisymm hle' hge'
    rw [← filedAs_of_perm (List.Perm.refl _)] at ha' hb'
    obtain rfl : p = q := (id_of_filedAs ha').symm.trans (id_of_filedAs hb')
    exact hlt (Option.some.inj (ha.symm.trans hb)).le
  · intro h late hlate s s' hs hs' now now' hrecent
    exact h.chosen_eq hlate hs hs' hrecent

end Late

/-- The controller `"mc1"` starts again with a ranking behind that of `"mc2"`: a device that was
there prefers `"mc1"`, and a late joiner `"mc2"`. -/
theorem disagrees_after_restart : ¬AgreesWithLate
    [⟨"mc1", .microgridController, some ⟨some ⟨1⟩⟩⟩,
      ⟨"mc2", .microgridController, some ⟨some ⟨2⟩⟩⟩,
      ⟨"mc1", .microgridController, some ⟨some ⟨3⟩⟩⟩] := by
  intro h
  have hle := h.le_of_le (p := "mc1") (q := "mc2") rfl rfl rfl rfl (by decide)
  exact absurd hle (by decide)

end ControllerSelector

end TacticalMicrogrid
