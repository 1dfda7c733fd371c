import TacticalMicrogrid.CLI.CLIClient
import TacticalMicrogrid.Library.Interleaving

/-!
# Controllers that leave and come back

The client learns from two topics that a microgrid controller is there: `DeviceInfo`, of which a
controller sends one sample when it starts, and `Heartbeat`. A disposal on either topic removes the
controller from `controllers_`, but only a `DeviceInfo` enters it. DDS gives no order between the
topics, so the disposal of the old heartbeats may come after the new `DeviceInfo`. Then the client
forgets a controller that is there, and no later heartbeat brings it back.

## Main definitions

* `CLIClient.deliver`: one sample of either topic, at a clock reading.
* `CLIClient.Announces`, `CLIClient.Removes`.
* `CLIClient.LastAlive`: the last `DeviceInfo` of a controller is no disposal.
* `CLIClient.Overtaken`: a disposal of its heartbeats comes after it.

## Main results

* `CLIClient.mem_controllers_iff_since`: what is in `controllers_` after any sequence of samples.
* `CLIClient.present_iff_lastAlive_iff`: when the last `DeviceInfo` decides.
-/

namespace TacticalMicrogrid

open TransitionSystem

namespace CLIClient

/-- A sample of one of the two topics, with the clock reading at which it is processed. -/
abbrev Delivery := (ℤ × InfoSample DeviceInfo) ⊕ (ℤ × InfoSample Heartbeat)

/-- The client after a sample. -/
def deliver {τ : Type} [TimePoint τ] (c : CLIClient τ) : Delivery → CLIClient τ
  | .inl (now, di) => c.processDeviceInfo now di
  | .inr (now, hb) => c.processHeartbeat now hb

/-- The sample enters the controller. -/
def Announces (mcId : Identity) : Delivery → Prop
  | .inl (_, di) =>
    di.validData = true ∧ di.data.role = .microgridController ∧ di.data.deviceId = mcId
  | .inr _ => False

/-- The sample is a `DeviceInfo` of the controller. -/
def IsDeviceInfoOf (mcId : Identity) : Delivery → Prop
  | .inl (_, di) => di.data.deviceId = mcId
  | .inr _ => False

/-- The sample disposes of the heartbeats of the controller. -/
def DisposesHeartbeat (mcId : Identity) : Delivery → Prop
  | .inl _ => False
  | .inr (_, hb) => hb.IsDisposal ∧ hb.data.deviceId = mcId

/-- The sample removes the controller. -/
def Removes (mcId : Identity) : Delivery → Prop
  | .inl (_, di) => di.IsDisposal ∧ di.data.deviceId = mcId
  | .inr (_, hb) => hb.IsDisposal ∧ hb.data.deviceId = mcId

/-- The last `DeviceInfo` of the controller is alive. -/
def LastAlive (mcId : Identity) (dis : List (ℤ × InfoSample DeviceInfo)) : Prop :=
  ∃ di ∈ (dis.filter (·.2.data.deviceId = mcId)).getLast?, di.2.validData = true

/-- A disposal of the heartbeats of the controller comes after the last `DeviceInfo` of the
controller, which is alive. -/
def Overtaken (mcId : Identity) (w : List Delivery) : Prop :=
  ∃ pre e post, w = pre ++ e :: post ∧ Announces mcId e ∧
    (∀ b ∈ post, ¬IsDeviceInfoOf mcId b) ∧ ∃ b ∈ post, DisposesHeartbeat mcId b

variable {τ : Type} [TimePoint τ] {c : CLIClient τ} {mcId : Identity}

/-! ### The table -/

/-- A sample enters a controller, removes it, or leaves it as it is. -/
theorem mem_controllers_deliver (e : Delivery) : mcId ∈ (c.deliver e).controllers ↔
    Announces mcId e ∨ mcId ∈ c.controllers ∧ ¬Removes mcId e := by
  cases e with
  | inl s =>
    rcases s with ⟨now, di⟩
    simp only [deliver, processDeviceInfo, Announces, Removes, InfoSample.IsDisposal]
    split_ifs with hvalid hrole hdisposed
    · rw [Table.mem_iff_find?_isSome, Table.find?_insertNew, Table.mem_iff_find?_isSome]
      by_cases hid : mcId = di.data.deviceId
      · simp [hvalid, hrole, hid]
      · simp [hid, Ne.symm hid]
    · simp [hvalid, hrole]
    · rw [Table.mem_iff_find?_isSome, Table.find?_erase, Table.mem_iff_find?_isSome]
      by_cases hid : mcId = di.data.deviceId
      · simp [hvalid, hdisposed, hid]
      · simp [hid, Ne.symm hid, hvalid]
    · simp [hvalid, hdisposed]
  | inr s =>
    rcases s with ⟨now, hb⟩
    simp only [deliver, processHeartbeat, Announces, Removes, InfoSample.IsDisposal, false_or]
    split_ifs with hvalid hdisposed
    · rw [Table.mem_iff_find?_isSome, Table.find?_modify, Table.mem_iff_find?_isSome]
      by_cases hid : mcId = hb.data.deviceId
      · simp [hvalid, hid]
      · simp [hid, hvalid]
    · rw [Table.mem_iff_find?_isSome, Table.find?_erase, Table.mem_iff_find?_isSome]
      by_cases hid : mcId = hb.data.deviceId
      · simp [hvalid, hdisposed, hid]
      · simp [hid, Ne.symm hid]
    · simp [hdisposed]

/-- A controller is in `controllers_` exactly when it has been announced and not removed since. -/
theorem mem_controllers_iff_since (hnew : c.controllers = ∅) (w : List Delivery) :
    mcId ∈ (w.foldl deliver c).controllers ↔ Since (Announces mcId) (¬Removes mcId ·) w := by
  induction w using List.reverseRecOn with
  | nil =>
    rw [List.foldl_nil, hnew]
    exact iff_of_false (AList.notMem_empty mcId) not_since_nil
  | append_singleton w e ih =>
    rw [List.foldl_append, List.foldl_cons, List.foldl_nil, mem_controllers_deliver, since_snoc, ih]

/-! ### The last sample -/

omit [TimePoint τ] in
theorem overtaken_snoc {w : List Delivery} {a : Delivery} : Overtaken mcId (w ++ [a]) ↔
    ¬IsDeviceInfoOf mcId a ∧ (Overtaken mcId w ∨
      Since (Announces mcId) (¬IsDeviceInfoOf mcId ·) w ∧ DisposesHeartbeat mcId a) := by
  constructor
  · rintro ⟨pre, e, post, heq, he, hpost, b, hb, hdisposes⟩
    rcases List.eq_nil_or_concat post with rfl | ⟨post, d, rfl⟩
    · cases hb
    · rw [List.concat_eq_append] at heq hpost hb
      rw [← List.cons_append, ← List.append_assoc] at heq
      obtain ⟨rfl, ha⟩ := List.append_inj' heq rfl
      obtain rfl := List.singleton_injective ha
      refine ⟨hpost a (List.mem_append_right _ List.mem_cons_self), ?_⟩
      have hpost' : ∀ x ∈ post, ¬IsDeviceInfoOf mcId x :=
        fun x hx => hpost x (List.mem_append_left _ hx)
      rcases List.mem_append.mp hb with hb | hb
      · exact Or.inl ⟨pre, e, post, rfl, he, hpost', b, hb, hdisposes⟩
      · rw [List.mem_singleton.mp hb] at hdisposes
        exact Or.inr ⟨⟨pre, e, post, rfl, he, hpost'⟩, hdisposes⟩
  · rintro ⟨ha, ⟨pre, e, post, rfl, he, hpost, b, hb, hdisposes⟩ |
      ⟨⟨pre, e, post, rfl, he, hpost⟩, hdisposes⟩⟩
    · refine ⟨pre, e, post ++ [a], by simp, he, fun x hx => ?_, b, List.mem_append_left _ hb,
        hdisposes⟩
      rcases List.mem_append.mp hx with hx | hx
      · exact hpost x hx
      · rwa [List.mem_singleton.mp hx]
    · refine ⟨pre, e, post ++ [a], by simp, he, fun x hx => ?_, a,
        List.mem_append_right _ List.mem_cons_self, hdisposes⟩
      rcases List.mem_append.mp hx with hx | hx
      · exact hpost x hx
      · rwa [List.mem_singleton.mp hx]

/-- The samples of the controller on the `DeviceInfo` topic announce it or dispose of it. -/
def AliveOrDisposed (mcId : Identity) (dis : List (ℤ × InfoSample DeviceInfo)) : Prop :=
  ∀ di ∈ dis, di.2.data.deviceId = mcId →
    di.2.validData = true ∧ di.2.data.role = .microgridController ∨ di.2.IsDisposal

omit [TimePoint τ] in
/-- The last `DeviceInfo` of a controller is alive exactly when the controller has been announced
and no other `DeviceInfo` of it has come since. -/
theorem lastAlive_iff_since {w : List Delivery}
    (hdis : AliveOrDisposed mcId (w.filterMap Sum.getLeft?)) :
    LastAlive mcId (w.filterMap Sum.getLeft?) ↔
      Since (Announces mcId) (¬IsDeviceInfoOf mcId ·) w := by
  induction w using List.reverseRecOn with
  | nil => exact iff_of_false (by simp [LastAlive]) not_since_nil
  | append_singleton w e ih =>
    rw [since_snoc]
    rw [List.filterMap_append] at hdis ⊢
    have ih := ih fun di hdi => hdis di (List.mem_append_left _ hdi)
    cases e with
    | inr s =>
      change LastAlive mcId (_ ++ []) ↔ False ∨ _ ∧ ¬False
      rw [List.append_nil, ih, false_or, not_false_iff, and_true]
    | inl s =>
      have hs := hdis s (by simp)
      rw [← ih]
      simp only [LastAlive, List.filter_append, Announces, IsDeviceInfoOf]
      by_cases hid : s.2.data.deviceId = mcId
      · rcases hs hid with ⟨hvalid, hrole⟩ | ⟨hinvalid, -⟩
        · simp [hid, hvalid, hrole]
        · simp [hid, hinvalid]
      · simp [hid]

omit [TimePoint τ] in
/-- A sequence of samples leaves a controller entered and not removed exactly when its last
`DeviceInfo` is alive and is not overtaken. -/
theorem since_announces_iff {w : List Delivery}
    (hdis : AliveOrDisposed mcId (w.filterMap Sum.getLeft?)) :
    Since (Announces mcId) (¬Removes mcId ·) w ↔
      Since (Announces mcId) (¬IsDeviceInfoOf mcId ·) w ∧ ¬Overtaken mcId w := by
  induction w using List.reverseRecOn with
  | nil => exact iff_of_false not_since_nil fun h => not_since_nil h.1
  | append_singleton w e ih =>
    rw [List.filterMap_append] at hdis
    have ih := ih fun di hdi => hdis di (List.mem_append_left _ hdi)
    rw [since_snoc, since_snoc, overtaken_snoc, ih]
    cases e with
    | inr s =>
      simp only [Announces, Removes, IsDeviceInfoOf, DisposesHeartbeat]
      tauto
    | inl s =>
      have hs := hdis s (by simp)
      simp only [Announces, Removes, IsDeviceInfoOf, DisposesHeartbeat]
      by_cases hid : s.2.data.deviceId = mcId
      · rcases hs hid with ⟨hvalid, hrole⟩ | hdisposal
        · simp [hid, hvalid, hrole]
        · simp [hid, hdisposal, hdisposal.1]
      · simp [hid]

/-- **Controllers that come back.** After every interleaving of the samples of the two topics, a
controller is in `controllers_` exactly when its last `DeviceInfo` is alive, exactly when no
disposal of its heartbeats comes after an alive last `DeviceInfo`. -/
theorem present_iff_lastAlive_iff {dis : List (ℤ × InfoSample DeviceInfo)}
    {hbs : List (ℤ × InfoSample Heartbeat)} {w : List Delivery} (hw : IsInterleaving dis hbs w)
    (hdis : AliveOrDisposed mcId dis) (hnew : c.controllers = ∅) :
    (mcId ∈ (w.foldl deliver c).controllers ↔ LastAlive mcId dis) ↔ ¬Overtaken mcId w := by
  obtain ⟨rfl, -⟩ := hw
  rw [mem_controllers_iff_since hnew, lastAlive_iff_since hdis, since_announces_iff hdis]
  constructor
  · rintro h ⟨pre, e, post, hsplit, he, hpost, hdisposed⟩
    exact (h.mpr ⟨pre, e, post, hsplit, he, hpost⟩).2 ⟨pre, e, post, hsplit, he, hpost, hdisposed⟩
  · exact fun h => ⟨And.left, fun hsince => ⟨hsince, h⟩⟩

/-- The samples of a controller that starts, stops and starts again, in the order of its topics. -/
def restartInfos (mcId : Identity) : List (ℤ × InfoSample DeviceInfo) :=
  let di : DeviceInfo := { deviceId := mcId, role := .microgridController }
  [(0, .valid di), (2, .disposal di), (3, .valid di)]

/-- The heartbeats of the first incarnation and their disposal. -/
def restartHeartbeats (mcId : Identity) : List (ℤ × InfoSample Heartbeat) :=
  [(1, .valid { deviceId := mcId }), (4, .disposal { deviceId := mcId })]

omit [TimePoint τ] in
theorem aliveOrDisposed_restartInfos (mcId : Identity) :
    AliveOrDisposed mcId (restartInfos mcId) := by
  intro di hdi _
  simp only [restartInfos, List.mem_cons, List.not_mem_nil, or_false] at hdi
  rcases hdi with rfl | rfl | rfl
  · exact Or.inl ⟨rfl, rfl⟩
  · exact Or.inr ⟨rfl, rfl⟩
  · exact Or.inl ⟨rfl, rfl⟩

/-- A controller that comes back after its old heartbeats have been disposed of. -/
theorem present_after_early_disposal :
    "mc1" ∈ (((restartHeartbeats "mc1").map Sum.inr ++ (restartInfos "mc1").map Sum.inl).foldl
        deliver ({ deviceId := "cli" } : CLIClient ExactTime)).controllers ∧
      ¬Overtaken "mc1"
        ((restartHeartbeats "mc1").map Sum.inr ++ (restartInfos "mc1").map Sum.inl) :=
  have hpresent : "mc1" ∈ (((restartHeartbeats "mc1").map Sum.inr ++
      (restartInfos "mc1").map Sum.inl).foldl deliver
        ({ deviceId := "cli" } : CLIClient ExactTime)).controllers := by decide
  ⟨hpresent, (present_iff_lastAlive_iff (isInterleaving_right_left _ _)
    (aliveOrDisposed_restartInfos "mc1") rfl).mp (iff_of_true hpresent ⟨_, rfl, rfl⟩)⟩

/-- The disposal of the heartbeats of the first incarnation removes the second one. -/
theorem absent_after_late_disposal :
    IsInterleaving (restartInfos "mc1") (restartHeartbeats "mc1")
        ((restartInfos "mc1").map Sum.inl ++ (restartHeartbeats "mc1").map Sum.inr) ∧
      LastAlive "mc1" (restartInfos "mc1") ∧
        "mc1" ∉ (((restartInfos "mc1").map Sum.inl ++
          (restartHeartbeats "mc1").map Sum.inr).foldl deliver
            ({ deviceId := "cli" } : CLIClient ExactTime)).controllers :=
  ⟨isInterleaving_left_right _ _, ⟨_, rfl, rfl⟩, by decide⟩

end CLIClient

end TacticalMicrogrid
