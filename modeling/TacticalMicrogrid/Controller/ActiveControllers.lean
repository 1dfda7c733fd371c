import TacticalMicrogrid.Controller.Controller
import TacticalMicrogrid.Library.Interleaving

/-!
# The recorded masters and the order of the topics

A controller learns of a device from its `DeviceInfo` and of its master from its
`ActiveMicrogridControllerState`, on two topics with no order between them. The state of a device
that is not in the table yet is dropped. So the table depends on the order, unless the last state
of every device in it names no master.

## Main definitions

* `Controller.view`: what is recorded about the master of a device.
* `Controller.Announces`, `Controller.lastMaster`: what the two topics say about a device.

## Main results

* `Controller.view_order_iff`: when all interleavings of the two topics end in the same table.
* `Controller.master_lost_before_deviceInfo`: two interleavings that do not.
-/

namespace TacticalMicrogrid

namespace Controller

/-! ### What the table and the topics say -/

/-- Whether a device is known, and the master recorded for it. -/
def view (c : Controller) (d : Identity) : Option (Option Identity) :=
  (c.powerDevices.find? d).map (·.masterId)

/-- A sample of one of the two topics. -/
abbrev TopicSample := Sample DeviceInfo ⊕ Sample ActiveMicrogridControllerState

/-- What the controller does with a sample of one of the two topics. -/
def receive (c : Controller) : TopicSample → Controller
  | .inl s => c.deviceInfoCb s
  | .inr s => c.gotActiveController s

/-- The sample enters the power device into the table of a controller. -/
def Announces (deviceId : Identity) (s : Sample DeviceInfo) (d : Identity) : Prop :=
  s.validData = true ∧ s.data.deviceId ≠ deviceId ∧ s.data.role ≠ .microgridController ∧
    s.data.deviceId = d

instance (deviceId : Identity) (s : Sample DeviceInfo) (d : Identity) :
    Decidable (Announces deviceId s d) :=
  inferInstanceAs (Decidable (_ ∧ _ ∧ _ ∧ _))

/-- The device is announced by one of the samples. -/
def Announced (deviceId : Identity) (dis : List (Sample DeviceInfo)) (d : Identity) : Prop :=
  ∃ s ∈ dis, Announces deviceId s d

instance (deviceId : Identity) (dis : List (Sample DeviceInfo)) (d : Identity) :
    Decidable (Announced deviceId dis d) :=
  inferInstanceAs (Decidable (∃ s ∈ dis, _))

/-- The master that the last state of a device names. -/
def lastMaster (amcs : List (Sample ActiveMicrogridControllerState)) (d : Identity) :
    Option Identity :=
  (amcs.filter fun s => s.validData ∧ s.data.deviceId = d).getLast?.bind (·.data.masterId)

/-! ### Steps -/

theorem deviceId_deviceInfoCb (c : Controller) (s : Sample DeviceInfo) :
    (c.deviceInfoCb s).deviceId = c.deviceId := by
  rw [deviceInfoCb]
  split_ifs <;> rfl

theorem deviceId_gotActiveController (c : Controller) (s : Sample ActiveMicrogridControllerState) :
    (c.gotActiveController s).deviceId = c.deviceId := by
  rw [gotActiveController]
  split_ifs <;> rfl

theorem deviceId_amcsOnDataAvailable (c : Controller)
    (data : List (Sample ActiveMicrogridControllerState)) :
    (c.amcsOnDataAvailable data).deviceId = c.deviceId := by
  rw [amcsOnDataAvailable]
  induction data generalizing c with
  | nil => rfl
  | cons s data ih => rw [List.foldl_cons, ih, deviceId_gotActiveController]

section Steps

variable (c : Controller) (d : Identity)

/-- The first announcement of a device enters it without a master; others change nothing. -/
theorem view_deviceInfoCb (s : Sample DeviceInfo) : (c.deviceInfoCb s).view d =
    if Announces c.deviceId s d then some ((c.view d).getD none) else c.view d := by
  rw [deviceInfoCb]
  by_cases hignored : !s.validData ∨ s.data.deviceId = c.deviceId
  · rw [if_pos hignored, if_neg]
    rintro ⟨hvalid, hne, -⟩
    simp [hvalid, hne] at hignored
  · rw [not_or, Bool.not_eq_true', Bool.not_eq_false] at hignored
    rw [if_neg (by simp [hignored])]
    by_cases hrole : s.data.role ≠ .microgridController
    · rw [if_pos hrole, view, view, Table.find?_insertNew]
      by_cases hd : d = s.data.deviceId
      · rw [if_pos hd, if_pos ⟨hignored.1, hignored.2, hrole, hd.symm⟩, hd]
        cases c.powerDevices.find? s.data.deviceId <;> rfl
      · rw [if_neg hd, if_neg fun h => hd h.2.2.2.symm]
    · rw [if_neg hrole, if_neg fun h => hrole h.2.2.1]

/-- A state changes what is recorded about its device, if the device is known. -/
theorem view_gotActiveController (s : Sample ActiveMicrogridControllerState) :
    (c.gotActiveController s).view d =
      if s.validData ∧ s.data.deviceId = d then (c.view d).map fun _ => s.data.masterId
      else c.view d := by
  rw [gotActiveController]
  cases hvalid : s.validData with
  | false => simp
  | true =>
    rw [if_pos rfl, setActiveController, view, view, Table.find?_modify]
    by_cases hd : d = s.data.deviceId
    · rw [if_pos hd, if_pos ⟨rfl, hd.symm⟩, hd]
      cases c.powerDevices.find? s.data.deviceId <;> rfl
    · rw [if_neg hd, if_neg fun h => hd h.2.symm]

theorem lastMaster_snoc (amcs : List (Sample ActiveMicrogridControllerState))
    (s : Sample ActiveMicrogridControllerState) : lastMaster (amcs ++ [s]) d =
      if s.validData ∧ s.data.deviceId = d then s.data.masterId else lastMaster amcs d := by
  rw [lastMaster, List.filter_append]
  by_cases h : s.validData ∧ s.data.deviceId = d
  · simp [h]
  · rw [if_neg h, lastMaster]
    simp [h]

/-- The last state that names a master is a state of the device. -/
theorem exists_of_lastMaster {amcs : List (Sample ActiveMicrogridControllerState)} {d m : Identity}
    (h : lastMaster amcs d = some m) : ∃ s ∈ amcs, s.validData ∧ s.data.deviceId = d := by
  obtain ⟨s, hs, -⟩ := Option.bind_eq_some_iff.mp h
  have hmem := List.mem_filter.mp (List.mem_of_getLast? hs)
  exact ⟨s, hmem.1, of_decide_eq_true hmem.2⟩

/-- A state records the master of its device, if the device is known. -/
theorem find?_gotActiveController (s : Sample ActiveMicrogridControllerState) :
    (c.gotActiveController s).powerDevices.find? d = (c.powerDevices.find? d).map fun pd =>
      if s.validData ∧ s.data.deviceId = d then { pd with masterId := s.data.masterId }
      else pd := by
  rw [gotActiveController]
  cases hvalid : s.validData with
  | false => simp
  | true =>
    rw [if_pos rfl, setActiveController, Table.find?_modify]
    by_cases hd : d = s.data.deviceId
    · simp [hd]
    · simp [hd, Ne.symm hd]

/-- A batch of states records the master that the last state of a device names, if there is one
and the device is known. -/
theorem find?_amcsOnDataAvailable (data : List (Sample ActiveMicrogridControllerState)) :
    (c.amcsOnDataAvailable data).powerDevices.find? d = (c.powerDevices.find? d).map fun pd =>
      if ∃ s ∈ data, s.validData ∧ s.data.deviceId = d then
        { pd with masterId := lastMaster data d }
      else pd := by
  rw [amcsOnDataAvailable]
  induction data using List.reverseRecOn with
  | nil => simp
  | append_singleton data s ih =>
    rw [List.foldl_append, List.foldl_cons, List.foldl_nil, find?_gotActiveController, ih,
      Option.map_map, lastMaster_snoc]
    refine congrArg (fun f => (c.powerDevices.find? d).map f) (funext fun pd => ?_)
    by_cases hs : s.validData ∧ s.data.deviceId = d
    · have hmem : ∃ s' ∈ data ++ [s], s'.validData ∧ s'.data.deviceId = d :=
        ⟨s, List.mem_append_right data List.mem_cons_self, hs⟩
      simp only [Function.comp_apply, if_pos hs, if_pos hmem]
      split_ifs <;> rfl
    · simp [hs]

theorem announced_snoc (deviceId : Identity) (dis : List (Sample DeviceInfo))
    (s : Sample DeviceInfo) : Announced deviceId (dis ++ [s]) d ↔
      Announced deviceId dis d ∨ Announces deviceId s d := by
  simp [Announced, or_and_right, exists_or]

end Steps

/-! ### Interleavings -/

/-- What the table can say after some messages: the known devices are the announced ones, and a
recorded master is the one that the last state of the device names. -/
def Recorded (deviceId : Identity) (dis : List (Sample DeviceInfo))
    (amcs : List (Sample ActiveMicrogridControllerState)) (c : Controller) : Prop :=
  c.deviceId = deviceId ∧ ∀ d, c.view d = none ∧ ¬Announced deviceId dis d ∨
    Announced deviceId dis d ∧ (c.view d = some none ∨ c.view d = some (lastMaster amcs d))

section Interleavings

variable {deviceId : Identity} {dis : List (Sample DeviceInfo)}
  {amcs : List (Sample ActiveMicrogridControllerState)} {c : Controller}

theorem Recorded.deviceInfo (h : Recorded deviceId dis amcs c) (s : Sample DeviceInfo) :
    Recorded deviceId (dis ++ [s]) amcs (c.deviceInfoCb s) := by
  obtain ⟨rfl, h⟩ := h
  refine ⟨deviceId_deviceInfoCb c s, fun d => ?_⟩
  rw [view_deviceInfoCb, announced_snoc]
  by_cases hs : Announces c.deviceId s d
  · rcases h d with ⟨hview, -⟩ | ⟨-, hview | hview⟩ <;> simp [hs, hview]
  · simpa [hs] using h d

theorem Recorded.activeController (h : Recorded deviceId dis amcs c)
    (s : Sample ActiveMicrogridControllerState) :
    Recorded deviceId dis (amcs ++ [s]) (c.gotActiveController s) := by
  obtain ⟨rfl, h⟩ := h
  refine ⟨deviceId_gotActiveController c s, fun d => ?_⟩
  rw [view_gotActiveController, lastMaster_snoc]
  by_cases hs : s.validData ∧ s.data.deviceId = d
  · rcases h d with ⟨hview, hd⟩ | ⟨hd, hview | hview⟩ <;> simp [hs, hview, hd]
  · simpa only [if_neg hs] using h d

/-- What the table says after any interleaving of the two topics. -/
theorem recorded_of_isInterleaving (deviceId : Identity) {w : List TopicSample}
    (h : IsInterleaving dis amcs w) :
    Recorded deviceId dis amcs (w.foldl receive { deviceId }) := by
  refine h.foldl_invariant (P := Recorded deviceId) ⟨rfl, fun d => Or.inl ⟨rfl, ?_⟩⟩ ?_ ?_
  · simp [Announced]
  · exact fun _ _ _ s hrecorded => hrecorded.deviceInfo s
  · exact fun _ _ _ s hrecorded => hrecorded.activeController s

/-- The states of known devices are all recorded. -/
theorem view_foldl_gotActiveController (c : Controller) (d : Identity)
    (amcs : List (Sample ActiveMicrogridControllerState)) (h : c.view d = some none) :
    (amcs.foldl gotActiveController c).view d = some (lastMaster amcs d) := by
  induction amcs using List.reverseRecOn with
  | nil => exact h
  | append_singleton amcs s ih =>
    rw [List.foldl_append, List.foldl_cons, List.foldl_nil, view_gotActiveController,
      lastMaster_snoc, ih]
    split_ifs <;> rfl

theorem Recorded.init (deviceId : Identity) : Recorded deviceId [] [] { deviceId } :=
  ⟨rfl, fun d => Or.inl ⟨rfl, by simp [Announced]⟩⟩

/-- Without a state, an announced device has no master. -/
theorem Recorded.view_eq_none (h : Recorded deviceId dis [] c) {d : Identity}
    (hd : Announced deviceId dis d) : c.view d = some none := by
  rcases h.2 d with ⟨-, hnot⟩ | ⟨-, hview | hview⟩
  exacts [absurd hd hnot, hview, hview]

theorem Recorded.foldl_deviceInfoCb (h : Recorded deviceId [] amcs c)
    (dis : List (Sample DeviceInfo)) : Recorded deviceId dis amcs (dis.foldl deviceInfoCb c) := by
  induction dis using List.reverseRecOn with
  | nil => exact h
  | append_singleton dis s ih =>
    rw [List.foldl_append]
    exact ih.deviceInfo s

/-- The states of devices that are not known yet are all dropped. -/
theorem Recorded.foldl_gotActiveController (h : Recorded deviceId [] [] c)
    (amcs : List (Sample ActiveMicrogridControllerState)) :
    Recorded deviceId [] [] (amcs.foldl gotActiveController c) := by
  induction amcs using List.reverseRecOn with
  | nil => exact h
  | append_singleton amcs s ih =>
    rw [List.foldl_append]
    refine ⟨(ih.activeController s).1, fun d => ?_⟩
    rcases (ih.activeController s).2 d with hnone | ⟨hd, -⟩
    · exact Or.inl hnone
    · simp [Announced] at hd

/-- If all announcements come first, every known device has the master that its last state
names. -/
theorem view_deviceInfos_first {d : Identity} (hd : Announced deviceId dis d) :
    ((dis.map Sum.inl ++ amcs.map Sum.inr).foldl receive { deviceId }).view d =
      some (lastMaster amcs d) := by
  rw [List.foldl_append, List.foldl_map, List.foldl_map]
  exact view_foldl_gotActiveController _ d amcs
    (((Recorded.init deviceId).foldl_deviceInfoCb dis).view_eq_none hd)

/-- If all states come first, no known device has a master. -/
theorem view_states_first {d : Identity} (hd : Announced deviceId dis d) :
    ((amcs.map Sum.inr ++ dis.map Sum.inl).foldl receive { deviceId }).view d = some none := by
  rw [List.foldl_append, List.foldl_map, List.foldl_map]
  exact (((Recorded.init deviceId).foldl_gotActiveController amcs).foldl_deviceInfoCb
    dis).view_eq_none hd

end Interleavings

/-- **The table and the order of the topics.** All interleavings of the `DeviceInfo`s and the
states that a controller receives end with the same known devices and the same recorded masters if
and only if the last state of every announced device names no master. -/
theorem view_order_iff (deviceId : Identity) (dis : List (Sample DeviceInfo))
    (amcs : List (Sample ActiveMicrogridControllerState)) :
    (∀ w w' : List TopicSample, IsInterleaving dis amcs w → IsInterleaving dis amcs w' →
        ∀ d, (w.foldl receive { deviceId }).view d = (w'.foldl receive { deviceId }).view d) ↔
      ∀ d, Announced deviceId dis d → lastMaster amcs d = none := by
  constructor
  · intro hsame d hd
    have hview := hsame _ _ (isInterleaving_left_right dis amcs)
      (isInterleaving_right_left dis amcs) d
    rw [view_deviceInfos_first hd, view_states_first hd] at hview
    exact Option.some.inj hview
  · intro hnone w w' hw hw' d
    have hview := (recorded_of_isInterleaving deviceId hw).2 d
    have hview' := (recorded_of_isInterleaving deviceId hw').2 d
    by_cases hd : Announced deviceId dis d
    · simp only [hd, hnone d hd, not_true, and_false, true_and, or_self, false_or] at hview hview'
      rw [hview, hview']
    · simp only [hd, not_false_eq_true, and_true, false_and, or_false] at hview hview'
      rw [hview, hview']

/-- A state that comes before the `DeviceInfo` of its device is lost. -/
theorem master_lost_before_deviceInfo :
    ∃ w w' : List TopicSample,
      IsInterleaving [⟨⟨"pd1", .source, none⟩, true⟩] [⟨⟨"pd1", some "mc1"⟩, true⟩] w ∧
        IsInterleaving [⟨⟨"pd1", .source, none⟩, true⟩] [⟨⟨"pd1", some "mc1"⟩, true⟩] w' ∧
        (w.foldl receive { deviceId := "mc1" }).view "pd1" = some (some "mc1") ∧
        (w'.foldl receive { deviceId := "mc1" }).view "pd1" = some none :=
  ⟨_, _, isInterleaving_left_right _ _, isInterleaving_right_left _ _, rfl, rfl⟩

end Controller

end TacticalMicrogrid
