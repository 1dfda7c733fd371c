import TacticalMicrogrid.Common.Handshaking
import TacticalMicrogrid.Common.Selector.Timely
import TacticalMicrogrid.Library.Components

/-!
# Participants and devices of a microgrid

The heartbeats that one part of a microgrid sends decide which controller another part selects. A
microgrid has participants, each with a `Handshaking` of its own, and power devices, each with a
`ControllerSelector`. Every `DeviceInfo` that is written can reach every device, at any time and
more than once: the topic is reliable and durable. A heartbeat is on its way to each device from
the reading at which it is written; it can arrive in any order, or get lost: the topic is best
effort. A participant can stop its reactor (`Controller::terminate`) or be replaced by a new process
with the same id. The time points of the devices are of any type.

## Main definitions

* `Flight`, `SelectionSystem`, `SelectionSystem.Action`, `SelectionSystem.Step`.
* `SelectionSystem.device`: a device as a component, with `ControllerSelector.Step` as its steps.
* `SelectionSystem.Consistent`: the invariant of the participants, the network and the devices.
* `SelectionSystem.Label.AnnouncesAs`, `SelectionSystem.OnSchedule`: what some results suppose, that
  a participant announces itself always as the same, and that its reactor keeps to the schedule of
  its heartbeats.

## Main results

* `SelectionSystem.IsSelectionRun.deviceRun`: the run of a device in a run of the microgrid.
* `SelectionSystem.IsSelectionRun.consistent`: the invariant holds after every run.
* `SelectionSystem.IsSelectionRun.dueSoon`: when the next heartbeat of a participant is due.
* `SelectionSystem.IsSelectionRun.filedAs`: the devices file the controllers as they announce
  themselves.
-/

namespace TacticalMicrogrid

open TransitionSystem

/-- A heartbeat on its way to a device, with the clock reading at which it was written. -/
structure Flight where
  sentAt : ℤ
  hb : Heartbeat
deriving DecidableEq

/-- The participants by their ids, whether their reactors have stopped, what has been announced, the
devices, whose time points are of the type `τ`, and the heartbeats on their way to each device. -/
structure SelectionSystem (τ ι : Type) where
  clock : ℤ
  participants : Identity → Handshaking.Config
  loopEnded : Identity → Bool
  announced : List DeviceInfo
  devices : ι → ControllerSelector.Config τ
  heartbeats : ι → List Flight

namespace SelectionSystem

variable {τ ι : Type}

/-! ### Steps -/

/-- What can happen in a microgrid, with the calls it leads to. -/
inductive Action (ι : Type)
  | participant (x : Identity) (input : Handshaking.Input) (written : List Written)
  | endLoop (x : Identity)
  | restart (x : Identity)
  | learn (i : ι) (di : DeviceInfo) (effects : List Effect)
  | hear (i : ι) (f : Flight) (effects : List Effect)
  | timeout (i : ι) (k : TimerKind) (effects : List Effect)
  | lose (i : ι) (f : Flight)
deriving DecidableEq

/-- A step of a run: the clock reading, and what happens. -/
structure Label (ι : Type) where
  now : ℤ
  action : Action ι
deriving DecidableEq

/-- The heartbeats that calls of `write` put on their way. -/
def flightsOf (now : ℤ) (written : List Written) : List Flight :=
  (written.filterMap Handshaking.Written.heartbeat?).map (⟨now, ·⟩)

/-- The microgrid after a step of a participant. -/
def afterParticipant (c : SelectionSystem τ ι) (now : ℤ) (x : Identity) (p : Handshaking.Config)
    (written : List Written) : SelectionSystem τ ι :=
  { c with
    clock := now
    participants := Function.update c.participants x p
    announced := c.announced ++ written.filterMap Handshaking.Written.deviceInfo?
    heartbeats := fun i => c.heartbeats i ++ flightsOf now written }

@[simp] theorem participants_afterParticipant_self (c : SelectionSystem τ ι) (now : ℤ)
    (x : Identity) (p : Handshaking.Config) (written : List Written) :
    (c.afterParticipant now x p written).participants x = p :=
  Function.update_self ..

theorem participants_afterParticipant_of_ne (c : SelectionSystem τ ι) (now : ℤ) {x y : Identity}
    (hne : y ≠ x) (p : Handshaking.Config) (written : List Written) :
    (c.afterParticipant now x p written).participants y = c.participants y :=
  Function.update_of_ne hne ..

/-- The microgrid after a participant was replaced by a new process. -/
def afterRestart (c : SelectionSystem τ ι) (now : ℤ) (x : Identity) : SelectionSystem τ ι :=
  { c with
    clock := now
    participants := Function.update c.participants x (.init x now)
    loopEnded := Function.update c.loopEnded x false }

@[simp] theorem participants_afterRestart_self (c : SelectionSystem τ ι) (now : ℤ) (x : Identity) :
    (c.afterRestart now x).participants x = .init x now :=
  Function.update_self ..

theorem participants_afterRestart_of_ne (c : SelectionSystem τ ι) (now : ℤ) {x y : Identity}
    (hne : y ≠ x) : (c.afterRestart now x).participants y = c.participants y :=
  Function.update_of_ne hne ..

variable [DecidableEq ι]

/-- The microgrid after a step of a device. -/
def afterDevice (c : SelectionSystem τ ι) (now : ℤ) (i : ι)
    (d : ControllerSelector.Config τ) : SelectionSystem τ ι :=
  { c with clock := now, devices := Function.update c.devices i d }

@[simp] theorem devices_afterDevice_self (c : SelectionSystem τ ι) (now : ℤ) (i : ι)
    (d : ControllerSelector.Config τ) : (c.afterDevice now i d).devices i = d :=
  Function.update_self ..

theorem devices_afterDevice_of_ne (c : SelectionSystem τ ι) (now : ℤ) {i j : ι} (hne : i ≠ j)
    (d : ControllerSelector.Config τ) :
    (c.afterDevice now j d).devices i = c.devices i :=
  Function.update_of_ne hne ..

/-- The microgrid without a heartbeat that was on its way to a device. -/
def withoutFlight (c : SelectionSystem τ ι) (i : ι) (f : Flight) : SelectionSystem τ ι :=
  { c with heartbeats := Function.update c.heartbeats i ((c.heartbeats i).erase f) }

theorem mem_of_mem_withoutFlight {c : SelectionSystem τ ι} {i j : ι} {f g : Flight}
    (hf : f ∈ (c.withoutFlight j g).heartbeats i) : f ∈ c.heartbeats i := by
  change f ∈ Function.update c.heartbeats j ((c.heartbeats j).erase g) i at hf
  rcases eq_or_ne i j with rfl | hne
  · rw [Function.update_self] at hf
    exact List.mem_of_mem_erase hf
  · rwa [Function.update_of_ne hne] at hf

/-- All other heartbeats stay on their way. -/
theorem mem_withoutFlight {c : SelectionSystem τ ι} {i : ι} {f : Flight}
    (hf : f ∈ c.heartbeats i) (j : ι) (g : Flight) :
    f ∈ (c.withoutFlight j g).heartbeats i ∨ j = i ∧ g = f := by
  change f ∈ Function.update c.heartbeats j ((c.heartbeats j).erase g) i ∨ _
  rcases eq_or_ne i j with rfl | hne
  · rw [Function.update_self]
    rcases eq_or_ne f g with rfl | hfg
    · exact Or.inr ⟨rfl, rfl⟩
    · exact Or.inl ((List.mem_erase_of_ne hfg).mpr hf)
  · rw [Function.update_of_ne hne]
    exact Or.inl hf

variable [TimePoint τ]

/-- The steps of a microgrid. -/
inductive Step (c : SelectionSystem τ ι) : Label ι → SelectionSystem τ ι → Prop
  | participant {now : ℤ} {x : Identity} {input : Handshaking.Input} {written : List Written}
      {p : Handshaking.Config} (hclock : c.clock ≤ now)
      (hloop : input.isTimeout → c.loopEnded x = false)
      (hstep : Handshaking.Step (c.participants x) ⟨now, input, written⟩ p) :
      Step c ⟨now, .participant x input written⟩ (c.afterParticipant now x p written)
  | endLoop {now : ℤ} {x : Identity} (hclock : c.clock ≤ now) :
      Step c ⟨now, .endLoop x⟩
        { c with clock := now, loopEnded := Function.update c.loopEnded x true }
  | restart {now : ℤ} {x : Identity} (hclock : c.clock ≤ now) :
      Step c ⟨now, .restart x⟩ (c.afterRestart now x)
  | learn {now : ℤ} {i : ι} {di : DeviceInfo} {effects : List Effect}
      {d : ControllerSelector.Config τ} (hclock : c.clock ≤ now) (hdi : di ∈ c.announced)
      (hstep : ControllerSelector.Step (c.devices i) ⟨⟨now, .deviceInfo di⟩, effects⟩ d) :
      Step c ⟨now, .learn i di effects⟩ (c.afterDevice now i d)
  | hear {now : ℤ} {i : ι} {f : Flight} {effects : List Effect}
      {d : ControllerSelector.Config τ} (hclock : c.clock ≤ now) (hf : f ∈ c.heartbeats i)
      (hstep : ControllerSelector.Step (c.devices i) ⟨⟨now, .heartbeat f.hb⟩, effects⟩ d) :
      Step c ⟨now, .hear i f effects⟩ ((c.withoutFlight i f).afterDevice now i d)
  | timeout {now : ℤ} {i : ι} {k : TimerKind} {effects : List Effect}
      {d : ControllerSelector.Config τ} (hclock : c.clock ≤ now)
      (hstep : ControllerSelector.Step (c.devices i) ⟨⟨now, .timeout k⟩, effects⟩ d) :
      Step c ⟨now, .timeout i k effects⟩ (c.afterDevice now i d)
  | lose {now : ℤ} {i : ι} {f : Flight} (hclock : c.clock ≤ now) (hf : f ∈ c.heartbeats i) :
      Step c ⟨now, .lose i f⟩ { c.withoutFlight i f with clock := now }

/-- A microgrid of new participants and new devices, at a clock reading. -/
def init (deviceId : ι → Identity) (callbacks : ControllerCallbacks) (clock : ℤ) :
    SelectionSystem τ ι where
  clock := clock
  participants x := .init x clock
  loopEnded _ := false
  announced := []
  devices i := .init (deviceId i) callbacks clock
  heartbeats _ := []

/-- The transitions of a run of a microgrid. -/
abbrev Trace (τ ι : Type) := List (Transition (SelectionSystem τ ι) (Label ι))

/-- `tr` is a run of a new microgrid, which ends in `c`. -/
def IsSelectionRun (tr : Trace τ ι) (c : SelectionSystem τ ι) : Prop :=
  ∃ deviceId callbacks clock, IsRun Step (init deviceId callbacks clock) tr c

/-! ### Computed steps -/

/-- The step of a device for an input. -/
def deviceNext? (c : SelectionSystem τ ι) (now : ℤ) (i : ι) (input : ControllerSelector.Input) :
    Option (List Effect × SelectionSystem τ ι) :=
  (ControllerSelector.next? (c.devices i) ⟨now, input⟩).map fun r =>
    (r.1.effects, c.afterDevice now i r.2)

/-- The step that a label stands for, if it can be taken; the calls of the label are not looked
at. -/
def next? (c : SelectionSystem τ ι) (l : Label ι) : Option (Label ι × SelectionSystem τ ι) :=
  if c.clock ≤ l.now then
    match l.action with
    | .participant x input _ =>
      if input.isTimeout → c.loopEnded x = false then
        (Handshaking.next? (c.participants x) (l.now, input)).map fun r =>
          (⟨l.now, .participant x input r.1.written⟩,
            c.afterParticipant l.now x r.2 r.1.written)
      else none
    | .endLoop x => some (l, { c with
        clock := l.now, loopEnded := Function.update c.loopEnded x true })
    | .restart x => some (l, c.afterRestart l.now x)
    | .learn i di _ =>
      if di ∈ c.announced then
        (c.deviceNext? l.now i (.deviceInfo di)).map fun r => (⟨l.now, .learn i di r.1⟩, r.2)
      else none
    | .hear i f _ =>
      if f ∈ c.heartbeats i then
        ((c.withoutFlight i f).deviceNext? l.now i (.heartbeat f.hb)).map fun r =>
          (⟨l.now, .hear i f r.1⟩, r.2)
      else none
    | .timeout i k _ =>
      (c.deviceNext? l.now i (.timeout k)).map fun r => (⟨l.now, .timeout i k r.1⟩, r.2)
    | .lose i f =>
      if f ∈ c.heartbeats i then some (l, { c.withoutFlight i f with clock := l.now }) else none
  else none

/-- What the step of a device for an input is. -/
theorem exists_of_deviceNext? {c c' : SelectionSystem τ ι} {now : ℤ} {i : ι}
    {input : ControllerSelector.Input} {effects : List Effect}
    (h : c.deviceNext? now i input = some (effects, c')) :
    ∃ d, ControllerSelector.Step (c.devices i) ⟨⟨now, input⟩, effects⟩ d ∧
      c' = c.afterDevice now i d := by
  obtain ⟨⟨l, d⟩, hnext, heq⟩ := Option.map_eq_some_iff.mp h
  obtain ⟨rfl, rfl⟩ := Prod.mk.inj heq
  have hstep := ControllerSelector.step_of_next? _ _ _ _ hnext
  rw [ControllerSelector.next?] at hnext
  split_ifs at hnext
  split at hnext
  · obtain ⟨rfl, -⟩ := Prod.mk.inj (Option.some.inj hnext)
    exact ⟨d, hstep, rfl⟩
  · simp at hnext

theorem step_of_next? (c : SelectionSystem τ ι) (l l' : Label ι) (c' : SelectionSystem τ ι)
    (h : next? c l = some (l', c')) : Step c l' c' := by
  obtain ⟨now, action⟩ := l
  rw [next?] at h
  split_ifs at h with hclock
  cases action with
  | participant x input written =>
    simp only at h
    split_ifs at h with hguard
    obtain ⟨⟨hl, p⟩, hnext, heq⟩ := Option.map_eq_some_iff.mp h
    obtain ⟨rfl, rfl⟩ := Prod.mk.inj heq
    have hstep := Handshaking.step_of_next? _ _ _ _ hnext
    rw [Handshaking.next?] at hnext
    split_ifs at hnext
    split at hnext
    · obtain ⟨rfl, -⟩ := Prod.mk.inj (Option.some.inj hnext)
      exact .participant hclock hguard hstep
    · simp at hnext
  | endLoop x =>
    obtain ⟨rfl, rfl⟩ := Prod.mk.inj (Option.some.inj h)
    exact .endLoop hclock
  | restart x =>
    obtain ⟨rfl, rfl⟩ := Prod.mk.inj (Option.some.inj h)
    exact .restart hclock
  | learn i di effects =>
    simp only at h
    split_ifs at h with hdi
    obtain ⟨⟨effects', c''⟩, hnext, heq⟩ := Option.map_eq_some_iff.mp h
    obtain ⟨rfl, rfl⟩ := Prod.mk.inj heq
    obtain ⟨d, hstep, rfl⟩ := exists_of_deviceNext? hnext
    exact .learn hclock hdi hstep
  | hear i f effects =>
    simp only at h
    split_ifs at h with hf
    obtain ⟨⟨effects', c''⟩, hnext, heq⟩ := Option.map_eq_some_iff.mp h
    obtain ⟨rfl, rfl⟩ := Prod.mk.inj heq
    obtain ⟨d, hstep, rfl⟩ := exists_of_deviceNext? hnext
    exact .hear hclock hf hstep
  | timeout i k effects =>
    obtain ⟨⟨effects', c''⟩, hnext, heq⟩ := Option.map_eq_some_iff.mp h
    obtain ⟨rfl, rfl⟩ := Prod.mk.inj heq
    obtain ⟨d, hstep, rfl⟩ := exists_of_deviceNext? hnext
    exact .timeout hclock hstep
  | lose i f =>
    simp only at h
    split_ifs at h with hf
    obtain ⟨rfl, rfl⟩ := Prod.mk.inj (Option.some.inj h)
    exact .lose hclock hf

/-- The computed run along a list of labels is a run. -/
theorem isSelectionRun_of_follow (deviceId : ι → Identity) (callbacks : ControllerCallbacks)
    (clock : ℤ) (ls : List (Label ι)) {tr : Trace τ ι} {c : SelectionSystem τ ι}
    (h : follow next? (init deviceId callbacks clock) ls = some (tr, c)) : IsSelectionRun tr c :=
  ⟨deviceId, callbacks, clock, isRun_of_follow step_of_next? ls h⟩

/-! ### The devices in a run -/

/-- The label of a step of a device. -/
def Label.ofDevice (i : ι) (l : Label ι) : Option ControllerSelector.Label :=
  match l.action with
  | .learn j di effects => if j = i then some ⟨⟨l.now, .deviceInfo di⟩, effects⟩ else none
  | .hear j f effects => if j = i then some ⟨⟨l.now, .heartbeat f.hb⟩, effects⟩ else none
  | .timeout j k effects => if j = i then some ⟨⟨l.now, .timeout k⟩, effects⟩ else none
  | .participant .. | .endLoop _ | .restart _ | .lose .. => none

/-- A device of a microgrid. -/
def device (i : ι) : Component (SelectionSystem τ ι) (Label ι) (ControllerSelector.Config τ)
    ControllerSelector.Label where
  state c := c.devices i
  label := Label.ofDevice i

section Device

variable {c c' : SelectionSystem τ ι} {l : Label ι} {i : ι}

/-- The clock does not go back. -/
theorem Step.clock_le (h : Step c l c') : c.clock ≤ l.now := by
  cases h <;> assumption

theorem Step.clock_eq (h : Step c l c') : c'.clock = l.now := by
  cases h <;> rfl

/-- A step of a device comes at the reading of the step of the microgrid. -/
theorem Label.now_of_ofDevice {k : ControllerSelector.Label} (hk : l.ofDevice i = some k) :
    k.event.now = l.now := by
  obtain ⟨now, action⟩ := l
  cases action with
  | participant | endLoop | restart | lose => cases hk
  | learn j | hear j | timeout j =>
    change (if j = i then _ else none) = some k at hk
    split_ifs at hk
    obtain rfl := Option.some.inj hk
    rfl

/-- What a step does to a device: nothing, or a step of the device at the same reading. -/
theorem Step.device_cases (h : Step c l c') (i : ι) :
    (l.ofDevice i = none ∧ c'.devices i = c.devices i) ∨
      ∃ input effects, l.ofDevice i = some ⟨⟨l.now, input⟩, effects⟩ ∧
        ControllerSelector.Step (c.devices i) ⟨⟨l.now, input⟩, effects⟩ (c'.devices i) := by
  cases h with
  | participant | endLoop | restart | lose => exact Or.inl ⟨rfl, rfl⟩
  | @learn now j di effects d hclock hdi hstep =>
    rcases eq_or_ne j i with rfl | hne
    · exact Or.inr ⟨_, effects, if_pos rfl, by simpa using hstep⟩
    · exact Or.inl ⟨if_neg hne, devices_afterDevice_of_ne c now hne.symm d⟩
  | @hear now j f effects d hclock hf hstep =>
    rcases eq_or_ne j i with rfl | hne
    · exact Or.inr ⟨_, effects, if_pos rfl, by simpa using hstep⟩
    · exact Or.inl ⟨if_neg hne, devices_afterDevice_of_ne (c.withoutFlight j f) now hne.symm d⟩
  | @timeout now j k effects d hclock hstep =>
    rcases eq_or_ne j i with rfl | hne
    · exact Or.inr ⟨_, effects, if_pos rfl, by simpa using hstep⟩
    · exact Or.inl ⟨if_neg hne, devices_afterDevice_of_ne c now hne.symm d⟩

/-- A device takes steps of its selector only. -/
theorem device_follows (i : ι) : (device (τ := τ) i).Follows Step ControllerSelector.Step where
  moves c l c' k hstep hk := by
    rcases hstep.device_cases i with ⟨hnone, -⟩ | ⟨input, effects, hsome, hmove⟩
    · cases hnone.symm.trans hk
    · obtain rfl := Option.some.inj (hsome.symm.trans hk)
      exact hmove
  stays c l c' hstep hnone := by
    rcases hstep.device_cases i with ⟨-, hsame⟩ | ⟨input, effects, hsome, -⟩
    · exact hsame
    · cases hnone.symm.trans hsome

/-- In a run of the microgrid every device makes a run of its selector. -/
theorem IsSelectionRun.deviceRun {tr : Trace τ ι} {c : SelectionSystem τ ι}
    (h : IsSelectionRun tr c) (i : ι) :
    ControllerSelector.IsSelectorRun ((device i).trace tr) (c.devices i) := by
  obtain ⟨deviceId, callbacks, clock, hrun⟩ := h
  exact ⟨deviceId i, callbacks, clock, hrun.component (device_follows i)⟩

theorem IsSelectionRun.snoc {tr : Trace τ ι} (h : IsSelectionRun tr c)
    (hstep : Step c l c') : IsSelectionRun (tr ++ [⟨c, l, c'⟩]) c' := by
  obtain ⟨deviceId, callbacks, clock, hrun⟩ := h
  exact ⟨deviceId, callbacks, clock, .snoc hrun hstep⟩

theorem IsSelectionRun.append {tr tr' : Trace τ ι} (h : IsSelectionRun tr c)
    (h' : IsRun Step c tr' c') : IsSelectionRun (tr ++ tr') c' := by
  obtain ⟨deviceId, callbacks, clock, hrun⟩ := h
  exact ⟨deviceId, callbacks, clock, hrun.append h'⟩

end Device

/-! ### What holds after every run -/

/-- The participants are well-formed, and the devices and the network are not ahead of the clock. -/
structure Consistent (c : SelectionSystem τ ι) : Prop where
  wellFormed : ∀ x, (c.participants x).participant.WellFormed
  deviceId : ∀ x, (c.participants x).participant.deviceId = x
  sent : ∀ i, ∀ f ∈ c.heartbeats i, f.sentAt ≤ c.clock
  reached : ∀ i, (c.devices i).clock ≤ c.clock

section Consistent

variable {c c' : SelectionSystem τ ι} {l : Label ι}

omit [DecidableEq ι] [TimePoint τ] in
/-- A step of a participant is an outcome of its `Handshaking`. -/
theorem Consistent.outcome (h : Consistent c) {x : Identity} {now : ℤ}
    {input : Handshaking.Input} {written : List Written} {p : Handshaking.Config}
    (hstep : Handshaking.Step (c.participants x) ⟨now, input, written⟩ p) :
    Handshaking.Outcome (c.participants x).participant now input p.participant written :=
  .of_handle (h.wellFormed x) hstep.1.2 hstep.2.1

omit [DecidableEq ι] [TimePoint τ] in
/-- The heartbeats that a step puts on their way carry the id of the participant and the reading of
the step. -/
theorem Consistent.of_mem_flightsOf (h : Consistent c) {x : Identity} {now : ℤ}
    {input : Handshaking.Input} {written : List Written} {p : Handshaking.Config}
    (hstep : Handshaking.Step (c.participants x) ⟨now, input, written⟩ p) {f : Flight}
    (hf : f ∈ flightsOf now written) :
    input.isTimeout ∧ f.sentAt = now ∧ f.hb.deviceId = x := by
  have hout := h.outcome hstep
  rw [flightsOf, hout.heartbeats_eq] at hf
  split_ifs at hf with hinput
  · obtain ⟨hb, hhb, rfl⟩ := List.mem_map.mp hf
    obtain rfl := List.mem_singleton.mp hhb
    obtain ⟨d, hd, -⟩ := hstep.1.2.of_isTimeout hinput
    have hactive : (c.participants x).participant.heartbeat.active = true :=
      Timer.active_iff.mpr ⟨d, hd⟩
    exact ⟨hinput, rfl, ((h.wellFormed x).deviceId hactive).trans (h.deviceId x)⟩
  · cases hf

omit [DecidableEq ι] [TimePoint τ] in
theorem Consistent.init (deviceId : ι → Identity) (callbacks : ControllerCallbacks) (clock : ℤ) :
    Consistent (τ := τ) (init deviceId callbacks clock) where
  wellFormed _ := .of_inactive rfl
  deviceId _ := rfl
  sent i f hf := by cases hf
  reached _ := le_rfl

/-- Every step keeps the microgrid consistent. -/
theorem Consistent.step (h : Consistent c) (hstep : Step c l c') :
    Consistent c' := by
  have hclock : c.clock ≤ c'.clock := hstep.clock_eq ▸ hstep.clock_le
  have hsent : ∀ i, ∀ f ∈ c.heartbeats i, f.sentAt ≤ c'.clock :=
    fun i f hf => (h.sent i f hf).trans hclock
  have hreached : ∀ i, (c'.devices i).clock ≤ c'.clock := by
    intro i
    rcases hstep.device_cases i with ⟨-, hsame⟩ | ⟨input, effects, -, -, -, hnow⟩
    · rw [hsame]
      exact (h.reached i).trans hclock
    · rw [hnow]
      cases hstep <;> exact le_rfl
  cases hstep with
  | @participant now x input written p _ _ hparticipant =>
    have hout := h.outcome hparticipant
    refine ⟨fun y => ?_, fun y => ?_, fun i f hf => ?_, hreached⟩
    · rcases eq_or_ne y x with rfl | hne
      · rw [participants_afterParticipant_self]
        exact (h.wellFormed y).of_outcome hout
      · rw [participants_afterParticipant_of_ne c now hne]
        exact h.wellFormed y
    · rcases eq_or_ne y x with rfl | hne
      · rw [participants_afterParticipant_self]
        exact hout.deviceId_eq.trans (h.deviceId y)
      · rw [participants_afterParticipant_of_ne c now hne]
        exact h.deviceId y
    · rcases List.mem_append.mp hf with hf | hf
      · exact hsent i f hf
      · exact (h.of_mem_flightsOf hparticipant hf).2.1.le
  | endLoop => exact ⟨h.wellFormed, h.deviceId, hsent, hreached⟩
  | @restart now x =>
    refine ⟨fun y => ?_, fun y => ?_, hsent, hreached⟩
    · rcases eq_or_ne y x with rfl | hne
      · rw [participants_afterRestart_self]
        exact .of_inactive rfl
      · rw [participants_afterRestart_of_ne c now hne]
        exact h.wellFormed y
    · rcases eq_or_ne y x with rfl | hne
      · rw [participants_afterRestart_self]
        rfl
      · rw [participants_afterRestart_of_ne c now hne]
        exact h.deviceId y
  | learn | timeout => exact ⟨h.wellFormed, h.deviceId, hsent, hreached⟩
  | @hear now i f | @lose now i f =>
    exact ⟨h.wellFormed, h.deviceId, fun j g hg => hsent j g (mem_of_mem_withoutFlight hg),
      hreached⟩

/-- Every run leaves the microgrid consistent. -/
theorem IsSelectionRun.consistent {tr : Trace τ ι} (h : IsSelectionRun tr c) :
    Consistent c := by
  obtain ⟨deviceId, callbacks, clock, hrun⟩ := h
  exact hrun.invariant (.init deviceId callbacks clock) fun _ _ _ hc hstep => hc.step hstep

/-! ### When the next heartbeat is due -/

omit [DecidableEq ι] in
/-- The reactor of the participant keeps to the schedule of its heartbeats. -/
def OnSchedule (x : Identity) (c : SelectionSystem τ ι) (l : Label ι) : Prop :=
  match l.action with
  | .participant y input _ => y = x → (c.participants y).participant.OnSchedule l.now input
  | _ => True

omit [DecidableEq ι] in
instance (x : Identity) (c : SelectionSystem τ ι) : (l : Label ι) → Decidable (OnSchedule x c l)
  | ⟨now, .participant y input _⟩ =>
    inferInstanceAs (Decidable (y = x → (c.participants y).participant.OnSchedule now input))
  | ⟨_, .endLoop _⟩ | ⟨_, .restart _⟩ | ⟨_, .learn ..⟩ | ⟨_, .hear ..⟩ | ⟨_, .timeout ..⟩
  | ⟨_, .lose ..⟩ => isTrue trivial

omit [DecidableEq ι] in
/-- The next heartbeat of the participant, if it sends any, is due within a period. -/
def DueSoon (x : Identity) (c : SelectionSystem τ ι) : Prop :=
  ∀ d ∈ (c.participants x).participant.heartbeat.expiry,
    d ≤ c.clock + Handshaking.heartbeatPeriod

/-- A step at which the reactor keeps to the schedule. -/
theorem Step.dueSoon (hstep : Step c l c') (hc : Consistent c) {x : Identity}
    (hreactor : OnSchedule x c l) (h : DueSoon x c) : DueSoon x c' := by
  have hdue : ∀ d ∈ (c.participants x).participant.heartbeat.expiry,
      d ≤ c'.clock + Handshaking.heartbeatPeriod := fun d hd =>
    (h d hd).trans (Int.add_le_add_right (hstep.clock_eq ▸ hstep.clock_le) _)
  cases hstep with
  | @participant now y input written p _ _ hparticipant =>
    intro d hd
    rcases eq_or_ne x y with rfl | hne
    · rw [participants_afterParticipant_self] at hd
      exact (hc.outcome hparticipant).due (hc.wellFormed x) (hreactor rfl) hdue d hd
    · rw [participants_afterParticipant_of_ne c now hne] at hd
      exact hdue d hd
  | @restart now y =>
    intro d hd
    rcases eq_or_ne x y with rfl | hne
    · rw [participants_afterRestart_self] at hd
      cases hd
    · rw [participants_afterRestart_of_ne c now hne] at hd
      exact hdue d hd
  | endLoop | learn | hear | timeout | lose => exact hdue

/-- If the reactor of a participant keeps to the schedule, the next heartbeat is due within a
period. -/
theorem IsSelectionRun.dueSoon {tr : Trace τ ι} {x : Identity} (h : IsSelectionRun tr c)
    (hreactor : ∀ t ∈ tr, OnSchedule x t.source t.label) : DueSoon x c := by
  obtain ⟨deviceId, callbacks, clock, hrun⟩ := h
  refine (hrun.invariant_of_forall (C := OnSchedule x) hreactor
    (P := fun c => Consistent c ∧ DueSoon x c)
    ⟨.init deviceId callbacks clock, fun d hd => by cases hd⟩ ?_).2
  rintro c l c' ⟨hc, hdue⟩ hreactor hstep
  exact ⟨hc.step hstep, hstep.dueSoon hc hreactor hdue⟩

omit [DecidableEq ι] [TimePoint τ] in
/-- A timeout of a participant leaves its timer active. -/
theorem Consistent.active_of_timeout (h : Consistent c) {x : Identity} {now : ℤ}
    {input : Handshaking.Input} {written : List Written} {p : Handshaking.Config}
    (hstep : Handshaking.Step (c.participants x) ⟨now, input, written⟩ p)
    (hinput : input.isTimeout) :
    p.participant.heartbeat.active = true ∧
      (c.participants x).participant.heartbeat.active = true ∧
      p.participant.hbDw = (c.participants x).participant.hbDw := by
  have hout := h.outcome hstep
  generalize p.participant = q at hout
  cases hout with
  | fired d hd =>
    have hactive : (c.participants x).participant.heartbeat.active = true :=
      Timer.active_iff.mpr ⟨d, hd⟩
    have hperiod : (c.participants x).participant.heartbeat.period ≠ 0 := by
      rw [(h.wellFormed x).period hactive]
      decide
    exact ⟨Timer.active_iff.mpr ⟨_, Timer.expiry_putBack hperiod hd⟩, hactive, rfl⟩
  | createPublishers | unstarted | sent | notStarted | started | stopped => cases hinput

/-- What a participant is not asked for leaves its heartbeats started or stopped as they are. -/
theorem Step.active_eq (hstep : Step c l c') (hc : Consistent c) {x : Identity}
    (hinput : ∀ input written, l.action = .participant x input written → input.isTimeout)
    (hrestart : l.action ≠ .restart x) :
    (c'.participants x).participant.heartbeat.active =
        (c.participants x).participant.heartbeat.active ∧
      (c'.participants x).participant.hbDw = (c.participants x).participant.hbDw := by
  cases hstep with
  | @participant now y input written p _ _ hparticipant =>
    rcases eq_or_ne x y with rfl | hne
    · obtain ⟨hactive', hactive, hwriter⟩ :=
        hc.active_of_timeout hparticipant (hinput input written rfl)
      rw [participants_afterParticipant_self]
      exact ⟨hactive'.trans hactive.symm, hwriter⟩
    · rw [participants_afterParticipant_of_ne c now hne]
      exact ⟨rfl, rfl⟩
  | @restart now y =>
    have hne : x ≠ y := fun heq => hrestart (heq ▸ rfl)
    rw [participants_afterRestart_of_ne c now hne]
    exact ⟨rfl, rfl⟩
  | endLoop | learn | hear | timeout | lose => exact ⟨rfl, rfl⟩

/-- A participant that stops its heartbeats. -/
theorem Step.active_of_stop (hc : Consistent c) {now : ℤ} {x : Identity}
    {written : List Written}
    (hstep : Step c ⟨now, .participant x .stopHeartbeats written⟩ c') :
    (c'.participants x).participant.heartbeat.active = false := by
  cases hstep with
  | @participant _ _ _ _ p _ _ hparticipant =>
    rw [participants_afterParticipant_self]
    have hout := hc.outcome hparticipant
    generalize p.participant = q at hout
    cases hout with
    | stopped => exact Handshaking.active_stopHeartbeats _

/-- A participant that starts its heartbeats, if it has a writer. -/
theorem Step.active_of_start (hc : Consistent c) {now : ℤ} {x : Identity}
    {written : List Written}
    (hstep : Step c ⟨now, .participant x .startHeartbeats written⟩ c') :
    (c'.participants x).participant.heartbeat.active = true ↔
      (c'.participants x).participant.hbDw = true := by
  cases hstep with
  | @participant _ _ _ _ p _ _ hparticipant =>
    rw [participants_afterParticipant_self]
    have hout := hc.outcome hparticipant
    generalize p.participant = q at hout
    cases hout with
    | notStarted hnot =>
      refine ⟨(hc.wellFormed x).writer, fun hwriter => ?_⟩
      exact hnot.resolve_left fun hnone => absurd (hnone.symm.trans hwriter) Bool.false_ne_true
    | started hwriter => exact ⟨fun _ => hwriter, fun _ => rfl⟩

/-- A reactor stops when it is stopped only. -/
theorem Step.loopEnded_eq (hstep : Step c l c') {x : Identity}
    (hend : l.action ≠ .endLoop x) (hrestart : l.action ≠ .restart x) :
    c'.loopEnded x = c.loopEnded x := by
  cases hstep with
  | @endLoop now y => exact Function.update_of_ne (fun heq : x = y => hend (heq ▸ rfl)) ..
  | @restart now y => exact Function.update_of_ne (fun heq : x = y => hrestart (heq ▸ rfl)) ..
  | participant | learn | hear | timeout | lose => rfl

/-- A reactor that is stopped has stopped. -/
theorem Step.loopEnded_of_endLoop {now : ℤ} {x : Identity}
    (hstep : Step c ⟨now, .endLoop x⟩ c') : c'.loopEnded x = true := by
  cases hstep with
  | endLoop => exact Function.update_self ..

/-- A device learns what has been announced. -/
theorem Step.mem_announced (hstep : Step c l c') {i : ι} {k : ControllerSelector.Label}
    (hk : l.ofDevice i = some k) {di : DeviceInfo} (hdi : k.event.input.deviceInfo? = some di) :
    di ∈ c.announced := by
  cases hstep with
  | participant | endLoop | restart | lose => cases hk
  | @learn _ j di' effects d _ hannounced =>
    change (if j = i then _ else none) = some k at hk
    split_ifs at hk
    obtain rfl := Option.some.inj hk
    rwa [← Option.some.inj hdi]
  | @hear _ j | @timeout _ j =>
    change (if j = i then _ else none) = some k at hk
    split_ifs at hk
    obtain rfl := Option.some.inj hk
    cases hdi

/-- If the step announces a participant, then as `info` says. -/
def Label.AnnouncesAs (info : Identity → DeviceInfo) (l : Label ι) : Prop :=
  match l.action with
  | .participant x (.sendDeviceInfo di _ _) _ => di = info x
  | _ => True

omit [DecidableEq ι] in
instance (info : Identity → DeviceInfo) : (l : Label ι) → Decidable (l.AnnouncesAs info)
  | ⟨_, .participant x (.sendDeviceInfo di _ _) _⟩ =>
    inferInstanceAs (Decidable (di = info x))
  | ⟨_, .participant _ (.createPublishers ..) _⟩ | ⟨_, .participant _ .startHeartbeats _⟩
  | ⟨_, .participant _ .stopHeartbeats _⟩ | ⟨_, .participant _ (.timeout _) _⟩
  | ⟨_, .endLoop _⟩ | ⟨_, .restart _⟩ | ⟨_, .learn ..⟩ | ⟨_, .hear ..⟩ | ⟨_, .timeout ..⟩
  | ⟨_, .lose ..⟩ => isTrue trivial

/-- What has been announced, if all participants announce themselves always as the same. -/
theorem IsSelectionRun.announced {info : Identity → DeviceInfo} {tr : Trace τ ι}
    (h : IsSelectionRun tr c) (hinfo : ∀ t ∈ tr, t.label.AnnouncesAs info) :
    ∀ di ∈ c.announced, ∃ x, di = info x := by
  obtain ⟨deviceId, callbacks, clock, hrun⟩ := h
  refine (hrun.invariant_of_forall (C := fun _ l => l.AnnouncesAs info) hinfo
    (P := fun c => Consistent c ∧ ∀ di ∈ c.announced, ∃ x, di = info x)
    ⟨.init deviceId callbacks clock, fun di hdi => by cases hdi⟩ ?_).2
  rintro c l c' ⟨hc, hannounced⟩ hinfo hstep
  refine ⟨hc.step hstep, ?_⟩
  cases hstep with
  | @participant now x input written p _ _ hparticipant =>
    intro di hdi
    rcases List.mem_append.mp hdi with hdi | hdi
    · exact hannounced di hdi
    · obtain ⟨registered, rc, rfl⟩ := (hc.outcome hparticipant).exists_of_deviceInfo hdi
      exact ⟨x, hinfo⟩
  | endLoop | restart | learn | hear | timeout | lose => exact hannounced

/-- A device files the controllers under the rankings that they announce, if these do not change. -/
theorem IsSelectionRun.filedAs {info : Identity → DeviceInfo} {tr : Trace τ ι}
    (h : IsSelectionRun tr c) (hinfo : ∀ t ∈ tr, t.label.AnnouncesAs info)
    (hid : ∀ x, (info x).deviceId = x) (i : ι) :
    ControllerSelector.FiledAs (fun x => PrioritizedController.ranking (info x))
      (c.devices i).selector := by
  have hlearnt : ∀ u ∈ (device i).trace tr, ∀ di, u.label.event.input.deviceInfo? = some di →
      ∃ x, di = info x := by
    refine Component.forall_mem_trace fun t ht k hk di hdi => ?_
    obtain ⟨deviceId, callbacks, clock, hrun⟩ := h
    obtain ⟨pre, hpre⟩ := exists_prefix_snoc_of_mem ht
    obtain ⟨hbefore, hstep⟩ := hrun.of_prefix_snoc hpre
    exact IsSelectionRun.announced ⟨deviceId, callbacks, clock, hbefore⟩
      (fun u hu => hinfo u (hpre.subset (List.mem_append_left _ hu))) di
      (hstep.mem_announced hk hdi)
  refine (h.deviceRun i).filedAs fun di hdi _ => ?_
  obtain ⟨u, hu, hdi⟩ := List.mem_filterMap.mp hdi
  obtain ⟨x, rfl⟩ := hlearnt u hu di hdi
  rw [hid]

end Consistent

end SelectionSystem

end TacticalMicrogrid
