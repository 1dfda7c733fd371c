import TacticalMicrogrid.Selection.SelectionSystem

/-!
# The failover from one controller to another

A controller that goes on sending heartbeats, all of which reach a device in time, is never silent
for long there: when its timer is due the next heartbeat is sent, and one that is on its way
arrives. So the device keeps it. A controller that sends no more heartbeats is given up, since the
last ones on their way arrive or get lost in time; and then the device selects among the controllers
that go on, by their rankings. Devices that lose their controllers together agree on the next one.

The times are those of `TacticalMicrogrid.Common.Selector.Timely`: a timeout is at most `lag` late,
and a heartbeat is on its way for at most `delay`. What is supposed of the network is supposed of
the heartbeats of the controllers that a result is about, and of those of all others only in a
failover. The ages that the devices compute are exact; `TacticalMicrogrid.Selection.ExactClocks`
says of which runs on the 64-bit clock this holds.

## Main definitions

* `SelectionSystem.Sends`, `SelectionSystem.Arrives`, `SelectionSystem.Reaches`.
* `SelectionSystem.Regular`: the next heartbeat of a controller is due or on its way.
* `SelectionSystem.Quiet`: a controller has sent no heartbeat after a reading.
* `SelectionSystem.Failover`: a device goes on hearing some controllers, and loses its own.

## Main results

* `SelectionSystem.keeps_sender`: a device keeps a controller that goes on.
* `SelectionSystem.drops_silent_sender`: a device gives up a controller that is silent.
* `SelectionSystem.selects_reached`: a device that is reached by a controller has one.
* `SelectionSystem.fails_over`: devices that lose their controllers agree on the next one.
-/

namespace TacticalMicrogrid

open TransitionSystem

namespace SelectionSystem

variable {τ ι : Type}

/-! ### Who sends, and what arrives -/

/-- The participant sends heartbeats: its timer is active and its reactor runs. -/
def Sends (c : SelectionSystem τ ι) (x : Identity) : Prop :=
  (c.participants x).participant.heartbeat.active = true ∧ c.loopEnded x = false

instance (c : SelectionSystem τ ι) (x : Identity) : Decidable (c.Sends x) :=
  inferInstanceAs (Decidable (_ ∧ _))

/-- The participant that writes a heartbeat in a step. -/
def Label.sender (l : Label ι) : Option Identity :=
  match l.action with
  | .participant x (.timeout _) _ => some x
  | _ => none

/-- The heartbeat that is lost in a step. -/
def Label.lost (l : Label ι) : Option (ι × Flight) :=
  match l.action with
  | .lose i f => some (i, f)
  | _ => none

/-- At a step, no heartbeat of the participant has been on its way to the device for longer than the
delay. -/
def Arrives (delay : Duration) (i : ι) (x : Identity) (c : SelectionSystem τ ι) (l : Label ι) :
    Prop :=
  ∀ f ∈ c.heartbeats i, f.hb.deviceId = x → l.now ≤ f.sentAt + delay

instance (delay : Duration) (i : ι) (x : Identity) (c : SelectionSystem τ ι) (l : Label ι) :
    Decidable (Arrives delay i x c l) :=
  inferInstanceAs (Decidable (∀ f ∈ c.heartbeats i, _))

/-- At a step, a participant goes on sending heartbeats to a device: its timer is not overdue by
more than the lag, none of its heartbeats is lost, and none is on its way for longer than the
delay. -/
structure Reaches (lag delay : Duration) (i : ι) (x : Identity) (c : SelectionSystem τ ι)
    (l : Label ι) : Prop where
  sends : c.Sends x
  prompt : ∀ d ∈ (c.participants x).participant.heartbeat.expiry, l.now ≤ d + lag
  kept : ∀ p ∈ l.lost, p.1 = i → p.2.hb.deviceId ≠ x
  arrives : Arrives delay i x c l

instance [DecidableEq ι] (lag delay : Duration) (i : ι) (x : Identity) (c : SelectionSystem τ ι)
    (l : Label ι) : Decidable (Reaches lag delay i x c l) :=
  decidable_of_iff (c.Sends x ∧
      (∀ d ∈ (c.participants x).participant.heartbeat.expiry, l.now ≤ d + lag) ∧
      (∀ p ∈ l.lost, p.1 = i → p.2.hb.deviceId ≠ x) ∧ Arrives delay i x c l)
    ⟨fun h => ⟨h.1, h.2.1, h.2.2.1, h.2.2.2⟩, fun h => ⟨h.1, h.2, h.3, h.4⟩⟩

/-! ### What a step does to a heartbeat -/

section Network

variable [TimePoint τ] [DecidableEq ι] {c c' : SelectionSystem τ ι} {l : Label ι} {i : ι}
  {x : Identity}

/-- A heartbeat on its way stays there until it is heard or lost. -/
theorem Step.mem_heartbeats (hstep : Step c l c') {f : Flight} (hf : f ∈ c.heartbeats i) :
    f ∈ c'.heartbeats i ∨ (∃ effects, l.action = .hear i f effects) ∨ l.lost = some (i, f) := by
  cases hstep with
  | participant => exact Or.inl (List.mem_append_left _ hf)
  | endLoop | restart | learn | timeout => exact Or.inl hf
  | @hear now j g effects =>
    exact (mem_withoutFlight hf j g).imp_right fun ⟨hj, hg⟩ => Or.inl ⟨effects, by rw [hj, hg]⟩
  | @lose now j g =>
    exact (mem_withoutFlight hf j g).imp_right fun ⟨hj, hg⟩ => Or.inr (by rw [← hj, ← hg]; rfl)

/-- A heartbeat on its way after a step was so before, or is written in the step. -/
theorem Step.of_mem_heartbeats (hstep : Step c l c') (hc : Consistent c) {f : Flight}
    (hf : f ∈ c'.heartbeats i) : f ∈ c.heartbeats i ∨ l.sender = some f.hb.deviceId := by
  cases hstep with
  | @participant now y input written p _ _ hparticipant =>
    rcases List.mem_append.mp hf with hf | hf
    · exact Or.inl hf
    · obtain ⟨hinput, -, rfl⟩ := hc.of_mem_flightsOf hparticipant hf
      cases input with
      | timeout due => exact Or.inr rfl
      | createPublishers | sendDeviceInfo | startHeartbeats | stopHeartbeats => cases hinput
  | endLoop | restart | learn | timeout => exact Or.inl hf
  | hear | lose => exact Or.inl (mem_of_mem_withoutFlight hf)

/-- A heartbeat that a device hears was on its way. -/
theorem Step.mem_of_hear (hstep : Step c l c') {f : Flight} {effects : List Effect}
    (hl : l.action = .hear i f effects) : f ∈ c.heartbeats i := by
  obtain ⟨now, action⟩ := l
  obtain rfl : action = .hear i f effects := hl
  cases hstep with
  | hear _ hf => exact hf

/-- A participant that writes a heartbeat has its timer active, and its reactor runs. -/
theorem Step.sends_of_sender (hstep : Step c l c') (hc : Consistent c)
    (hsender : l.sender = some x) : c.Sends x := by
  cases hstep with
  | @participant now y input written p _ hloop hparticipant =>
    cases input with
    | timeout =>
      obtain rfl := Option.some.inj hsender
      exact ⟨(hc.active_of_timeout hparticipant rfl).2.1, hloop rfl⟩
    | createPublishers | sendDeviceInfo | startHeartbeats | stopHeartbeats => cases hsender
  | endLoop | restart | learn | hear | timeout | lose => cases hsender

/-- A participant that goes on sending is due when it was, or it has put a heartbeat on its way. -/
theorem Step.due_cases (hstep : Step c l c') (hc : Consistent c) (hsends : c.Sends x)
    (hsends' : c'.Sends x) :
    (c'.participants x).participant.heartbeat.expiry =
        (c.participants x).participant.heartbeat.expiry ∨
      ∀ i, ⟨l.now, (c.participants x).participant.nextHeartbeat⟩ ∈ c'.heartbeats i := by
  cases hstep with
  | @participant now y input written p _ _ hparticipant =>
    rcases eq_or_ne x y with rfl | hne
    · have hout := hc.outcome hparticipant
      obtain ⟨hactive, -⟩ := hsends
      obtain ⟨hactive', -⟩ := hsends'
      rw [participants_afterParticipant_self] at hactive' ⊢
      by_cases hinput : input.isTimeout
      · refine Or.inr fun i => List.mem_append_right _ ?_
        rw [flightsOf, hout.heartbeats_eq, if_pos hinput]
        exact List.mem_singleton.mpr rfl
      · refine Or.inl ?_
        generalize p.participant = q at hout hactive'
        cases hout with
        | createPublishers diOk hbOk =>
          obtain ⟨diDw, hbDw, heq, -⟩ :=
            Handshaking.createPublishers_eq (c.participants x).participant diOk hbOk
          rw [heq]
        | unstarted | notStarted => rfl
        | sent _ _ _ _ hinactive | started _ hinactive =>
          exact absurd (hinactive.symm.trans hactive) Bool.false_ne_true
        | stopped =>
          exact absurd ((Handshaking.active_stopHeartbeats _).symm.trans hactive')
            Bool.false_ne_true
        | fired => exact absurd rfl hinput
    · rw [participants_afterParticipant_of_ne c now hne]
      exact Or.inl rfl
  | endLoop | learn | hear | timeout | lose => exact Or.inl rfl
  | @restart now y =>
    rcases eq_or_ne x y with rfl | hne
    · obtain ⟨hactive', -⟩ := hsends'
      rw [participants_afterRestart_self] at hactive'
      exact absurd hactive' Bool.false_ne_true
    · rw [participants_afterRestart_of_ne c now hne]
      exact Or.inl rfl

end Network

/-! ### What a device has last heard -/

/-- The device has heard from the controller within the second before. -/
def JustHeard (c : SelectionSystem ExactTime ι) (i : ι) (x : Identity) : Prop :=
  ∃ last ∈ (c.devices i).selector.lastHeard x, c.clock ≤ last + Sec 1

instance (c : SelectionSystem ExactTime ι) (i : ι) (x : Identity) : Decidable (c.JustHeard i x) :=
  inferInstanceAs (Decidable (∃ last ∈ (c.devices i).selector.lastHeard x, _))

/-- The next heartbeat of a controller is due, or one is on its way to the device, soon after the
last one that the device has heard. -/
def Regular (lag : Duration) (i : ι) (x : Identity) (c : SelectionSystem ExactTime ι) : Prop :=
  ∃ last ∈ (c.devices i).selector.lastHeard x,
    (∃ d ∈ (c.participants x).participant.heartbeat.expiry, d ≤ last + Sec 2) ∨
      ∃ f ∈ c.heartbeats i, f.hb.deviceId = x ∧ f.sentAt ≤ last + Sec 2 + lag

variable [DecidableEq ι] {c c' : SelectionSystem ExactTime ι} {l : Label ι} {i : ι}
  {x : Identity}


/-- A device hears a controller that it knows. -/
theorem Step.lastHeard_of_hear {tr : Trace ExactTime ι} (h : IsSelectionRun tr c)
    (hstep : Step c l c') {f : Flight} {effects : List Effect}
    (hl : l.action = .hear i f effects)
    (hknown : f.hb.deviceId ∈ (c.devices i).selector.allControllers) :
    (c'.devices i).selector.lastHeard f.hb.deviceId = some l.now := by
  obtain ⟨now, action⟩ := l
  obtain rfl : action = .hear i f effects := hl
  cases hstep with
  | hear _ _ hmove =>
    rw [devices_afterDevice_self]
    have hout := ControllerSelector.Outcome.of_handle (h.deviceRun i).wellFormed hmove.1.2
      hmove.2.1
    exact hout.lastHeard_of_heartbeat hknown

/-- What a device has last heard from the controller of a heartbeat that it hears, if anything, is
that heartbeat. -/
theorem Step.eq_of_mem_lastHeard {tr : Trace ExactTime ι} (h : IsSelectionRun tr c)
    (hstep : Step c l c') {f : Flight} {effects : List Effect}
    (hl : l.action = .hear i f effects) {last : ℤ}
    (hlast : last ∈ (c'.devices i).selector.lastHeard f.hb.deviceId) : last = l.now := by
  obtain ⟨now, action⟩ := l
  obtain rfl : action = .hear i f effects := hl
  cases hstep with
  | hear _ _ hmove =>
    rw [devices_afterDevice_self] at hlast
    have hout := ControllerSelector.Outcome.of_handle (h.deviceRun i).wellFormed hmove.1.2
      hmove.2.1
    exact hout.eq_of_mem_lastHeard hlast

/-- Other steps change nothing about when a device has last heard a controller. -/
theorem Step.lastHeard_of_other {tr : Trace ExactTime ι} (h : IsSelectionRun tr c)
    (hstep : Step c l c')
    (hother : ∀ f effects, l.action = .hear i f effects → f.hb.deviceId ≠ x) :
    (c'.devices i).selector.lastHeard x = (c.devices i).selector.lastHeard x := by
  rcases hstep.device_cases i with ⟨-, hsame⟩ | ⟨input, effects, hl, hmove⟩
  · rw [hsame]
  · have hout := ControllerSelector.Outcome.of_handle (h.deviceRun i).wellFormed hmove.1.2
      hmove.2.1
    refine hout.lastHeard_of_other fun hb hinput => ?_
    obtain ⟨now, action⟩ := l
    obtain rfl : input = .heartbeat hb := hinput
    cases action with
    | participant | endLoop | restart | lose => cases hl
    | learn j | timeout j =>
      change (if j = i then _ else none) = some _ at hl
      split_ifs at hl
      cases hl
    | hear j f =>
      change (if j = i then _ else none) = some _ at hl
      split_ifs at hl with hj
      obtain rfl := hj
      cases hl
      exact hother f _ rfl

/-! ### A participant that goes on sending -/

section Regular

variable {lag delay : Duration}

omit [DecidableEq ι] in
/-- A participant that sends is regular at a device that has just heard it. -/
theorem JustHeard.regular (h : c.JustHeard i x) (hsoon : DueSoon x c) (hsends : c.Sends x) :
    Regular lag i x c := by
  obtain ⟨last, hlast, hle⟩ := h
  obtain ⟨d, hd⟩ := Timer.active_iff.mp hsends.1
  refine ⟨last, hlast, Or.inl ⟨d, hd, ?_⟩⟩
  have hdue := hsoon d hd
  rw [Handshaking.heartbeatPeriod] at hdue
  simp only [Sec] at hdue hle ⊢
  linarith

omit [DecidableEq ι] in
/-- How long a regular participant can be silent at a device. -/
theorem Regular.exists_lastHeard (h : Regular lag i x c) (hdelay : 0 ≤ delay)
    (hreaches : Reaches lag delay i x c l) :
    ∃ last ∈ (c.devices i).selector.lastHeard x, l.now ≤ last + Sec 2 + lag + delay := by
  obtain ⟨last, hlast, ⟨d, hd, hle⟩ | ⟨f, hf, hx, hle⟩⟩ := h
  · have hprompt := hreaches.prompt d hd
    exact ⟨last, hlast, by linarith⟩
  · have harrives := hreaches.arrives f hf hx
    exact ⟨last, hlast, by linarith⟩

/-- A step keeps a participant regular that goes on sending and reaches the device. -/
theorem Regular.step {tr : Trace ExactTime ι} (h : Regular lag i x c) (hrun : IsSelectionRun tr c)
    (hstep : Step c l c') (hsoon' : DueSoon x c') (hreaches : Reaches lag delay i x c l)
    (hsends' : c'.Sends x) : Regular lag i x c' := by
  have hc := hrun.consistent
  obtain ⟨last, hlast, hnext⟩ := h
  by_cases hhear : ∃ f effects, l.action = .hear i f effects ∧ f.hb.deviceId = x
  · -- The device has just heard the participant, whose timer is due within a second.
    obtain ⟨f, effects, hl, rfl⟩ := hhear
    have hknown := ControllerSelector.mem_allControllers_of_lastHeard hlast
    have hnow := hstep.lastHeard_of_hear hrun hl hknown
    have hone : (0 : ℤ) ≤ Sec 1 := by decide
    refine JustHeard.regular ⟨l.now, hnow, ?_⟩ hsoon' hsends'
    rw [hstep.clock_eq]
    linarith
  · have hother : ∀ f effects, l.action = .hear i f effects → f.hb.deviceId ≠ x :=
      fun f effects hl hf => hhear ⟨f, effects, hl, hf⟩
    refine ⟨last, (hstep.lastHeard_of_other hrun hother).trans hlast, ?_⟩
    rcases hnext with ⟨d, hd, hle⟩ | ⟨f, hf, hx, hle⟩
    · rcases hstep.due_cases hc hreaches.sends hsends' with hsame | hsent
      · exact Or.inl ⟨d, hsame ▸ hd, hle⟩
      · have hid := ((hc.wellFormed x).deviceId hreaches.sends.1).trans (hc.deviceId x)
        have hprompt := hreaches.prompt d hd
        exact Or.inr ⟨_, hsent i, hid, by linarith⟩
    · rcases hstep.mem_heartbeats hf with hstays | ⟨effects, hl⟩ | hlost
      · exact Or.inr ⟨f, hstays, hx, hle⟩
      · exact absurd hx (hother f effects hl)
      · exact absurd hx (hreaches.kept _ hlost rfl)

/-- In a continuation in which a participant goes on sending and reaches the device, it is regular
as long as it sends. -/
theorem IsSelectionRun.regular_after {before after : Trace ExactTime ι}
    {m : SelectionSystem ExactTime ι} (hbefore : IsSelectionRun before m)
    (hafter : IsRun Step m after c)
    (hreactor : ∀ t ∈ before ++ after, OnSchedule x t.source t.label) (hheard : m.JustHeard i x)
    (hreaches : ∀ t ∈ after, Reaches lag delay i x t.source t.label) :
    (∃ tr, IsSelectionRun tr c) ∧ (c.Sends x → Regular lag i x c) := by
  have hsoon := hbefore.dueSoon fun t ht => hreactor t (List.mem_append_left _ ht)
  refine (hafter.invariant_of_forall
    (C := fun c l => OnSchedule x c l ∧ Reaches lag delay i x c l)
    (fun t ht => ⟨hreactor t (List.mem_append_right _ ht), hreaches t ht⟩)
    (P := fun c => ((∃ tr, IsSelectionRun tr c) ∧ (c.Sends x → Regular lag i x c)) ∧ DueSoon x c)
    ⟨⟨⟨before, hbefore⟩, hheard.regular hsoon⟩, hsoon⟩ ?_).1
  rintro c l c' ⟨⟨⟨tr, hrun⟩, hregular⟩, hsoon⟩ ⟨hreactor, hreaches⟩ hstep
  have hsoon' := hstep.dueSoon hrun.consistent hreactor hsoon
  exact ⟨⟨⟨_, hrun.snoc hstep⟩, (hregular hreaches.sends).step hrun hstep hsoon' hreaches⟩, hsoon'⟩

/-- So such a participant was heard from a short time before every step. -/
theorem IsSelectionRun.heard_after {before after : Trace ExactTime ι}
    {m : SelectionSystem ExactTime ι} (hbefore : IsSelectionRun before m)
    (hafter : IsRun Step m after c)
    (hreactor : ∀ t ∈ before ++ after, OnSchedule x t.source t.label) (hheard : m.JustHeard i x)
    (hdelay : 0 ≤ delay) (hreaches : ∀ t ∈ after, Reaches lag delay i x t.source t.label) :
    ∀ t ∈ after, ∃ last ∈ (t.source.devices i).selector.lastHeard x,
      t.label.now ≤ last + Sec 2 + lag + delay := by
  intro t ht
  obtain ⟨pre, hpre⟩ := exists_prefix_snoc_of_mem ht
  have hmem : ∀ u ∈ pre, u ∈ after := fun u hu => hpre.subset (List.mem_append_left _ hu)
  obtain ⟨-, hregular⟩ := hbefore.regular_after (hafter.of_prefix_snoc hpre).1
    (fun u hu => hreactor u (List.mem_append.mpr
      ((List.mem_append.mp hu).imp_right (hmem u)))) hheard fun u hu => hreaches u (hmem u hu)
  exact (hregular (hreaches t ht).sends).exists_lastHeard hdelay (hreaches t ht)

end Regular

/-! ### A participant that sends no more -/

/-- No heartbeat of the participant that was sent after the reading is on its way to the device, and
the device has heard none after the delay. -/
def Quiet (since : ℤ) (delay : Duration) (i : ι) (x : Identity)
    (c : SelectionSystem ExactTime ι) : Prop :=
  (∀ f ∈ c.heartbeats i, f.hb.deviceId = x → f.sentAt ≤ since) ∧
    ∀ last ∈ (c.devices i).selector.lastHeard x, last ≤ since + delay

section Quiet

variable {delay : Duration} {since : ℤ}

/-- A step in which the participant sends no heartbeat keeps it quiet. -/
theorem Quiet.step {tr : Trace ExactTime ι} (h : Quiet since delay i x c)
    (hrun : IsSelectionRun tr c) (hstep : Step c l c') (hsender : l.sender ≠ some x)
    (harrives : Arrives delay i x c l) : Quiet since delay i x c' := by
  obtain ⟨hsent, hlast⟩ := h
  refine ⟨fun f hf hx => ?_, fun last hlast' => ?_⟩
  · rcases hstep.of_mem_heartbeats hrun.consistent hf with hf | hsends
    · exact hsent f hf hx
    · exact absurd (hx ▸ hsends) hsender
  · by_cases hhear : ∃ f effects, l.action = .hear i f effects ∧ f.hb.deviceId = x
    · obtain ⟨f, effects, hl, rfl⟩ := hhear
      have hf := hstep.mem_of_hear hl
      obtain rfl := hstep.eq_of_mem_lastHeard hrun hl hlast'
      exact (harrives f hf rfl).trans (Int.add_le_add_right (hsent f hf rfl) delay)
    · rw [hstep.lastHeard_of_other hrun fun f effects hl hf => hhear ⟨f, effects, hl, hf⟩] at hlast'
      exact hlast last hlast'

/-- In a continuation in which a participant sends no heartbeat, a device hears only what was on its
way at the beginning. -/
theorem IsSelectionRun.quiet_after {before after : Trace ExactTime ι}
    {m : SelectionSystem ExactTime ι} (hbefore : IsSelectionRun before m)
    (hafter : IsRun Step m after c) (hdelay : 0 ≤ delay)
    (hsilent : ∀ t ∈ after, t.label.sender ≠ some x)
    (harrives : ∀ t ∈ after, Arrives delay i x t.source t.label) :
    ∀ t ∈ after, (∃ tr, IsSelectionRun tr t.source) ∧
      Quiet m.clock delay i x t.source := by
  have hstart : Quiet m.clock delay i x m := by
    refine ⟨fun f hf _ => hbefore.consistent.sent i f hf, fun last hlast => ?_⟩
    have hle := (hbefore.deviceRun i).timersConsistent.heard_le x last hlast
    have hreached := hbefore.consistent.reached i
    linarith
  intro t ht
  refine (hafter.forall_mem_of_keep
    (P := fun c => (∃ tr, IsSelectionRun tr c) ∧ Quiet m.clock delay i x c)
    (C := fun c l => l.sender ≠ some x ∧ Arrives delay i x c l)
    (fun t ht => ⟨hsilent t ht, harrives t ht⟩) ⟨⟨before, hbefore⟩, hstart⟩ ?_ t ht).1
  rintro c l c' ⟨⟨tr, hrun⟩, hquiet⟩ ⟨hsender, harrives⟩ hstep
  exact ⟨⟨_, hrun.snoc hstep⟩, hquiet.step hrun hstep hsender harrives⟩

end Quiet

/-! ### The controller of a device -/

/-- If no timer of a device is overdue at the steps of a run, then none is at its own steps. -/
theorem punctual_trace {lag : Duration} {tr : Trace ExactTime ι}
    (h : ∀ t ∈ tr, (t.source.devices i).selector.Punctual lag t.label.now) :
    ∀ u ∈ (device i).trace tr, u.source.selector.Punctual lag u.label.event.now :=
  Component.forall_mem_trace fun t ht k hk => by
    rw [Label.now_of_ofDevice hk]
    exact h t ht

section Selected

variable {tr : Trace ExactTime ι}

/-- A controller that was heard from is not the empty id. -/
theorem IsSelectionRun.ne_empty_of_lastHeard (h : IsSelectionRun tr c) {last : ℤ}
    (hlast : last ∈ (c.devices i).selector.lastHeard x) : x ≠ "" :=
  (h.deviceRun i).wellFormed.id_ne_empty x
    (ControllerSelector.mem_allControllers_of_lastHeard hlast)

/-- A step of a device is an outcome of its selector. -/
theorem Step.device_outcome (h : IsSelectionRun tr c) (hstep : Step c l c') (i : ι) :
    c'.devices i = c.devices i ∨ ∃ input effects,
      ControllerSelector.Enabled (c.devices i) ⟨l.now, input⟩ ∧
        ControllerSelector.Outcome (c.devices i).selector l.now input (c'.devices i).selector
          effects := by
  rcases hstep.device_cases i with ⟨-, hsame⟩ | ⟨input, effects, -, hmove⟩
  · exact Or.inl hsame
  · exact Or.inr ⟨input, effects, hmove.1,
      .of_handle (h.deviceRun i).wellFormed hmove.1.2 hmove.2.1⟩

/-- A device keeps its controller in a step less than six seconds after its last heartbeat. -/
theorem Step.keeps_selected (h : IsSelectionRun tr c) (hstep : Step c l c')
    {last : ℤ} (hlast : last ∈ (c.devices i).selector.lastHeard (c.devices i).selector.selected)
    (hnow : l.now < last + Sec 6) :
    (c'.devices i).selector.selected = (c.devices i).selector.selected := by
  rcases hstep.device_outcome h i with hsame | ⟨input, effects, henabled, hout⟩
  · rw [hsame]
  · have hrun := h.deviceRun i
    refine (hrun.keeps_selected (h.ne_empty_of_lastHeard hlast) henabled hout ?_).1
    intro last' hlast'
    have hrecorded := hrun.heartbeatsRecorded.last _ last hlast
    obtain rfl := Option.some.inj (hrecorded.symm.trans hlast')
    linarith

/-- A device keeps its controller in a step soon after its last heartbeat. -/
theorem Step.keeps_heard {lag delay : Duration} (h : IsSelectionRun tr c)
    (hstep : Step c l c') (hshort : lag + delay < Sec 4)
    (hheard : ∃ last ∈ (c.devices i).selector.lastHeard (c.devices i).selector.selected,
      l.now ≤ last + Sec 2 + lag + delay) :
    (c'.devices i).selector.selected = (c.devices i).selector.selected := by
  obtain ⟨last, hlast, hnow⟩ := hheard
  refine hstep.keeps_selected h hlast ?_
  simp only [Sec] at hnow hshort ⊢
  linarith

/-- What a device has heard of a controller gets only later. -/
theorem Step.exists_lastHeard (h : IsSelectionRun tr c) (hstep : Step c l c') {last : ℤ}
    (hlast : last ∈ (c.devices i).selector.lastHeard x) :
    ∃ last' ∈ (c'.devices i).selector.lastHeard x, last ≤ last' := by
  by_cases hhear : ∃ f effects, l.action = .hear i f effects ∧ f.hb.deviceId = x
  · obtain ⟨f, effects, hl, rfl⟩ := hhear
    have hknown := ControllerSelector.mem_allControllers_of_lastHeard hlast
    refine ⟨l.now, hstep.lastHeard_of_hear h hl hknown, ?_⟩
    have hle := (h.deviceRun i).timersConsistent.heard_le _ last hlast
    exact hle.trans ((h.consistent.reached i).trans hstep.clock_le)
  · refine ⟨last, ?_, le_rfl⟩
    rw [hstep.lastHeard_of_other h fun f effects hl hf => hhear ⟨f, effects, hl, hf⟩]
    exact hlast

end Selected

/-! ### Some runs -/

/-- Microgrid controllers that announce themselves with a priority each. -/
def ranked (priority : Identity → UInt16) (x : Identity) : DeviceInfo :=
  ⟨x, .microgridController, some ⟨some ⟨priority x⟩⟩⟩

/-- A participant announces itself, and devices learn of it. -/
def Label.joins {ι : Type} (now : ℤ) (di : DeviceInfo) (is : List ι) : List (Label ι) :=
  [⟨now, .participant di.deviceId (.createPublishers true true) []⟩,
    ⟨now, .participant di.deviceId (.sendDeviceInfo di true retcodeOk) []⟩] ++
      is.map fun i => ⟨now, .learn i di []⟩

/-- A participant sends a heartbeat, and devices hear it at once. Its heartbeats are due at whole
seconds. -/
def Label.beats {ι : Type} (now : ℤ) (x : Identity) (n : UInt32) (is : List ι) : List (Label ι) :=
  ⟨now, .participant x (.timeout ((now / Sec 1 + 1) * Sec 1)) []⟩ ::
    is.map fun i => ⟨now, .hear i ⟨now, ⟨x, n⟩⟩ []⟩

/-! ### Main results -/

section Main

variable {lag delay : Duration} {before after : Trace ExactTime ι} {m : SelectionSystem ExactTime ι}

/-- **A device keeps a controller that goes on.** If a device has just heard the controller that it
has selected, then it keeps it in every continuation of the run in which the controller goes on
sending heartbeats and all of them reach the device in time, whatever happens to the heartbeats of
the other participants, whatever these do, and however late the timers of the device are. -/
theorem keeps_sender (lag delay : Duration) (hbefore : IsSelectionRun before m)
    (hafter : IsRun Step m after c) (hdelay : 0 ≤ delay) (hshort : lag + delay < Sec 4)
    (hreactor : ∀ t ∈ before ++ after, OnSchedule x t.source t.label) (hheard : m.JustHeard i x)
    (hsel : (m.devices i).selector.selected = x)
    (hreaches : ∀ t ∈ after, Reaches lag delay i x t.source t.label) :
    ∀ t ∈ after, (t.target.devices i).selector.selected = x := by
  have hrecent := hbefore.heard_after hafter hreactor hheard hdelay hreaches
  intro t ht
  refine (hafter.forall_mem_of_keep
    (P := fun c => (∃ tr, IsSelectionRun tr c) ∧ (c.devices i).selector.selected = x)
    (C := fun c l => ∃ last ∈ (c.devices i).selector.lastHeard x,
      l.now ≤ last + Sec 2 + lag + delay) hrecent ⟨⟨before, hbefore⟩, hsel⟩ ?_ t ht).2.2
  rintro c l c' ⟨⟨tr, hrun⟩, rfl⟩ hheard hstep
  exact ⟨⟨_, hrun.snoc hstep⟩, hstep.keeps_heard hrun hshort hheard⟩

/-- The timers of a controller and of a device are late, and a controller with a better ranking
joins; the device keeps the controller that it has. -/
theorem keeps_sender_of_better : ∃ (before after : Trace ExactTime Unit)
      (m c : SelectionSystem ExactTime Unit),
    IsSelectionRun before m ∧
      IsRun Step m after c ∧
      (c.devices ()).selector.HeardRecently c.clock "mc1" ∧
      (∃ t ∈ after, t.label.action = .timeout () .missedHeartbeat []) ∧
      ∀ t ∈ after, (t.target.devices ()).selector.selected = "mc2" :=
  have hbefore := isSelectionRun_of_follow (fun _ => "dev") {} 0
    (Label.joins 0 (ranked (fun _ => 2) "mc2") [()] ++ Label.beats 0 "mc2" 0 [()] ++
      Label.beats (Sec 2) "mc2" 1 [()] ++ [⟨Sec 3, .timeout () .newController []⟩]) rfl
  have hafter := isRun_of_follow step_of_next?
    (Label.joins (Sec 3) (ranked (fun _ => 1) "mc1") [()] ++ Label.beats (Sec 3) "mc1" 0 [()] ++
      Label.beats (Sec 3 + 500000000) "mc2" 2 [()] ++ Label.beats (Sec 4) "mc1" 1 [()] ++
      [⟨Sec 5, .participant "mc2" (.timeout (Sec 6)) []⟩,
        ⟨Sec 5 + 500000000, .timeout () .missedHeartbeat []⟩,
        ⟨Sec 6, .hear () ⟨Sec 5, ⟨"mc2", 3⟩⟩ []⟩]) rfl
  ⟨_, _, _, _, hbefore, hafter, by decide, by decide,
    keeps_sender (Sec 1) (Sec 1) hbefore hafter (by decide) (by decide) (by decide) (by decide) rfl
      (by decide)⟩

/-- At a step late enough after the last heartbeat of a participant was sent, a device does not have
it as its controller. -/
theorem IsSelectionRun.selected_ne_of_quiet {tr : Trace ExactTime ι} (h : IsSelectionRun tr c)
    (hlag : 0 ≤ lag)
    (hpunctual : ∀ t ∈ tr, (t.source.devices i).selector.Punctual lag t.label.now) {since now : ℤ}
    (hquiet : Quiet since delay i x c) (hnow : (c.devices i).selector.Punctual lag now)
    (hx : x ≠ "") (hlate : since + delay + Sec 9 + 2 * lag < now) :
    (c.devices i).selector.selected ≠ x := by
  rintro rfl
  obtain ⟨last, hlast, hle⟩ :=
    (h.deviceRun i).heardSince_of_punctual hlag (punctual_trace hpunctual) hx hnow
  have hold := hquiet.2 last hlast
  have hnine : ControllerSelector.heartbeatDeadline +
      ControllerSelector.lostActiveControllerDelay = Sec 9 := by decide
  linarith

/-- A step of a continuation in which a controller sends no heartbeat. -/
theorem IsSelectionRun.selected_ne_of_silent (hbefore : IsSelectionRun before m)
    (hafter : IsRun Step m after c) (hlag : 0 ≤ lag) (hdelay : 0 ≤ delay) (hx : x ≠ "")
    (hsilent : ∀ t ∈ after, t.label.sender ≠ some x)
    (hpunctual : ∀ t ∈ before ++ after, (t.source.devices i).selector.Punctual lag t.label.now)
    (harrives : ∀ t ∈ after, Arrives delay i x t.source t.label)
    {t : Transition (SelectionSystem ExactTime ι) (Label ι)} (ht : t ∈ after)
    (hlate : m.clock + delay + Sec 9 + 2 * lag < t.label.now) :
    (t.source.devices i).selector.selected ≠ x := by
  obtain ⟨pre, hpre⟩ := exists_prefix_snoc_of_mem ht
  obtain ⟨hmid, -⟩ := hafter.of_prefix_snoc hpre
  obtain ⟨-, hquiet⟩ := hbefore.quiet_after hafter hdelay hsilent harrives t ht
  refine (hbefore.append hmid).selected_ne_of_quiet hlag (fun u hu => hpunctual u ?_) hquiet
    (hpunctual t (List.mem_append_right _ ht)) hx hlate
  exact List.mem_append.mpr ((List.mem_append.mp hu).imp_right fun hu =>
    hpre.subset (List.mem_append_left _ hu))

/-- **A device gives up a controller that is silent.** In every continuation of a run in which a
controller sends no heartbeat, a device whose timers are in time, and to which the heartbeats of the
controller come in time or not at all, does not have that controller any more nine seconds, the
delay and two lags after the beginning of the continuation: those are the times of the last
heartbeat on its way and of two timers. -/
theorem drops_silent_sender (lag delay : Duration) (hbefore : IsSelectionRun before m)
    (hafter : IsRun Step m after c) (hlag : 0 ≤ lag) (hdelay : 0 ≤ delay) (hx : x ≠ "")
    (hsilent : ∀ t ∈ after, t.label.sender ≠ some x)
    (hpunctual : ∀ t ∈ before ++ after, (t.source.devices i).selector.Punctual lag t.label.now)
    (harrives : ∀ t ∈ after, Arrives delay i x t.source t.label) :
    ∀ t ∈ after, m.clock + delay + Sec 9 + 2 * lag < t.label.now →
      (t.source.devices i).selector.selected ≠ x := fun _ ht hlate =>
  hbefore.selected_ne_of_silent hafter hlag hdelay hx hsilent hpunctual harrives ht hlate

/-- The last heartbeat of a controller arrives late, and so does every timeout of the device; it
still has the controller ten seconds after the controller has stopped, but not eleven. -/
theorem drops_silent_sender_of_late : ∃ (before after : Trace ExactTime Unit)
      (m c : SelectionSystem ExactTime Unit),
    IsSelectionRun before m ∧ IsRun Step m after c ∧
      m.clock = Sec 3 ∧ (∃ t ∈ after, t.label.now = Sec 13 ∧
        (t.source.devices ()).selector.selected = "mc1") ∧
      (∃ t ∈ after, t.label.now = Sec 15) ∧
      ∀ t ∈ after, m.clock + Sec 1 + Sec 9 + 2 * 500000000 < t.label.now →
        (t.source.devices ()).selector.selected ≠ "mc1" :=
  have hbefore := isSelectionRun_of_follow (fun _ => "dev") {} 0
    (Label.joins 0 (ranked (fun _ => 1) "mc1") [()] ++ Label.beats 0 "mc1" 0 [()] ++
      Label.beats (Sec 2) "mc1" 1 [()] ++ [⟨Sec 3, .timeout () .newController []⟩,
        ⟨Sec 3, .participant "mc1" (.timeout (Sec 4)) []⟩]) rfl
  have hafter := isRun_of_follow step_of_next?
    [⟨Sec 3, .endLoop "mc1"⟩, ⟨Sec 4, .hear () ⟨Sec 3, ⟨"mc1", 2⟩⟩ []⟩,
      ⟨Sec 6 + 500000000, .timeout () .missedHeartbeat []⟩,
      ⟨Sec 13, .timeout () .lostController []⟩, ⟨Sec 15, .restart "mc1"⟩] rfl
  ⟨_, _, _, _, hbefore, hafter, by decide, by decide, by decide,
    drops_silent_sender 500000000 (Sec 1) hbefore hafter (by decide) (by decide) (by decide)
      (by decide) (by decide) (by decide)⟩

/-- **A device that is reached has a controller.** In every continuation of a run in which a
controller that a device has just heard goes on sending heartbeats that reach the device in time, a
device whose timers are in time has some controller from three seconds and the lag after the
beginning on, whatever the other participants do and whatever happens to their heartbeats. -/
theorem selects_reached (lag delay : Duration) (hbefore : IsSelectionRun before m)
    (hafter : IsRun Step m after c) (hdelay : 0 ≤ delay) (hshort : lag + delay < Sec 1)
    (hreactor : ∀ t ∈ before ++ after, OnSchedule x t.source t.label) (hheard : m.JustHeard i x)
    (hreaches : ∀ t ∈ after, Reaches lag delay i x t.source t.label)
    (hpunctual : ∀ t ∈ after, (t.source.devices i).selector.Punctual lag t.label.now) :
    ∀ t ∈ after, m.clock + Sec 3 + lag < t.label.now →
      (t.source.devices i).selector.selected ≠ "" := by
  have hrecent : ∀ t ∈ after, (t.source.devices i).selector.HeardRecently t.label.now x := by
    intro t ht
    obtain ⟨last, hlast, hnow⟩ :=
      hbefore.heard_after hafter hreactor hheard hdelay hreaches t ht
    refine ⟨last, hlast, ?_⟩
    rw [ControllerSelector.heartbeatDeadline]
    simp only [Sec] at hnow hshort ⊢
    linarith
  intro t ht hlate
  obtain ⟨pre, hpre⟩ := exists_prefix_snoc_of_mem ht
  obtain ⟨hmid, hstep⟩ := hafter.of_prefix_snoc hpre
  have hmem : ∀ u ∈ pre, u ∈ after := fun u hu => hpre.subset (List.mem_append_left _ hu)
  have hreached := (hbefore.append hmid).consistent.reached i
  refine (hbefore.deviceRun i).selected_after (hmid.component (device_follows i)) ?_
    (hreached.trans hstep.clock_le) (hrecent t ht) (hpunctual t ht) ?_
  · refine Component.forall_mem_trace fun u hu k hk => ?_
    rw [Label.now_of_ofDevice hk]
    exact hrecent u (hmem u hu)
  · have hle := hbefore.consistent.reached i
    have hthree : ControllerSelector.newActiveControllerDelay = Sec 3 := by decide
    change (m.devices i).clock + _ + lag < _
    linarith

/-- One controller reaches a device that has none yet; a better one is heard in time to be selected,
although it does not go on. -/
theorem selects_reached_of_new : ∃ (before after : Trace ExactTime Unit)
      (m c : SelectionSystem ExactTime Unit),
    IsSelectionRun before m ∧
      IsRun Step m after c ∧
      (m.devices ()).selector.selected = "" ∧ (c.devices ()).selector.selected = "mc1" ∧
      (∃ t ∈ after, t.label.now = Sec 4) ∧
      ∀ t ∈ after, m.clock + Sec 3 + 500000000 < t.label.now →
        (t.source.devices ()).selector.selected ≠ "" :=
  have hbefore := isSelectionRun_of_follow (fun _ => "dev") {} 0
    (Label.joins 0 (ranked (fun _ => 1) "mc1") [()] ++
      Label.joins 0 (ranked (fun _ => 2) "mc2") [()] ++ Label.beats 0 "mc2" 0 [()]) rfl
  have hafter := isRun_of_follow step_of_next?
    (Label.beats (Sec 1) "mc2" 1 [()] ++ Label.beats (Sec 2) "mc1" 0 [()] ++
      [⟨Sec 2, .endLoop "mc1"⟩] ++ Label.beats (Sec 2) "mc2" 2 [()] ++
      Label.beats (Sec 3) "mc2" 3 [()] ++
      [⟨Sec 3 + 500000000, .timeout () .newController []⟩] ++ Label.beats (Sec 4) "mc2" 4 [()]) rfl
  ⟨_, _, _, _, hbefore, hafter, by decide, by decide, by decide,
    selects_reached 500000000 0 (x := "mc2") hbefore hafter (by decide) (by decide) (by decide)
      (by decide) (by decide) (by decide)⟩

/-- A device loses its controller, which is silent like all others but those of a list, which the
device goes on hearing. Its timers are in time, and no heartbeat is on its way to it for longer than
the delay. -/
structure Failover (lag delay : Duration) (live : List Identity) (i : ι)
    (before : Trace ExactTime ι) (m : SelectionSystem ExactTime ι) (after : Trace ExactTime ι) :
    Prop where
  lost : m.JustHeard i (m.devices i).selector.selected
  silent : (m.devices i).selector.selected ∉ live
  heard : ∀ x ∈ live, m.JustHeard i x
  reaches : ∀ x ∈ live, ∀ t ∈ after, Reaches lag delay i x t.source t.label
  punctual : ∀ t ∈ before ++ after, (t.source.devices i).selector.Punctual lag t.label.now
  arrives : ∀ t ∈ after, ∀ f ∈ t.source.heartbeats i, t.label.now ≤ f.sentAt + delay

/-- At a step, the device has heard the live controllers recently, and the others not after the
delay. -/
def Split (since : ℤ) (lag delay : Duration) (live : List Identity) (i : ι)
    (c : SelectionSystem ExactTime ι) (l : Label ι) : Prop :=
  (∀ x ∈ live, ∃ last ∈ (c.devices i).selector.lastHeard x, l.now ≤ last + Sec 2 + lag + delay) ∧
    ∀ x ∉ live, ∀ last ∈ (c.devices i).selector.lastHeard x, last ≤ since + delay

/-- The best one of the live controllers. -/
structure Best (info : Identity → DeviceInfo) (live : List Identity) (best : Identity) : Prop where
  mem : best ∈ live
  least : ∀ x ∈ live,
    PrioritizedController.ranking (info best) < PrioritizedController.ranking (info x) ∨
      PrioritizedController.ranking (info best) = PrioritizedController.ranking (info x) ∧ best ≤ x

variable {info : Identity → DeviceInfo} {live : List Identity} {best : Identity}

omit [DecidableEq ι] in
theorem Split.heardRecently {since : ℤ} (h : Split since lag delay live i c l)
    (hshort : lag + delay < Sec 1) (hx : x ∈ live) :
    (c.devices i).selector.HeardRecently l.now x := by
  obtain ⟨last, hlast, hnow⟩ := h.1 x hx
  refine ⟨last, hlast, ?_⟩
  rw [ControllerSelector.heartbeatDeadline]
  simp only [Sec] at hnow hshort ⊢
  linarith

omit [DecidableEq ι] in
/-- When the silent ones are not recent any more, the best of the live controllers is preferred. -/
theorem Split.preferred {since : ℤ} (h : Split since lag delay live i c l)
    (hshort : lag + delay < Sec 1) (hbest : Best info live best)
    (hlate : since + delay + Sec 3 ≤ l.now) :
    (c.devices i).selector.Preferred (fun x => PrioritizedController.ranking (info x)) l.now
      best where
  recent := h.heardRecently hshort hbest.mem
  least y hy := by
    by_cases hlive : y ∈ live
    · exact hbest.least y hlive
    · obtain ⟨last, hlast, hlt⟩ := hy
      have hold := h.2 y hlive last hlast
      rw [ControllerSelector.heartbeatDeadline] at hlt
      linarith

/-- A device keeps a live controller. -/
theorem Split.keeps_selected {since : ℤ} {tr : Trace ExactTime ι}
    (h : Split since lag delay live i c l) (hrun : IsSelectionRun tr c)
    (hshort : lag + delay < Sec 1) (hstep : Step c l c') (hx : x ∈ live)
    (hsel : (c.devices i).selector.selected = x) :
    (c'.devices i).selector.selected = x := by
  have hheard := h.1 x hx
  rw [← hsel] at hheard
  exact (hstep.keeps_heard hrun (hshort.trans (by decide)) hheard).trans hsel

/-- A step of a device that still has the controller that it loses, or has the best one of the live
controllers. -/
theorem Split.selected_step {tr : Trace ExactTime ι} {lost : Identity}
    (h : Split m.clock lag delay live i c l) (hrun : IsSelectionRun tr c)
    (hinfo : ∀ t ∈ tr, t.label.AnnouncesAs info) (hid : ∀ x, (info x).deviceId = x)
    (hlag : 0 ≤ lag) (hshort : lag + delay < Sec 1)
    (hbest : Best info live best) (hstep : Step c l c')
    (hlost : ∃ last ∈ (c.devices i).selector.lastHeard lost, m.clock ≤ last + Sec 1)
    (hsel : (c.devices i).selector.selected = lost ∨ (c.devices i).selector.selected = best) :
    (c'.devices i).selector.selected = lost ∨ (c'.devices i).selector.selected = best := by
  rcases hsel with hsel | hsel
  · obtain ⟨last, hlast, hle⟩ := hlost
    rcases hstep.device_outcome hrun i with hsame | ⟨input, effects, henabled, hout⟩
    · rw [hsame]
      exact Or.inl hsel
    · rcases (hrun.deviceRun i).selected_cases (hrun.filedAs hinfo hid i) henabled hout
        (hsel ▸ hrun.ne_empty_of_lastHeard hlast) with hkept | ⟨hsilent, hnone | hpreferred⟩
      · exact Or.inl (hkept.trans hsel)
      · exact absurd (h.heardRecently hshort hbest.mem) (hnone best)
      · have hsix := hsilent last (hsel ▸ hlast)
        have hlate : m.clock + delay + Sec 3 ≤ l.now := by
          rw [ControllerSelector.lostActiveControllerDelay] at hsix
          simp only [Sec] at hsix hle hshort ⊢
          linarith
        exact Or.inr (hpreferred.unique (h.preferred hshort hbest hlate))
  · exact Or.inr (h.keeps_selected hrun hshort hstep hbest.mem hsel)

/-- In a failover a device has the controller that it loses, or the best one of the live
controllers. -/
theorem Failover.selected_after (h : Failover lag delay live i before m after)
    (hbefore : IsSelectionRun before m) (hafter : IsRun Step m after c)
    (hreactor : ∀ t ∈ before ++ after, ∀ x ∈ live, OnSchedule x t.source t.label)
    (hinfo : ∀ t ∈ before ++ after, t.label.AnnouncesAs info)
    (hid : ∀ x, (info x).deviceId = x) (hlag : 0 ≤ lag) (hdelay : 0 ≤ delay)
    (hshort : lag + delay < Sec 1) (hsenders : ∀ t ∈ after, ∀ x ∈ t.label.sender, x ∈ live)
    (hbest : Best info live best) : ∀ t ∈ after,
      ((t.source.devices i).selector.selected = (m.devices i).selector.selected ∨
        (t.source.devices i).selector.selected = best) ∧
      ((t.source.devices i).selector.selected = best →
        (t.target.devices i).selector.selected = best) := by
  have hsplit : ∀ t ∈ after, Split m.clock lag delay live i t.source t.label := by
    intro t ht
    refine ⟨fun x hx => ?_, fun x hx => ?_⟩
    · exact hbefore.heard_after hafter (fun u hu => hreactor u hu x hx) (h.heard x hx) hdelay
        (h.reaches x hx) t ht
    · exact (hbefore.quiet_after hafter hdelay (fun u hu hsends => hx (hsenders u hu x hsends))
        (fun u hu f hf _ => h.arrives u hu f hf) t ht).2.2
  intro t ht
  have hboth := (hafter.forall_mem_of_keep
    (P := fun c => (∃ tr, IsSelectionRun tr c ∧ ∀ t ∈ tr, t.label.AnnouncesAs info) ∧
      (∃ last ∈ (c.devices i).selector.lastHeard (m.devices i).selector.selected,
        m.clock ≤ last + Sec 1) ∧
      ((c.devices i).selector.selected = (m.devices i).selector.selected ∨
        (c.devices i).selector.selected = best))
    (C := fun c l => Split m.clock lag delay live i c l ∧ l.AnnouncesAs info)
    (fun t ht => ⟨hsplit t ht, hinfo t (List.mem_append_right _ ht)⟩)
    ⟨⟨before, hbefore, fun t ht => hinfo t (List.mem_append_left _ ht)⟩, h.lost, Or.inl rfl⟩
    ?_ t ht).1
  · obtain ⟨⟨tr, hrun, -⟩, -, hsel⟩ := hboth
    obtain ⟨-, -, hstep⟩ := hafter.of_mem ht
    exact ⟨hsel, (hsplit t ht).keeps_selected hrun hshort hstep hbest.mem⟩
  · rintro c l c' ⟨⟨tr, hrun, hinfo⟩, ⟨last, hlast, hle⟩, hsel⟩ ⟨hsplit, hannounces⟩ hstep
    obtain ⟨last', hlast', hlater⟩ := hstep.exists_lastHeard hrun hlast
    refine ⟨⟨_, hrun.snoc hstep, fun t ht => ?_⟩, ⟨last', hlast', by linarith⟩,
      hsplit.selected_step hrun hinfo hid hlag hshort hbest hstep ⟨last, hlast, hle⟩ hsel⟩
    rcases List.mem_append.mp ht with ht | ht
    · exact hinfo t ht
    · obtain rfl := List.mem_singleton.mp ht
      exact hannounces

/-- In a failover a device comes to the best one of the live controllers. -/
theorem Failover.selected_best (h : Failover lag delay live i before m after)
    (hbefore : IsSelectionRun before m) (hafter : IsRun Step m after c)
    (hreactor : ∀ t ∈ before ++ after, ∀ x ∈ live, OnSchedule x t.source t.label)
    (hinfo : ∀ t ∈ before ++ after, t.label.AnnouncesAs info)
    (hid : ∀ x, (info x).deviceId = x) (hlag : 0 ≤ lag) (hdelay : 0 ≤ delay)
    (hshort : lag + delay < Sec 1) (hsenders : ∀ t ∈ after, ∀ x ∈ t.label.sender, x ∈ live)
    (hbest : Best info live best) : ∀ t ∈ after,
      m.clock + delay + Sec 9 + 2 * lag < t.label.now →
        (t.source.devices i).selector.selected = best ∧
          (t.target.devices i).selector.selected = best := by
  intro t ht hlate
  obtain ⟨hsel, hkeeps⟩ :=
    h.selected_after hbefore hafter hreactor hinfo hid hlag hdelay hshort hsenders hbest t ht
  obtain ⟨last, hlast, -⟩ := h.lost
  have hgone := hbefore.selected_ne_of_silent hafter hlag hdelay
    (hbefore.ne_empty_of_lastHeard hlast) (fun u hu hsends => h.silent (hsenders u hu _ hsends))
    h.punctual (fun u hu f hf _ => h.arrives u hu f hf) ht hlate
  have hsource := hsel.resolve_left hgone
  exact ⟨hsource, hkeeps hsource⟩

/-- **Failover.** All participants announce themselves always as the same. Some controllers go on
sending heartbeats, which reach a set of devices in time, and no other controller sends any more.
Then every one of these devices that had a controller which is silent now has the best one of the
live controllers, by ranking and id, nine seconds, the delay and two lags later, and keeps it. So
the devices agree, whatever they had and heard before. -/
theorem fails_over (info : Identity → DeviceInfo) (lag delay : Duration) (live : List Identity)
    (hbefore : IsSelectionRun before m) (hafter : IsRun Step m after c)
    (hreactor : ∀ t ∈ before ++ after, ∀ x ∈ live, OnSchedule x t.source t.label)
    (hinfo : ∀ t ∈ before ++ after, t.label.AnnouncesAs info)
    (hid : ∀ x, (info x).deviceId = x) (hlag : 0 ≤ lag) (hdelay : 0 ≤ delay)
    (hshort : lag + delay < Sec 1) (hsenders : ∀ t ∈ after, ∀ x ∈ t.label.sender, x ∈ live)
    (hbest : Best info live best) :
    ∀ i, Failover lag delay live i before m after →
      ∀ t ∈ after, m.clock + delay + Sec 9 + 2 * lag < t.label.now →
        (t.source.devices i).selector.selected = best ∧
          (t.target.devices i).selector.selected = best :=
  fun _ h => h.selected_best hbefore hafter hreactor hinfo hid hlag hdelay hshort hsenders hbest

/-- Two devices hear three controllers at different times and have the same one; it stops, and they
both come to the better one of the two others. -/
theorem fails_over_of_three : ∃ (before after : Trace ExactTime Bool)
      (m c : SelectionSystem ExactTime Bool),
    IsSelectionRun before m ∧
      IsRun Step m after c ∧
      (∀ i, (m.devices i).selector.selected = "mc1") ∧ (∃ t ∈ after, t.label.now = Sec 14) ∧
      ∀ i, ∀ t ∈ after, m.clock + 0 + Sec 9 + 2 * 0 < t.label.now →
        (t.source.devices i).selector.selected = "mc2" ∧
          (t.target.devices i).selector.selected = "mc2" :=
  have hbefore := isSelectionRun_of_follow (fun i => if i then "dev1" else "dev2") {} 0
    (Label.joins 0 (ranked (fun _ => 1) "mc1") [true, false] ++
      Label.joins 0 (ranked (fun _ => 2) "mc2") [true, false] ++
      Label.joins 0 (ranked (fun _ => 2) "mc3") [false, true] ++
      Label.beats 0 "mc1" 0 [true, false] ++ Label.beats (Sec 2) "mc1" 1 [true, false] ++
      [⟨Sec 3, .timeout true .newController []⟩, ⟨Sec 3, .timeout false .newController []⟩] ++
      Label.beats (Sec 4) "mc1" 2 [true, false] ++ Label.beats (Sec 4) "mc3" 0 [true, false] ++
      Label.beats (Sec 4) "mc2" 0 [false, true]) rfl
  have hafter := isRun_of_follow step_of_next?
    ([⟨Sec 4, .endLoop "mc1"⟩] ++
      [5, 6].flatMap (fun n => Label.beats (Sec n) "mc2" (.ofNat (n - 4).toNat) [true, false] ++
        Label.beats (Sec n) "mc3" (.ofNat (n - 4).toNat) [false, true]) ++
      [⟨Sec 6, .timeout true .missedHeartbeat []⟩, ⟨Sec 6, .timeout false .missedHeartbeat []⟩] ++
      [7, 8, 9, 10, 11, 12].flatMap (fun n =>
        Label.beats (Sec n) "mc2" (.ofNat (n - 4).toNat) [true, false] ++
          Label.beats (Sec n) "mc3" (.ofNat (n - 4).toNat) [false, true]) ++
      [⟨Sec 12, .timeout true .lostController []⟩, ⟨Sec 12, .timeout false .lostController []⟩] ++
      [13, 14].flatMap (fun n => Label.beats (Sec n) "mc2" (.ofNat (n - 4).toNat) [true, false] ++
        Label.beats (Sec n) "mc3" (.ofNat (n - 4).toNat) [false, true])) rfl
  ⟨_, _, _, _, hbefore, hafter, by decide, by decide, fun i =>
    fails_over (ranked fun x => if x = "mc1" then 1 else 2) 0 0 ["mc2", "mc3"] hbefore hafter
      (by decide) (by decide) (fun _ => rfl) (by decide) (by decide) (by decide) (by decide)
      ⟨by decide, by decide⟩ i
      (by cases i <;> exact ⟨by decide, by decide, by decide, by decide, by decide, by decide⟩)⟩

end Main

end SelectionSystem

end TacticalMicrogrid
