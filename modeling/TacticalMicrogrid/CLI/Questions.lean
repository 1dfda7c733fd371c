import TacticalMicrogrid.CLI.CommandLoop
import TacticalMicrogrid.CLI.Wiring

/-!
# The questions of `connect-pd`

`connect-pd` goes through the pairs of the power devices once. It passes over a pair that may not be
connected, and asks about the others. A cable takes ports away and never gives one back, so a pair
that it has passed over may not be connected later either: nothing that could be connected is left
out. With the input at its end all questions are answered with yes, so a repeated `connect-pd` lays
cables until no further one can be laid.

## Main definitions

* `CLISession.refused`, `CLISession.Refused`: the pairs that the operator has refused to connect.
* `CLISession.Covered`: the invariant of the questions.

## Main results

* `CLIClient.canConnect_of_subset`: more cables leave fewer pairs that may be connected.
* `connected_or_refused_of_session`: what `connect-pd` leaves unconnected has been refused.
* `CommandLoop.wires_all_of_run`: what a repeated `connect-pd` leaves.
-/

namespace TacticalMicrogrid

open TransitionSystem

namespace CLIClient

variable {τ : Type} {c c' : CLIClient τ} {d₁ d₂ : ConnectedDevice}

theorem canConnect_comm : c.canConnect d₁ d₂ = true ↔ c.canConnect d₂ d₁ = true := by
  rw [canConnect_iff, canConnect_iff, ne_comm, and_comm (b := c.cablesOf d₂.id = ∅ ∨ _)]

/-- With more cables fewer pairs may be connected. -/
theorem canConnect_of_subset (h : ∀ a, c.cablesOf a ⊆ c'.cablesOf a)
    (hcan : c'.canConnect d₁ d₂ = true) : c.canConnect d₁ d₂ = true := by
  have hempty : ∀ a, c'.cablesOf a = ∅ → c.cablesOf a = ∅ :=
    fun a ha => Finset.subset_empty.mp (ha ▸ h a)
  obtain ⟨hne, h₁, h₂⟩ := canConnect_iff.mp hcan
  exact canConnect_iff.mpr ⟨hne, h₁.imp_left (hempty _), h₂.imp_left (hempty _)⟩

end CLIClient

/-- Two different elements of a list are a pair of it, in one order or the other. -/
theorem mem_pairsOf_or {α : Type} {l : List α} {a b : α} (ha : a ∈ l) (hb : b ∈ l) (hne : a ≠ b) :
    (a, b) ∈ pairsOf l ∨ (b, a) ∈ pairsOf l := by
  induction l with
  | nil => cases ha
  | cons x l ih =>
    rw [pairsOf, List.mem_append, List.mem_append]
    rcases List.mem_cons.mp ha with rfl | hal
    · have hb := (List.mem_cons.mp hb).resolve_left hne.symm
      exact Or.inl (Or.inl (List.mem_map.mpr ⟨b, hb, rfl⟩))
    · rcases List.mem_cons.mp hb with rfl | hb
      · exact Or.inr (Or.inl (List.mem_map.mpr ⟨a, hal, rfl⟩))
      · exact (ih hal hb).imp Or.inr Or.inr

namespace CLISession

variable {τ : Type}

/-- The pair that an answer refuses to connect. -/
def refused (s : CLISession τ) : Event → Option (ConnectedDevice × ConnectedDevice)
  | .answer lines =>
    match s.asking with
    | some (p :: _) =>
      if s.client.canConnect p.1 p.2 ∧ CLIClient.readAnswer lines = some false then some p else none
    | _ => none
  | _ => none

/-- The event starts `connect-pd`. -/
def Event.Starts : Event → Prop
  | .connectPd _ _ _ => True
  | _ => False

/-- Since `connect-pd` has been started the operator has refused to connect the two devices. -/
def Refused (tr : List (Transition (CLISession τ) Event)) (d₁ d₂ : ConnectedDevice) : Prop :=
  Since (fun t => ∃ p ∈ t.source.refused t.label, p = (d₁, d₂) ∨ p = (d₂, d₁))
    (fun t => ¬t.label.Starts) tr

/-- Two known devices that may be connected are still to be asked about, or they are connected, or
the operator has refused to connect them. -/
def Covered (tr : List (Transition (CLISession τ) Event)) (s : CLISession τ) : Prop :=
  ∀ pairs ∈ s.asking, ∀ d₁ d₂, s.client.deviceOf d₁.id = some d₁ →
    s.client.deviceOf d₂.id = some d₂ → s.client.canConnect d₁ d₂ = true →
      ((d₁, d₂) ∈ pairs ∨ (d₂, d₁) ∈ pairs) ∨ d₂ ∈ s.client.cablesOf d₁.id ∨ Refused tr d₁ d₂

variable [TimePoint τ] {s s' : CLISession τ} {tr : List (Transition (CLISession τ) Event)}
  {d₁ d₂ : ConnectedDevice}

/-- The answer to a question connects the two devices or refuses to. -/
theorem Step.answer_cases {lines : List String} {p : ConnectedDevice × ConnectedDevice}
    {pairs : List (ConnectedDevice × ConnectedDevice)} (h : s.Step (.answer lines) s')
    (hasking : s.asking = some (p :: pairs)) (hcan : s.client.canConnect p.1 p.2 = true) :
    s.accepted (.answer lines) = some p ∨ s.refused (.answer lines) = some p := by
  obtain ⟨⟨pairs', hasking', p', hp', hanswer⟩, -⟩ := h
  rw [hasking] at hasking'
  obtain rfl := Option.some.inj hasking'
  obtain rfl := Option.some.inj hp'
  obtain ⟨yes, hyes⟩ := Option.isSome_iff_exists.mp (hanswer hcan)
  rw [accepted, refused, hasking]
  cases yes with
  | true => exact Or.inl (if_pos ⟨hcan, hyes⟩)
  | false => exact Or.inr (if_pos ⟨hcan, hyes⟩)

/-- An answer leaves the devices as they are, and the other pairs. -/
theorem Step.answer_eq {lines : List String} {p : ConnectedDevice × ConnectedDevice}
    {pairs : List (ConnectedDevice × ConnectedDevice)} (h : s.Step (.answer lines) s')
    (hasking : s.asking = some (p :: pairs)) :
    s'.client.powerDevices = s.client.powerDevices ∧ s'.asking = some pairs := by
  obtain ⟨-, rfl⟩ := h
  rw [after, hasking]
  dsimp only
  split_ifs <;> exact ⟨rfl, rfl⟩

/-- The questions go on covering the pairs. -/
theorem Covered.step {e : Event} (h : Covered tr s) (hstep : s.Step e s') :
    Covered (tr ++ [⟨s, e, s'⟩]) s' := by
  have hcables : ∀ a, s.client.cablesOf a ⊆ s'.client.cablesOf a :=
    fun a x hx => hstep.mem_cablesOf_iff.mpr (Or.inl hx)
  intro pairs hpairs d₁ d₂ hd₁ hd₂ hcan
  have hcan' := CLIClient.canConnect_of_subset hcables hcan
  cases e with
  | connectPd col order devices =>
    obtain ⟨⟨-, -, -, hkeys, hdevices⟩, rfl⟩ := hstep
    obtain rfl := Option.some.inj hpairs
    have hmem : ∀ d, (s.client.consolidateIfEmpty col order).deviceOf d.id = some d →
        d ∈ devices := by
      intro d hd
      obtain ⟨pd, hpd, -⟩ := Option.map_eq_some_iff.mp hd
      obtain ⟨d', hd', hid⟩ := List.mem_map.mp
        (hkeys.mem_iff.mpr (AList.mem_keys.mp (Table.mem_of_find? hpd)))
      have heq := hdevices d' hd'
      rw [hid, hd] at heq
      rwa [Option.some.inj heq]
    have hne : d₁ ≠ d₂ := fun heq => (CLIClient.canConnect_iff.mp hcan).1 (heq ▸ rfl)
    exact Or.inl (mem_pairsOf_or (hmem d₁ hd₁) (hmem d₂ hd₂) hne)
  | answer lines =>
    obtain ⟨all, hasking, p, hp, -⟩ := hstep.1
    obtain ⟨rest, rfl⟩ : ∃ rest, all = p :: rest := List.head?_eq_some_iff.mp hp
    obtain ⟨hsame, hrest⟩ := hstep.answer_eq hasking
    obtain rfl := Option.some.inj (hrest.symm.trans hpairs)
    rw [CLIClient.deviceOf, hsame] at hd₁ hd₂
    -- The first pair is connected or refused, whichever way round it is.
    have hdone : p = (d₁, d₂) ∨ p = (d₂, d₁) → d₂ ∈ s'.client.cablesOf d₁.id ∨
        Refused (tr ++ [⟨s, .answer lines, s'⟩]) d₁ d₂ := by
      intro heq
      have hcanp : s.client.canConnect p.1 p.2 = true := by
        rcases heq with rfl | rfl
        · exact hcan'
        · exact CLIClient.canConnect_comm.mp hcan'
      rcases hstep.answer_cases hasking hcanp with haccepted | hrefused
      · refine Or.inl (hstep.mem_cablesOf_iff.mpr (Or.inr ⟨p, haccepted, ?_⟩))
        rcases heq with rfl | rfl
        · exact Or.inl ⟨rfl, rfl⟩
        · exact Or.inr ⟨rfl, rfl⟩
      · exact Or.inr (since_snoc.mpr (Or.inl ⟨p, hrefused, heq⟩))
    rcases h _ hasking d₁ d₂ hd₁ hd₂ hcan' with hopen | hcable | hrefused
    · rcases hopen with hopen | hopen <;> rcases List.mem_cons.mp hopen with heq | hopen
      · exact Or.inr (hdone (Or.inl heq.symm))
      · exact Or.inl (Or.inl hopen)
      · exact Or.inr (hdone (Or.inr heq.symm))
      · exact Or.inl (Or.inr hopen)
    · exact Or.inr (Or.inl (hcables _ hcable))
    · exact Or.inr (Or.inr (since_snoc.mpr (Or.inr ⟨hrefused, id⟩)))
  | deviceInfo | heartbeat | listPd | startStop | endConnectPd =>
    obtain ⟨hdevices, -, hasking⟩ := unchanged_of_step hstep id
    have hasking := hasking.resolve_right fun hnone => by
      rw [hnone] at hpairs
      cases hpairs
    rw [hasking] at hpairs
    rw [CLIClient.deviceOf, hdevices] at hd₁ hd₂
    rcases h pairs hpairs d₁ d₂ hd₁ hd₂ hcan' with hopen | hcable | hrefused
    · exact Or.inl hopen
    · exact Or.inr (Or.inl (hcables _ hcable))
    · exact Or.inr (Or.inr (since_snoc.mpr (Or.inr ⟨hrefused, id⟩)))

end CLISession

/-- What a session has asked about is connected or refused when its questions are at their end. -/
theorem IsSession.connected_or_refused {τ : Type} [TimePoint τ]
    {tr : List (Transition (CLISession τ) CLISession.Event)} {s : CLISession τ}
    (h : IsSession tr s) (hend : s.asking = some []) {d₁ d₂ : ConnectedDevice}
    (hd₁ : s.client.deviceOf d₁.id = some d₁) (hd₂ : s.client.deviceOf d₂.id = some d₂)
    (hcan : s.client.canConnect d₁ d₂ = true) :
    d₂ ∈ s.client.cablesOf d₁.id ∨ CLISession.Refused tr d₁ d₂ := by
  obtain ⟨id, hrun⟩ := h
  have hcovered : CLISession.Covered tr s :=
    hrun.traceInvariant (P := CLISession.Covered) (fun pairs hpairs => by cases hpairs)
      fun _ _ _ _ _ ih hstep => ih.step hstep
  refine (hcovered [] hend d₁ d₂ hd₁ hd₂ hcan).resolve_left ?_
  rintro (hopen | hopen) <;> cases hopen

/-- **Questions.** When the questions of `connect-pd` are at their end, two known devices that may
still be connected are connected already, or the operator has refused to connect them. -/
theorem connected_or_refused_of_session {τ : Type} [TimePoint τ]
    {tr : List (Transition (CLISession τ) CLISession.Event)} {s : CLISession τ}
    (h : IsSession tr s) (hend : s.asking = some []) {d₁ d₂ : ConnectedDevice}
    (hd₁ : s.client.deviceOf d₁.id = some d₁) (hd₂ : s.client.deviceOf d₂.id = some d₂)
    (hcan : s.client.canConnect d₁ d₂ = true) :
    d₂ ∈ s.client.cablesOf d₁.id ∨ CLISession.Refused tr d₁ d₂ :=
  h.connected_or_refused hend hd₁ hd₂ hcan

/-- The operator refuses to connect a source, and that is all that is left open. -/
theorem connected_or_refused_of_hub : ∃ (tr : List (Transition (CLISession ExactTime)
      CLISession.Event)) (s : CLISession ExactTime), IsSession tr s ∧
    s.client.canConnect ⟨"gen", .source⟩ ⟨"hub", .distribution⟩ = true ∧
    CLISession.Refused tr ⟨"gen", .source⟩ ⟨"hub", .distribution⟩ := by
  obtain ⟨tr, s, hrun, hend, hgen, hhub, hcan, hnot⟩ := exists_isRun_of_follow
    CLISession.step_of_next? (s := ⟨{ deviceId := "cli" }, none⟩)
    (P := fun _ (s : CLISession ExactTime) => s.asking = some [] ∧
      s.client.deviceOf "gen" = some ⟨"gen", .source⟩ ∧
      s.client.deviceOf "hub" = some ⟨"hub", .distribution⟩ ∧
      s.client.canConnect ⟨"gen", .source⟩ ⟨"hub", .distribution⟩ = true ∧
      ⟨"hub", .distribution⟩ ∉ s.client.cablesOf "gen")
    (CLISession.connectEvents [⟨"gen", .source⟩, ⟨"hub", .distribution⟩, ⟨"lamp", .load⟩]
      ["n", "n", "y"]).dropLast (by decide +kernel)
  have hsession : IsSession tr s := ⟨"cli", hrun⟩
  exact ⟨tr, s, hsession, hcan,
    (connected_or_refused_of_session hsession hend hgen hhub hcan).resolve_left hnot⟩

namespace CommandLoop

open CLISession

variable {τ : Type} [TimePoint τ] {w w' : CommandLoop τ} {l : Label} {tr : Trace τ} {text : String}
  {d₁ d₂ : ConnectedDevice}

omit [TimePoint τ] in
/-- Without a no nothing is refused. -/
theorem refused_eq_none {s : CLISession τ} {e : CLISession.Event}
    (h : ∀ lines, e = .answer lines → CLIClient.readAnswer lines ≠ some false) :
    s.refused e = none := by
  cases e with
  | answer lines =>
    rw [refused]
    split
    · exact if_neg fun hno => h lines rfl hno.2
    · rfl
  | deviceInfo | heartbeat | listPd | startStop | connectPd | endConnectPd => rfl

omit [TimePoint τ] in
/-- A step in which the client refuses nothing leaves nothing refused. -/
theorem not_refused_snoc {t : Transition (CommandLoop τ) Label}
    (hnone : ∀ e ∈ t.label.event, t.source.session.refused e = none)
    (h : (∃ e ∈ t.label.event, e.Starts) ∨ ¬Refused ((sessionComponent τ).trace tr) d₁ d₂) :
    ¬Refused ((sessionComponent τ).trace (tr ++ [t])) d₁ d₂ := by
  rw [Component.trace_snoc, Component.transition]
  change ¬Refused (_ ++ (Option.map _ t.label.event).toList) d₁ d₂
  cases he : t.label.event with
  | none =>
    rw [Option.map_none, Option.toList_none, List.append_nil]
    refine h.resolve_left ?_
    rintro ⟨e, he', -⟩
    rw [he] at he'
    cases he'
  | some e =>
    rw [Option.map_some, Option.toList_some, Refused, since_snoc]
    rintro (⟨p, hp, -⟩ | ⟨hrefused, hstarts⟩)
    · change p ∈ t.source.session.refused e at hp
      rw [hnone e he] at hp
      cases hp
    · rcases h with ⟨e', he', hstarts'⟩ | h
      · rw [he] at he'
        obtain rfl := Option.some.inj he'
        exact hstarts hstarts'
      · exact h hrefused

/-- In a repeated `connect-pd` nothing is refused. -/
theorem not_refused_of_run (h : IsLoopRun text tr w)
    (hrepeated : (commandsRead tr).length < (commands tr).length) (hasking : w.point = .asking) :
    ¬Refused ((sessionComponent τ).trace tr) d₁ d₂ := by
  obtain ⟨id, hrun⟩ := h
  refine hrun.traceInvariant (P := fun tr w => (commandsRead tr).length < (commands tr).length →
    w.point = .asking → ¬Refused ((sessionComponent τ).trace tr) d₁ d₂) ?_ ?_ hrepeated hasking
  · exact fun hlt => absurd hlt (lt_irrefl _)
  · intro tr w l w' hrun ih hstep hrepeated hasking
    have hreads := reads_of_run ⟨id, hrun⟩
    have hinput := hstep.input_eq
    obtain ⟨a, henabled, rfl, rfl⟩ := hstep
    rw [commands_snoc, commandsRead_snoc] at hrepeated
    cases a with
    | command env =>
      obtain ⟨-, -, -, hline, -, -, hpoint⟩ | ⟨haction, -⟩ | ⟨haction, -⟩ := hinput
      · rw [hpoint, hline] at hasking
        split_ifs at hasking with hop
        have hevent : w.event (.command env) =
            some (.connectPd env.col env.order env.devices) := by
          rw [event, commandEvent, hop]
        refine not_refused_snoc (fun e he => refused_eq_none fun lines heq => ?_)
          (Or.inl ⟨_, hevent, trivial⟩)
        obtain rfl := Option.some.inj (hevent.symm.trans he)
        cases heq
      · cases haction
      · exact absurd rfl (haction env)
    | ask =>
      have hrepeated' : (commandsRead tr).length < (commands tr).length := by
        simpa [runLine, label] using hrepeated
      refine not_refused_snoc (fun e he => refused_eq_none fun lines heq => ?_)
        (Or.inr (ih hrepeated' henabled.1))
      obtain rfl := heq
      by_cases hasks : w.Asks
      · obtain ⟨n, hcommands, hn⟩ := hreads.commands
        have hended := hn (by
          rintro rfl
          rw [hcommands] at hrepeated'
          simp at hrepeated')
        obtain ⟨lines', hevent, hyes⟩ := hreads.accepts hended hasks
        obtain rfl := CLISession.Event.answer.inj (Option.some.inj (hevent.symm.trans he))
        rw [hyes]
        decide
      · have hevent : w.event .ask = some (.answer []) := by rw [event, if_neg hasks]
        obtain rfl := CLISession.Event.answer.inj (Option.some.inj (hevent.symm.trans he))
        decide
    | sample e =>
      have hrepeated' : (commandsRead tr).length < (commands tr).length := by
        simpa [runLine, label] using hrepeated
      rw [after] at hasking
      refine not_refused_snoc (fun e' he => refused_eq_none fun lines heq => ?_)
        (Or.inr (ih hrepeated' hasking))
      obtain rfl := Option.some.inj he
      obtain rfl := heq
      exact henabled.elim
    | handleSignal =>
      have hrepeated' : (commandsRead tr).length < (commands tr).length := by
        simpa [runLine, label] using hrepeated
      rw [after] at hasking
      exact not_refused_snoc (fun e he => by cases he) (Or.inr (ih hrepeated' hasking))
    | check =>
      rw [after] at hasking
      dsimp only at hasking
      split_ifs at hasking
    | endConnectPd =>
      rw [after] at hasking
      cases hasking

/-- **Repeated `connect-pd`.** When the input has ended and `connect-pd` is run again, then two
known devices that may be connected when its questions are at their end are connected already. -/
theorem wires_all_of_run (h : IsLoopRun text tr w)
    (hrepeated : (commandsRead tr).length < (commands tr).length) (hasking : w.point = .asking)
    (hend : w.session.asking = some []) (hd₁ : w.session.client.deviceOf d₁.id = some d₁)
    (hd₂ : w.session.client.deviceOf d₂.id = some d₂)
    (hcan : w.session.client.canConnect d₁ d₂ = true) :
    d₂ ∈ w.session.client.cablesOf d₁.id :=
  (h.sessionRun.connected_or_refused hend hd₁ hd₂ hcan).resolve_right
    (not_refused_of_run h hrepeated hasking)

/-- Two distribution devices, and a `connect-pd` that nothing follows. -/
theorem wires_all_of_end : ∃ (tr : Trace ExactTime) (w : CommandLoop ExactTime),
    IsLoopRun "connect-pd" tr w ∧ commands tr = ["connect-pd", "connect-pd"] ∧
      w.session.client.canConnect ⟨"bus", .distribution⟩ ⟨"hub", .distribution⟩ = true ∧
      ⟨"hub", .distribution⟩ ∈ w.session.client.cablesOf "bus" := by
  let devices : List ConnectedDevice := [⟨"bus", .distribution⟩, ⟨"hub", .distribution⟩]
  let env : CommandEnv := ⟨⟨0, ["mc"], fun _ => .taken [.valid ⟨"mc", devices.map fun d =>
    ⟨{ deviceId := d.id, role := d.role }, .operational, none⟩⟩]⟩, 0, ["mc"], devices⟩
  obtain ⟨tr, w, hrun, hcommands, hrepeated, hasking, hend, hbus, hhub, hcan⟩ :=
    exists_isRun_of_follow step_of_next? (s := init "cli" "connect-pd")
      (P := fun tr (w : CommandLoop ExactTime) => commands tr = ["connect-pd", "connect-pd"] ∧
        (commandsRead tr).length < (commands tr).length ∧ w.point = .asking ∧
        w.session.asking = some [] ∧
        w.session.client.deviceOf "bus" = some ⟨"bus", .distribution⟩ ∧
        w.session.client.deviceOf "hub" = some ⟨"hub", .distribution⟩ ∧
        w.session.client.canConnect ⟨"bus", .distribution⟩ ⟨"hub", .distribution⟩ = true)
      [.sample (.deviceInfo 0 (.valid { deviceId := "mc", role := .microgridController })), .check,
        .command env, .ask, .endConnectPd 0 (fun _ => true) ["mc"]
          [⟨"bus", [⟨"hub", .distribution⟩]⟩, ⟨"hub", [⟨"bus", .distribution⟩]⟩],
        .check, .command env, .ask] (by decide +kernel)
  have hloop : IsLoopRun "connect-pd" tr w := ⟨"cli", hrun⟩
  exact ⟨tr, w, hloop, hcommands, hcan,
    wires_all_of_run hloop hrepeated hasking hend hbus hhub hcan⟩

end CommandLoop

end TacticalMicrogrid
