import TacticalMicrogrid.PowerDevices.PowerSystem

/-!
# The flow of power

The path of an electric current is put together hop by hop: a source writes its id and that of its
peer, and a distribution device appends one of its outputs to the path of a current that comes from
one of its inputs. Each program looks at the last two entries of a path only, while the connections
and the energy levels change. Still every hop of a path has been written by the device before it,
for an output that this device had, and, behind the source, by a distribution device that was
operational when it handled the batch with the path up to there.

The invariant says of every stage of a thread what the device has found since it last took samples.

## Main definitions

* `PowerSystem.HadOut`, `PowerSystem.SinceTake`, `PowerSystem.Relayed`: what the history says.
* `PowerSystem.IsHop`, `PowerSystem.IsFlow`: a hop of a path, and a path made of hops.
* `PowerSystem.ReachesLoad`.
* `PowerSystem.Inv`: the invariant.

## Main results

* `PowerSystem.Inv.thread`: what a step of a thread keeps and shows.
* `PowerSystem.flow_of_run`.
-/

namespace TacticalMicrogrid

open TransitionSystem

namespace PowerSystem

/-- The steps of a run. -/
abbrev History := List (Transition PowerSystem Label)

/-! ### The history -/

/-- The device has had the other one among its outputs. -/
def HadOut (tr : History) (a b : Identity) : Prop :=
  ∃ t ∈ tr, ∃ p ∈ t.source.programs.find? a, p.HasOut b

/-- A device has done something since it last took samples. -/
def SinceTake (tr : History) (b : Identity) (A : Transition PowerSystem Label → Prop) : Prop :=
  Since (fun t => t.label.id = b ∧ A t)
    (fun t => ∀ data, t.label.id = b → t.label.action ≠ .thread (.take data)) tr

/-- The device takes a current with the path. -/
def TakesPath (path : List Identity) (t : Transition PowerSystem Label) : Prop :=
  ∃ data, t.label.action = .thread (.take data) ∧
    ∃ s ∈ data, s.validData = true ∧ s.data.powerPath = path

/-- The device finds itself operational. -/
def FindsOperational (t : Transition PowerSystem Label) : Prop :=
  t.label.action = .thread .checkLevel ∧
    ∃ p ∈ t.source.programs.find? t.label.id, p.essl = .operational

/-- The device finds another one among its inputs. -/
def FindsIn (a : Identity) (t : Transition PowerSystem Label) : Prop :=
  t.label.action = .thread .readIn ∧ ∃ p ∈ t.source.programs.find? t.label.id, p.HasIn a

/-- In the batch that it handles, the device has the path, for which it has found itself operational
and has found the device before it among its inputs. -/
structure Relayed (tr : History) (b : Identity) (path : List Identity) (a : Identity) : Prop where
  took : SinceTake tr b (TakesPath path)
  operational : SinceTake tr b FindsOperational
  input : SinceTake tr b (FindsIn a)

/-- After the history, `a` writes the path `pre ++ [a, b]`: `b` has been an output of `a`; `a` is a
source if it is the first of the path, and otherwise a distribution device that relays. -/
structure IsHop (w₀ : PowerSystem) (tr : History) (t : Transition PowerSystem Label)
    (pre : List Identity) (a b : Identity) : Prop where
  writer : t.label.id = a
  wrote : ∃ ec, t.label.output = some (.wrote ec) ∧ ec.powerPath = pre ++ [a, b]
  output : HadOut tr a b
  source : pre = [] → w₀.roleOf a = some .source
  relayed : ∀ z ∈ pre.getLast?, w₀.roleOf a = some .distribution ∧ Relayed tr a (pre ++ [a]) z

/-- Every two devices that follow one another on the path are a hop of the history. -/
def IsFlow (w₀ : PowerSystem) (tr : History) (path : List Identity) : Prop :=
  2 ≤ path.length ∧ ∀ pre a b post, path = pre ++ a :: b :: post →
    ∃ tr' t', tr' ++ [t'] <+: tr ∧ IsHop w₀ tr' t' pre a b

/-- The current comes from the input device of the load to the load. -/
def ReachesLoad (w₀ : PowerSystem) (t : Transition PowerSystem Label) (ec : ElectricCurrent) :
    Prop :=
  w₀.roleOf t.label.id = some .load ∧ ∃ p ∈ t.source.programs.find? t.label.id,
    ∃ x ∈ p.connectedDevicesIn.head?, ∃ pre, ec.powerPath = pre ++ [x.id, t.label.id]

/-! ### The invariant -/

/-- The valid samples have been written, and the device has taken them. -/
def InBatch (tr : History) (written : List ElectricCurrent) (b : Identity)
    (data : List (Sample ElectricCurrent)) : Prop :=
  ∀ s ∈ data, s.validData = true → s.data ∈ written ∧ SinceTake tr b (TakesPath s.data.powerPath)

/-- What a device knows at a stage of its thread. -/
def StageInv (tr : History) (written : List ElectricCurrent) (b : Identity) : Stage → Prop
  | .idle | .connected => True
  | .running devs | .emitting devs => ∀ x ∈ devs, HadOut tr b x.id ∧ x.id ≠ ""
  | .took data => InBatch tr written b data
  | .checked data => InBatch tr written b data ∧ SinceTake tr b FindsOperational
  | .hasIn data ins => InBatch tr written b data ∧ SinceTake tr b FindsOperational ∧
      ∀ x ∈ ins, SinceTake tr b (FindsIn x.id)
  | .relaying pending => ∀ ec ∈ pending, ∃ pre a x, ec.powerPath = (pre ++ [a]) ++ [b, x] ∧
      (∃ ec' ∈ written, ec'.powerPath = (pre ++ [a]) ++ [b]) ∧ HadOut tr b x ∧ x ≠ "" ∧
      Relayed tr b ((pre ++ [a]) ++ [b]) a

/-- What holds after a history. -/
structure Inv (w₀ : PowerSystem) (tr : History) (w : PowerSystem) : Prop where
  device : ∀ id, ∀ p ∈ w.programs.find? id,
    p.deviceId = id ∧ id ≠ "" ∧ w₀.roleOf id = some p.role
  named : ∀ id, ∀ p ∈ w.programs.find? id,
    (∀ x ∈ p.connectedDevicesIn, x.id ≠ "") ∧ ∀ x ∈ p.connectedDevicesOut, x.id ≠ ""
  stage : ∀ id, ∀ p ∈ w.programs.find? id, StageInv tr w.written id p.stage
  written : ∀ ec ∈ w.written, (∀ id ∈ ec.powerPath, id ≠ "") ∧
    ∃ tr' t', tr' ++ [t'] <+: tr ∧ t'.label.output = some (.wrote ec)

/-- What an output says: a written path ends with a hop, and goes on from a path that has been
written; a current that counts as received reaches the load. -/
def OutputInv (w₀ : PowerSystem) (tr : History) (t : Transition PowerSystem Label) :
    Option PowerOutput → Prop
  | none => True
  | some (.wrote ec) => (∀ id ∈ ec.powerPath, id ≠ "") ∧ ∃ pre a b,
      ec.powerPath = pre ++ [a, b] ∧ IsHop w₀ tr t pre a b ∧
      (pre = [] ∨ ∃ ec' ∈ t.source.written, ec'.powerPath = pre ++ [a])
  | some (.received ec) => ReachesLoad w₀ t ec

variable {w₀ w w' : PowerSystem} {tr : History} {t : Transition PowerSystem Label}
  {written more : List ElectricCurrent} {a b : Identity} {stage : Stage}

theorem HadOut.append (h : HadOut tr a b) : HadOut (tr ++ [t]) a b := by
  obtain ⟨u, hu, hout⟩ := h
  exact ⟨u, List.mem_append_left _ hu, hout⟩

theorem SinceTake.append {A : Transition PowerSystem Label → Prop} (h : SinceTake tr b A)
    (ht : ∀ data, t.label.id = b → t.label.action ≠ .thread (.take data)) :
    SinceTake (tr ++ [t]) b A :=
  since_snoc.mpr (Or.inr ⟨h, ht⟩)

theorem SinceTake.of_last {A : Transition PowerSystem Label → Prop} (hid : t.label.id = b)
    (h : A t) : SinceTake (tr ++ [t]) b A :=
  since_snoc.mpr (Or.inl ⟨hid, h⟩)

theorem InBatch.append {data : List (Sample ElectricCurrent)} (h : InBatch tr written b data)
    (ht : ∀ data, t.label.id = b → t.label.action ≠ .thread (.take data)) :
    InBatch (tr ++ [t]) (written ++ more) b data := by
  intro s hs hvalid
  obtain ⟨hwritten, htook⟩ := h s hs hvalid
  exact ⟨List.mem_append_left _ hwritten, htook.append ht⟩

/-- A device keeps what it knows until it takes samples again. -/
theorem StageInv.append (h : StageInv tr written b stage)
    (ht : ∀ data, t.label.id = b → t.label.action ≠ .thread (.take data)) :
    StageInv (tr ++ [t]) (written ++ more) b stage := by
  cases stage with
  | idle => trivial
  | connected => trivial
  | running devs => exact fun x hx => ⟨(h x hx).1.append, (h x hx).2⟩
  | emitting devs => exact fun x hx => ⟨(h x hx).1.append, (h x hx).2⟩
  | took data => exact InBatch.append h ht
  | checked data => exact ⟨h.1.append ht, h.2.append ht⟩
  | hasIn data ins => exact ⟨h.1.append ht, h.2.1.append ht, fun x hx => (h.2.2 x hx).append ht⟩
  | relaying pending =>
    intro ec hec
    obtain ⟨pre, a, x, hpath, ⟨ec', hec', hpath'⟩, hout, hx, hrelayed⟩ := h ec hec
    exact ⟨pre, a, x, hpath, ⟨ec', List.mem_append_left _ hec', hpath'⟩, hout.append, hx,
      hrelayed.took.append ht, hrelayed.operational.append ht, hrelayed.input.append ht⟩

/-! ### The threads -/

section Threads

variable {p : PowerProgram} {act : ThreadAction} {out : Option PowerOutput}

theorem stageInv_of_snapshot {devs : List ConnectedDevice} (h : stage.snapshot = some devs) :
    StageInv tr written b stage ↔ ∀ x ∈ devs, HadOut tr b x.id ∧ x.id ≠ "" := by
  cases stage with
  | running devs' | emitting devs' =>
    obtain rfl := Option.some.inj h
    rfl
  | idle | connected | took | checked | hasIn | relaying => cases h

/-- A step of the simulation thread of a source. -/
theorem Inv.sourceThread (h : Inv w₀ tr w) (hp : w.programs.find? b = some p)
    (hrole : p.role = .source) (hstep : p.sourceThread act = some (stage, out)) :
    StageInv (tr ++ [⟨w, ⟨b, .thread act, out⟩, w'⟩]) (w.written ++ outputs out) b stage ∧
      OutputInv w₀ tr ⟨w, ⟨b, .thread act, out⟩, w'⟩ out := by
  obtain ⟨hid, hb, hroleOf⟩ := h.device b p hp
  rcases PowerProgram.sourceThread_cases hstep with
    ⟨rfl, rfl⟩ | ⟨rfl, rfl⟩ | ⟨devs, hdevs, hkept, hwrote⟩
  · exact ⟨trivial, trivial⟩
  · refine ⟨fun x hx => ⟨?_, (h.named b p hp).2 x hx⟩, trivial⟩
    exact ⟨_, List.mem_append_right _ List.mem_cons_self, p, hp, x, hx, rfl⟩
  · have hstage := (stageInv_of_snapshot hdevs).mp (h.stage b p hp)
    refine ⟨(stageInv_of_snapshot hkept).mpr fun x hx =>
      ⟨(hstage x hx).1.append, (hstage x hx).2⟩, ?_⟩
    rcases hwrote with rfl | ⟨dev, hdev, rfl⟩
    · trivial
    · obtain ⟨hout, hname⟩ := hstage dev (List.mem_of_mem_head? hdev)
      refine ⟨?_, [], b, dev.id, ?_, ⟨rfl, ⟨_, rfl, ?_⟩, hout, fun _ => ?_, nofun⟩, Or.inl rfl⟩
      · intro id hmem
        rw [hid] at hmem
        simp only [List.mem_cons, List.not_mem_nil, or_false] at hmem
        rcases hmem with rfl | rfl
        · exact hb
        · exact hname
      · rw [hid]
        rfl
      · rw [hid]
        rfl
      · rw [hroleOf, hrole]

/-- The start of a batch. -/
theorem Inv.startBatch (h : Inv w₀ tr w) (hp : w.programs.find? b = some p)
    (hdelivers : w.Delivers (.thread act)) (hstep : p.startBatch act = some (stage, out)) :
    StageInv (tr ++ [⟨w, ⟨b, .thread act, out⟩, w'⟩]) (w.written ++ outputs out) b stage ∧
      OutputInv w₀ tr ⟨w, ⟨b, .thread act, out⟩, w'⟩ out := by
  have hstage := h.stage b p hp
  cases act with
  | take data =>
    simp only [PowerProgram.startBatch] at hstep
    split at hstep
    · obtain ⟨rfl, rfl⟩ := Prod.mk.inj (Option.some.inj hstep)
      refine ⟨fun s hs hvalid => ⟨?_, ?_⟩, trivial⟩
      · exact List.mem_append_left _ (hdelivers s hs hvalid)
      · exact SinceTake.of_last rfl ⟨data, rfl, s, hs, hvalid, rfl⟩
    · cases hstep
  | checkLevel =>
    simp only [PowerProgram.startBatch] at hstep
    split at hstep
    · next data htook =>
      obtain ⟨rfl, rfl⟩ := Prod.mk.inj (Option.some.inj hstep)
      rw [htook] at hstage
      refine ⟨?_, trivial⟩
      split_ifs with hlevel
      · exact ⟨InBatch.append hstage fun _ _ => nofun, SinceTake.of_last rfl ⟨rfl, p, hp, hlevel⟩⟩
      · trivial
    · cases hstep
  | awaitConnections | readIn | readOut | write | examine | finish => cases hstep

/-- What a distribution device puts together for its outputs comes from the batch that it took. -/
theorem Inv.relayAll (h : Inv w₀ tr w) (hp : w.programs.find? b = some p)
    {data : List (Sample ElectricCurrent)} {ins : List ConnectedDevice}
    (hstage : StageInv tr w.written b (.hasIn data ins)) :
    StageInv (tr ++ [⟨w, ⟨b, .thread .readOut, none⟩, w'⟩]) (w.written ++ more) b
      (.relaying (p.relayAll ins p.connectedDevicesOut data)) := by
  obtain ⟨hbatch, hoperational, hins⟩ := hstage
  intro ec hec
  obtain ⟨s, hs, hec⟩ := List.mem_flatMap.mp hec
  obtain ⟨hs, hvalid⟩ := List.mem_filter.mp hs
  obtain ⟨pre, a, hpath, ⟨i, hi, rfl⟩, dev, hdev, rfl⟩ := SimulatedDevice.mem_relay.mp hec
  obtain ⟨hwritten, htook⟩ := hbatch s hs hvalid
  rw [(h.device b p hp).1] at hpath
  have hpath' : s.data.powerPath = (pre ++ [i.id]) ++ [b] := by
    rw [hpath, List.append_assoc]
    rfl
  rw [hpath'] at htook
  refine ⟨pre, i.id, dev.id, ?_, ⟨s.data, List.mem_append_left _ hwritten, hpath'⟩, ?_,
    (h.named b p hp).2 dev hdev, htook.append fun _ _ => nofun,
    hoperational.append fun _ _ => nofun, (hins i hi).append fun _ _ => nofun⟩
  · change s.data.powerPath ++ [dev.id] = _
    rw [hpath', List.append_assoc]
    rfl
  · exact ⟨_, List.mem_append_right _ List.mem_cons_self, p, hp, dev, hdev, rfl⟩

/-- What a distribution device writes goes on from a path that has been written. -/
theorem Inv.wroteRelayed (h : Inv w₀ tr w) (hp : w.programs.find? b = some p)
    (hrole : p.role = .distribution) {ec : ElectricCurrent} {pending : List ElectricCurrent}
    (hstage : StageInv tr w.written b (.relaying (ec :: pending))) :
    OutputInv w₀ tr ⟨w, ⟨b, .thread act, some (.wrote ec)⟩, w'⟩ (some (.wrote ec)) := by
  obtain ⟨pre, a, x, hpath, ⟨ec', hec', hpath'⟩, hout, hx, hrelayed⟩ := hstage ec List.mem_cons_self
  refine ⟨?_, pre ++ [a], b, x, hpath, ⟨rfl, ⟨ec, rfl, hpath⟩, hout, fun hnil => ?_,
    fun z hz => ?_⟩, Or.inr ⟨ec', hec', hpath'⟩⟩
  · intro id hmem
    have hsplit : ec.powerPath = ec'.powerPath ++ [x] := by
      rw [hpath, hpath']
      simp
    rw [hsplit] at hmem
    rcases List.mem_append.mp hmem with hmem | hmem
    · exact (h.written ec' hec').1 id hmem
    · rwa [List.mem_singleton.mp hmem]
  · exact absurd hnil (by simp)
  · rw [List.getLast?_concat] at hz
    obtain rfl := Option.some.inj hz
    exact ⟨by rw [(h.device b p hp).2.2, hrole], hrelayed⟩

/-- A step of the listener of a distribution device. -/
theorem Inv.distributionThread (h : Inv w₀ tr w) (hp : w.programs.find? b = some p)
    (hdelivers : w.Delivers (.thread act)) (hrole : p.role = .distribution)
    (hstep : p.distributionThread act = some (stage, out)) :
    StageInv (tr ++ [⟨w, ⟨b, .thread act, out⟩, w'⟩]) (w.written ++ outputs out) b stage ∧
      OutputInv w₀ tr ⟨w, ⟨b, .thread act, out⟩, w'⟩ out := by
  have hstage := h.stage b p hp
  cases act with
  | readIn =>
    simp only [PowerProgram.distributionThread] at hstep
    split at hstep
    · next data hchecked =>
      obtain ⟨rfl, rfl⟩ := Prod.mk.inj (Option.some.inj hstep)
      rw [hchecked] at hstage
      refine ⟨⟨InBatch.append hstage.1 fun _ _ => nofun, hstage.2.append fun _ _ => nofun,
        fun x hx => ?_⟩, trivial⟩
      exact SinceTake.of_last rfl ⟨rfl, p, hp, x, hx, rfl⟩
    · cases hstep
  | readOut =>
    simp only [PowerProgram.distributionThread] at hstep
    split at hstep
    · next data ins hhasIn =>
      obtain ⟨rfl, rfl⟩ := Prod.mk.inj (Option.some.inj hstep)
      rw [hhasIn] at hstage
      exact ⟨h.relayAll hp hstage, trivial⟩
    · cases hstep
  | write sent =>
    simp only [PowerProgram.distributionThread] at hstep
    split at hstep
    · next ec pending hrelaying =>
      obtain ⟨rfl, rfl⟩ := Prod.mk.inj (Option.some.inj hstep)
      rw [hrelaying] at hstage
      have hpending : StageInv tr w.written b (.relaying pending) :=
        fun ec' hec' => hstage ec' (List.mem_cons_of_mem ec hec')
      refine ⟨hpending.append fun _ _ => nofun, ?_⟩
      cases sent with
      | false => exact trivial
      | true => exact h.wroteRelayed hp hrole hstage
    · cases hstep
  | finish =>
    simp only [PowerProgram.distributionThread] at hstep
    split at hstep
    · obtain ⟨rfl, rfl⟩ := Prod.mk.inj (Option.some.inj hstep)
      exact ⟨trivial, trivial⟩
    · cases hstep
  | awaitConnections | take | checkLevel | examine => exact h.startBatch hp hdelivers hstep

/-- A step of the listener of a load. -/
theorem Inv.loadThread (h : Inv w₀ tr w) (hp : w.programs.find? b = some p)
    (hdelivers : w.Delivers (.thread act)) (hrole : p.role = .load)
    (hstep : p.loadThread act = some (stage, out)) :
    StageInv (tr ++ [⟨w, ⟨b, .thread act, out⟩, w'⟩]) (w.written ++ outputs out) b stage ∧
      OutputInv w₀ tr ⟨w, ⟨b, .thread act, out⟩, w'⟩ out := by
  have hstage := h.stage b p hp
  obtain ⟨hid, hb, hroleOf⟩ := h.device b p hp
  cases act with
  | examine =>
    simp only [PowerProgram.loadThread] at hstep
    split at hstep
    · next s data hchecked =>
      rw [hchecked] at hstage
      obtain ⟨hbatch, hoperational⟩ := hstage
      have hrest : StageInv tr w.written b (.checked data) :=
        ⟨fun s' hs' => hbatch s' (List.mem_cons_of_mem s hs'), hoperational⟩
      split_ifs at hstep with hcounts
      · obtain ⟨rfl, rfl⟩ := Prod.mk.inj (Option.some.inj hstep)
        obtain ⟨hvalid, hcounts⟩ := hcounts
        obtain ⟨hwritten, -⟩ := hbatch s List.mem_cons_self hvalid
        obtain ⟨pre, hpath⟩ := SimulatedDevice.counts_iff.mp hcounts
        have hname : p.connectedDevId ≠ "" := (h.written s.data hwritten).1 _ (by simp [hpath])
        obtain ⟨x, hx, hxid⟩ := SimulatedDevice.exists_of_connectedDevId hname
        exact ⟨trivial, by rw [hroleOf, hrole], p, hp, x, hx, pre, by rw [hpath, hxid, hid]⟩
      · obtain ⟨rfl, rfl⟩ := Prod.mk.inj (Option.some.inj hstep)
        exact ⟨hrest.append fun _ _ => nofun, trivial⟩
    · cases hstep
  | finish =>
    simp only [PowerProgram.loadThread] at hstep
    split at hstep
    · obtain ⟨rfl, rfl⟩ := Prod.mk.inj (Option.some.inj hstep)
      exact ⟨trivial, trivial⟩
    · cases hstep
  | awaitConnections | take | checkLevel | readIn | readOut | write =>
    exact h.startBatch hp hdelivers hstep

/-- A step of a thread keeps what the stage says, and its output says what it should. -/
theorem Inv.thread (h : Inv w₀ tr w) (hp : w.programs.find? b = some p)
    (hdelivers : w.Delivers (.thread act)) (hstep : p.thread act = some (stage, out)) :
    StageInv (tr ++ [⟨w, ⟨b, .thread act, out⟩, w'⟩]) (w.written ++ outputs out) b stage ∧
      OutputInv w₀ tr ⟨w, ⟨b, .thread act, out⟩, w'⟩ out := by
  rw [PowerProgram.thread] at hstep
  split at hstep
  · next hrole => exact h.sourceThread hp hrole hstep
  · next hrole => exact h.distributionThread hp hdelivers hrole hstep
  · next hrole => exact h.loadThread hp hdelivers hrole hstep
  · cases hstep

end Threads

/-! ### Runs -/

/-- What a step of a program does to it. -/
theorem Inv.act {p p' : PowerProgram} {act : PowerAction} {out : Option PowerOutput}
    (h : Inv w₀ tr w) (hp : w.programs.find? b = some p) (hdelivers : w.Delivers act)
    (hstep : p.act act = some (p', out)) :
    (p'.deviceId = p.deviceId ∧ p'.role = p.role) ∧
      ((∀ x ∈ p'.connectedDevicesIn, x.id ≠ "") ∧ ∀ x ∈ p'.connectedDevicesOut, x.id ≠ "") ∧
      StageInv (tr ++ [⟨w, ⟨b, act, out⟩, w'⟩]) (w.written ++ outputs out) b p'.stage ∧
      OutputInv w₀ tr ⟨w, ⟨b, act, out⟩, w'⟩ out := by
  have hnamed := h.named b p hp
  have hstage := h.stage b p hp
  cases act with
  | connections data =>
    obtain ⟨rfl, rfl⟩ := Prod.mk.inj (Option.some.inj hstep)
    have hkeep : StageInv (tr ++ [⟨w, ⟨b, .connections data, none⟩, w'⟩])
        (w.written ++ outputs none) b p.stage := hstage.append fun _ _ => nofun
    rcases p.toSimulatedDevice.pcOnDataAvailable_cases data with heq | ⟨s, hs, -, heq⟩
    · rw [heq]
      exact ⟨⟨rfl, rfl⟩, hnamed, hkeep, trivial⟩
    · rw [heq]
      refine ⟨⟨SimulatedDevice.deviceId_connectedDevices, SimulatedDevice.role_connectedDevices⟩,
        ⟨fun x hx => ?_, fun x hx => ?_⟩, hkeep, trivial⟩
      · rcases SimulatedDevice.mem_in_connectedDevices hx with hx | ⟨hx, -⟩
        · exact hnamed.1 x hx
        · exact hdelivers s hs x hx
      · rcases SimulatedDevice.mem_out_connectedDevices hx with hx | ⟨hx, -⟩
        · exact hnamed.2 x hx
        · exact hdelivers s hs x hx
  | energyLevel essl =>
    obtain ⟨rfl, rfl⟩ := Prod.mk.inj (Option.some.inj hstep)
    exact ⟨⟨rfl, rfl⟩, hnamed, hstage.append fun _ _ => nofun, trivial⟩
  | thread act =>
    obtain ⟨⟨stage, out'⟩, hthread, heq⟩ := Option.map_eq_some_iff.mp hstep
    obtain ⟨rfl, rfl⟩ := Prod.mk.inj heq
    exact ⟨⟨rfl, rfl⟩, hnamed, h.thread hp hdelivers hthread⟩

/-- The invariant is kept by every step, and every output says what it should. -/
theorem Inv.step {l : Label} (h : Inv w₀ tr w) (hstep : w.Step l w') :
    Inv w₀ (tr ++ [⟨w, l, w'⟩]) w' ∧ OutputInv w₀ tr ⟨w, l, w'⟩ l.output := by
  obtain ⟨hdelivers, p, p', hp, hact, rfl⟩ := hstep
  rcases l with ⟨b, action, out⟩
  obtain ⟨⟨hid, hrole⟩, hnamed, hstage, hout⟩ := h.act hp hdelivers hact
  refine ⟨⟨?_, ?_, ?_, ?_⟩, hout⟩
  · intro id q hq
    rw [Table.find?_set] at hq
    split_ifs at hq with hself
    · obtain rfl := Option.some.inj hq
      rw [hid, hrole, hself]
      exact h.device b p hp
    · exact h.device id q hq
  · intro id q hq
    rw [Table.find?_set] at hq
    split_ifs at hq with hself
    · obtain rfl := Option.some.inj hq
      exact hnamed
    · exact h.named id q hq
  · intro id q hq
    rw [Table.find?_set] at hq
    split_ifs at hq with hself
    · obtain rfl := Option.some.inj hq
      rw [hself]
      exact hstage
    · exact (h.stage id q hq).append fun _ heq => absurd heq.symm hself
  · intro ec hec
    rcases List.mem_append.mp hec with hec | hec
    · obtain ⟨hnames, tr', t', hpre, hwrote⟩ := h.written ec hec
      exact ⟨hnames, tr', t', hpre.trans (List.prefix_append ..), hwrote⟩
    · cases out with
      | none => cases hec
      | some out =>
        cases out with
        | received ec' => cases hec
        | wrote ec' =>
          obtain rfl := List.mem_singleton.mp hec
          exact ⟨hout.1, tr, _, List.prefix_rfl, rfl⟩

theorem inv_of_isInitial (h : w₀.IsInitial) : Inv w₀ [] w₀ := by
  obtain ⟨hwritten, hprograms⟩ := h
  refine ⟨fun id p hp => ?_, fun id p hp => ?_, fun id p hp => ?_, fun ec hec => ?_⟩
  · obtain ⟨hid, role, rfl⟩ := hprograms id p hp
    exact ⟨rfl, hid, by rw [roleOf, Option.mem_def.mp hp]; rfl⟩
  · obtain ⟨-, role, rfl⟩ := hprograms id p hp
    exact ⟨nofun, nofun⟩
  · obtain ⟨-, role, rfl⟩ := hprograms id p hp
    exact trivial
  · rw [hwritten] at hec
    cases hec

theorem inv_of_run (h₀ : w₀.IsInitial) (h : IsRun Step w₀ tr w) : Inv w₀ tr w :=
  h.traceInvariant (inv_of_isInitial h₀) fun _ _ _ _ _ hinv hstep => (hinv.step hstep).1

/-- A written path is made of hops: the last one is the write itself, and those before it make up a
path that has been written. -/
theorem isFlow_of_wrote (h₀ : w₀.IsInitial) (h : IsRun Step w₀ tr w) {ec : ElectricCurrent}
    {tr' : History} (hpre : tr' ++ [t] <+: tr) (hwrote : t.label.output = some (.wrote ec)) :
    IsFlow w₀ (tr' ++ [t]) ec.powerPath := by
  induction hn : tr'.length using Nat.strong_induction_on generalizing tr' t ec with
  | _ n ih =>
    obtain ⟨hrun, hstep⟩ := h.of_prefix_snoc hpre
    have hinv := inv_of_run h₀ hrun
    obtain ⟨-, hout⟩ := hinv.step hstep
    rw [hwrote] at hout
    obtain ⟨-, pre, a, b, hpath, hhop, hbefore⟩ := hout
    refine ⟨by simp [hpath], fun pre' a' b' post hsplit => ?_⟩
    rw [hpath] at hsplit
    rcases List.eq_nil_or_concat post with rfl | ⟨post, c, rfl⟩
    · obtain ⟨rfl, hends⟩ := List.append_inj' hsplit rfl
      obtain ⟨ha, hb⟩ := List.cons.inj hends
      rw [← ha, ← (List.cons.inj hb).1]
      exact ⟨tr', t, List.prefix_rfl, hhop⟩
    · have hsplit' : (pre ++ [a]) ++ [b] = (pre' ++ a' :: b' :: post) ++ [c] := by
        simpa [List.concat_eq_append] using hsplit
      obtain ⟨hbefore', -⟩ := List.append_inj' hsplit' rfl
      rcases hbefore with rfl | ⟨ec', hec', hpath'⟩
      · have hlength := congrArg List.length hbefore'
        simp only [List.length_append, List.length_cons, List.length_nil] at hlength
        omega
      · obtain ⟨-, tr'', t'', hpre'', hwrote''⟩ := hinv.written ec' hec'
        have hlength := hpre''.length_le
        rw [List.length_append, List.length_singleton] at hlength
        have hbeforeT := hpre''.trans (List.prefix_append tr' [t])
        obtain ⟨-, hhops⟩ := ih tr''.length (by omega) (hbeforeT.trans hpre) hwrote'' rfl
        obtain ⟨tr₃, t₃, hpre₃, hhop₃⟩ := hhops pre' a' b' post (by rw [hpath', hbefore'])
        exact ⟨tr₃, t₃, hpre₃.trans hbeforeT, hhop₃⟩

/-- **The flow of power.** In every run of any number of sources, distribution devices and loads,
every written path is made of hops: it starts with a source, every device on it has had the next one
among its outputs when it wrote it, and every device in between is a distribution device that has
handled a batch with the path up to there, for which it was operational and found the device before
it among its inputs. A load counts a current as received only if its path ends with the input device
of the load and the load. -/
theorem flow_of_run (h₀ : w₀.IsInitial) (h : IsRun Step w₀ tr w) :
    (∀ tr' t ec, tr' ++ [t] <+: tr → t.label.output = some (.wrote ec) →
      IsFlow w₀ (tr' ++ [t]) ec.powerPath) ∧
    ∀ t ∈ tr, ∀ ec, t.label.output = some (.received ec) → ReachesLoad w₀ t ec := by
  refine ⟨fun tr' t ec hpre hwrote => isFlow_of_wrote h₀ h hpre hwrote, fun t ht ec hreceived => ?_⟩
  obtain ⟨tr', hrun, hstep⟩ := h.of_mem ht
  obtain ⟨-, hout⟩ := (inv_of_run h₀ hrun).step hstep
  rw [hreceived] at hout
  exact hout

/-- New programs by their ids and roles. -/
def ofRoles (devices : List (Identity × DeviceRole)) : PowerSystem where
  programs := devices.foldl (fun t d => t.set d.1 { deviceId := d.1, role := d.2 }) ∅

theorem isInitial_ofRoles {devices : List (Identity × DeviceRole)}
    (h : ∀ d ∈ devices, d.1 ≠ "") : (ofRoles devices).IsInitial := by
  refine ⟨rfl, fun id p hp => ?_⟩
  obtain ⟨d, hd, rfl, rfl⟩ := Table.exists_of_find?_foldl_set hp
  exact ⟨h d hd, d.2, rfl⟩

/-- A source, a distribution device and a load. -/
def hub : PowerSystem := ofRoles [("gen", .source), ("hub", .distribution), ("lamp", .load)]

/-- A current from a source over a distribution device to a load. -/
theorem flow_of_hub : ∃ (tr : History) (w : PowerSystem), hub.IsInitial ∧ IsRun Step hub tr w ∧
    w.written.map (·.powerPath) = [["gen", "hub"], ["gen", "hub", "lamp"]] ∧
    (∃ t ∈ tr, ∃ ec, t.label.output = some (.received ec)) ∧
    (∀ tr' t ec, tr' ++ [t] <+: tr → t.label.output = some (.wrote ec) →
      IsFlow hub (tr' ++ [t]) ec.powerPath) ∧
    ∀ t ∈ tr, ∀ ec, t.label.output = some (.received ec) → ReachesLoad hub t ec := by
  have h₀ : hub.IsInitial := isInitial_ofRoles (by decide)
  obtain ⟨tr, w, hrun, hwritten, hreceived⟩ := exists_isRun_of_follow Step.of_next?
    (P := fun tr w => w.written.map (·.powerPath) = [["gen", "hub"], ["gen", "hub", "lamp"]] ∧
      ∃ t ∈ tr, t.label.output = some (.received ⟨["gen", "hub", "lamp"], 10⟩))
    (s := hub)
    [("gen", .connections [⟨⟨"gen", [⟨"hub", .distribution⟩]⟩, true⟩]),
      ("hub", .connections [⟨⟨"hub", [⟨"gen", .source⟩, ⟨"lamp", .load⟩]⟩, true⟩]),
      ("lamp", .connections [⟨⟨"lamp", [⟨"hub", .distribution⟩]⟩, true⟩]),
      ("gen", .thread .awaitConnections), ("gen", .thread .readOut), ("gen", .thread .checkLevel),
      ("gen", .thread (.write true)), ("hub", .thread (.take [⟨⟨["gen", "hub"], 10⟩, true⟩])),
      ("hub", .thread .checkLevel), ("hub", .thread .readIn), ("hub", .thread .readOut),
      ("hub", .thread (.write true)), ("hub", .thread .finish),
      ("lamp", .thread (.take [⟨⟨["gen", "hub", "lamp"], 10⟩, true⟩])),
      ("lamp", .thread .checkLevel), ("lamp", .thread .examine)] (by decide +kernel)
  obtain ⟨t, ht, hec⟩ := hreceived
  exact ⟨tr, w, h₀, hrun, hwritten, ⟨t, ht, _, hec⟩, flow_of_run h₀ hrun⟩

end PowerSystem

end TacticalMicrogrid
