import TacticalMicrogrid.Controller.ControllerCommands
import TacticalMicrogrid.Selection.Failover

/-!
# The commands of an operator in a microgrid

An operator suspends, resumes and terminates the controllers of a `SelectionSystem`. A command is
written once; it reaches the reader of every controller that is there, in the order of the commands,
but a later command for the same controller can replace one that is still on its way or has not been
taken. The listener of a controller makes its calls one after another, and everything else can
happen in between. A controller announces itself before its reader is created, and a new process
has a new reader.

## Main definitions

* `CommandedMicrogrid`, `CommandedMicrogrid.Label`, `CommandedMicrogrid.Step`.
* `CommandedMicrogrid.commandsFor`, `CommandedMicrogrid.obeyedBy`: the commands for a controller,
  and those it has acted on.
* `CommandedMicrogrid.gridComponent`: the microgrid as a component, with `SelectionSystem.Step` as
  its steps.

## Main results

* `CommandedMicrogrid.obeys_last_command`: the last command for a controller takes effect.
* `CommandedMicrogrid.drops_suspended`: devices give up a controller that an operator suspends.
-/

namespace TacticalMicrogrid

open TransitionSystem

/-- A microgrid, the client of an operator, and the reader of each controller. -/
structure CommandedMicrogrid (τ ι : Type) where
  grid : SelectionSystem τ ι
  client : CLIClient τ
  readers : Identity → CommandReader

namespace CommandedMicrogrid

variable {τ ι : Type}

/-! ### Steps -/

/-- The step of the microgrid that a call of a listener is. -/
def callLabel (now : ℤ) (x : Identity) : ControllerCall → SelectionSystem.Label ι
  | .stopHeartbeats => ⟨now, .participant x .stopHeartbeats []⟩
  | .startHeartbeats => ⟨now, .participant x .startHeartbeats []⟩
  | .endReactorEventLoop => ⟨now, .endLoop x⟩

/-- What can happen: a step of the microgrid without a command, a new process, the reader of a
controller, a sample for the client, a command, its way to a reader, a `take` of the listener, and a
call of it. -/
inductive Label (ι : Type)
  | grid (l : SelectionSystem.Label ι)
  | restart (now : ℤ) (x : Identity)
  | serve (x : Identity)
  | deviceInfo (now : ℤ) (di : InfoSample DeviceInfo)
  | heartbeat (now : ℤ) (hb : InfoSample Heartbeat)
  | command (input : String) (cmd : ControllerCommand)
  | arrive (x : Identity)
  | skip (x : Identity)
  | take (x : Identity) (data : List (Sample ControllerCommand))
  | call (now : ℤ) (x : Identity) (call : ControllerCall)

/-- The step of the microgrid in a step. -/
def Label.gridLabel : Label ι → Option (SelectionSystem.Label ι)
  | .grid l => some l
  | .restart now x => some ⟨now, .restart x⟩
  | .call now x made => some (callLabel now x made)
  | .serve _ | .deviceInfo .. | .heartbeat .. | .command .. | .arrive _ | .skip _ | .take .. => none

/-- A step of the microgrid that needs no command: what a controller does before its reader is
there, the timeouts, and what the devices do. -/
def Uncommanded (readers : Identity → CommandReader) : SelectionSystem.Action ι → Prop
  | .participant _ (.timeout _) _ | .learn .. | .hear .. | .timeout .. | .lose .. => True
  | .participant x (.createPublishers ..) _ | .participant x (.sendDeviceInfo ..) _ | .endLoop x =>
    (readers x).serving = false
  | .participant _ .startHeartbeats _ | .participant _ .stopHeartbeats _ | .restart _ => False

instance (readers : Identity → CommandReader) :
    (a : SelectionSystem.Action ι) → Decidable (Uncommanded readers a)
  | .participant _ (.timeout _) _ | .learn .. | .hear .. | .timeout .. | .lose .. => isTrue trivial
  | .participant _ (.createPublishers ..) _ | .participant _ (.sendDeviceInfo ..) _ | .endLoop _ =>
    inferInstanceAs (Decidable (_ = _))
  | .participant _ .startHeartbeats _ | .participant _ .stopHeartbeats _ | .restart _ =>
    isFalse id

/-- The microgrid with another reader of a controller. -/
def withReader (c : CommandedMicrogrid τ ι) (x : Identity) (r : CommandReader) :
    CommandedMicrogrid τ ι :=
  { c with readers := Function.update c.readers x r }

@[simp] theorem grid_withReader (c : CommandedMicrogrid τ ι) (x : Identity) (r : CommandReader) :
    (c.withReader x r).grid = c.grid := rfl

@[simp] theorem readers_withReader_self (c : CommandedMicrogrid τ ι) (x : Identity)
    (r : CommandReader) : (c.withReader x r).readers x = r := Function.update_self ..

theorem readers_withReader_of_ne (c : CommandedMicrogrid τ ι) {x y : Identity} (hne : y ≠ x)
    (r : CommandReader) : (c.withReader x r).readers y = c.readers y := Function.update_of_ne hne ..

/-- What holds of the reader of a controller, if it does of the one that replaces it. -/
theorem forall_readers_withReader {c : CommandedMicrogrid τ ι} {x y : Identity} {r : CommandReader}
    {Q : CommandReader → Prop} (hother : Q (c.readers x)) (hself : y = x → Q r) :
    Q ((c.withReader y r).readers x) := by
  rcases eq_or_ne y x with rfl | hne
  · rw [readers_withReader_self]
    exact hself rfl
  · rwa [readers_withReader_of_ne c hne.symm]

variable [TimePoint τ] [DecidableEq ι]

/-- The steps of a microgrid with an operator. -/
inductive Step (c : CommandedMicrogrid τ ι) : Label ι → CommandedMicrogrid τ ι → Prop
  | grid {l : SelectionSystem.Label ι} {g : SelectionSystem τ ι}
      (hfree : Uncommanded c.readers l.action) (hstep : SelectionSystem.Step c.grid l g) :
      Step c (.grid l) { c with grid := g }
  | restart {now : ℤ} {x : Identity} {g : SelectionSystem τ ι}
      (hstep : SelectionSystem.Step c.grid ⟨now, .restart x⟩ g) :
      Step c (.restart now x) ({ c with grid := g }.withReader x {})
  | serve {x : Identity} (hnew : (c.readers x).serving = false)
      (hloop : c.grid.loopEnded x = false) :
      Step c (.serve x) (c.withReader x { serving := true })
  | deviceInfo (now : ℤ) (di : InfoSample DeviceInfo) :
      Step c (.deviceInfo now di) { c with client := c.client.processDeviceInfo now di }
  | heartbeat (now : ℤ) (hb : InfoSample Heartbeat) :
      Step c (.heartbeat now hb) { c with client := c.client.processHeartbeat now hb }
  | command {input : String} {cmd : ControllerCommand}
      (hcmd : c.client.runControllerCmd input = some (.ok cmd)) :
      Step c (.command input cmd) { c with readers := fun x => (c.readers x).send cmd }
  | arrive {x : Identity} {cmd : ControllerCommand} {rest : List ControllerCommand}
      (hsent : (c.readers x).sent = cmd :: rest) :
      Step c (.arrive x) (c.withReader x ((c.readers x).arrive cmd rest))
  | skip {x : Identity} {cmd : ControllerCommand} {rest : List ControllerCommand}
      (hsent : (c.readers x).sent = cmd :: rest) (hlater : ∃ later ∈ rest, later.mcId = cmd.mcId) :
      Step c (.skip x) (c.withReader x { c.readers x with sent := rest })
  | take {x : Identity} {data : List (Sample ControllerCommand)}
      (hcalls : (c.readers x).calls = []) (htakes : (c.readers x).Takes data) :
      Step c (.take x data) (c.withReader x ((c.readers x).take x data))
  | call {now : ℤ} {x : Identity} {call : ControllerCall} {calls : List ControllerCall}
      {g : SelectionSystem τ ι} (hcalls : (c.readers x).calls = call :: calls)
      (hstep : SelectionSystem.Step c.grid (callLabel now x call) g) :
      Step c (.call now x call)
        ({ c with grid := g }.withReader x { c.readers x with calls := calls })

/-- New participants and devices, a new client, and no readers yet. -/
def init (deviceId : ι → Identity) (callbacks : ControllerCallbacks) (clock : ℤ)
    (clientId : Identity) : CommandedMicrogrid τ ι where
  grid := .init deviceId callbacks clock
  client := { deviceId := clientId }
  readers _ := {}

/-- The transitions of a run. -/
abbrev Trace (τ ι : Type) := List (Transition (CommandedMicrogrid τ ι) (Label ι))

/-- `tr` is a run of a new microgrid with an operator, which ends in `c`. -/
def IsCommandedRun (tr : Trace τ ι) (c : CommandedMicrogrid τ ι) : Prop :=
  ∃ deviceId callbacks clock clientId,
    IsRun Step (init deviceId callbacks clock clientId) tr c

/-! ### Computed steps -/

/-- The microgrid after a step with a given label, if it can be taken. -/
def gridNext? (g : SelectionSystem τ ι) (l : SelectionSystem.Label ι) :
    Option (SelectionSystem τ ι) :=
  (SelectionSystem.next? g l).bind fun r => if r.1 = l then some r.2 else none

/-- The step that a label stands for, if it can be taken. -/
def next? (c : CommandedMicrogrid τ ι) : Label ι → Option (Label ι × CommandedMicrogrid τ ι)
  | .grid l =>
    (SelectionSystem.next? c.grid l).bind fun r =>
      if Uncommanded c.readers r.1.action then some (.grid r.1, { c with grid := r.2 }) else none
  | .restart now x =>
    (gridNext? c.grid ⟨now, .restart x⟩).map fun g =>
      (.restart now x, { c with grid := g }.withReader x {})
  | .serve x =>
    if (c.readers x).serving = false ∧ c.grid.loopEnded x = false then
      some (.serve x, c.withReader x { serving := true })
    else none
  | .deviceInfo now di =>
    some (.deviceInfo now di, { c with client := c.client.processDeviceInfo now di })
  | .heartbeat now hb =>
    some (.heartbeat now hb, { c with client := c.client.processHeartbeat now hb })
  | .command input _ =>
    match c.client.runControllerCmd input with
    | some (.ok cmd) =>
      some (.command input cmd, { c with readers := fun x => (c.readers x).send cmd })
    | _ => none
  | .arrive x =>
    match (c.readers x).sent with
    | cmd :: rest => some (.arrive x, c.withReader x ((c.readers x).arrive cmd rest))
    | [] => none
  | .skip x =>
    match (c.readers x).sent with
    | cmd :: rest =>
      if ∃ later ∈ rest, later.mcId = cmd.mcId then
        some (.skip x, c.withReader x { c.readers x with sent := rest })
      else none
    | [] => none
  | .take x data =>
    if (c.readers x).calls = [] ∧ (c.readers x).Takes data then
      some (.take x data, c.withReader x ((c.readers x).take x data))
    else none
  | .call now x made =>
    match (c.readers x).calls with
    | first :: rest =>
      if first = made then
        (gridNext? c.grid (callLabel now x made)).map fun g =>
          (.call now x made, { c with grid := g }.withReader x { c.readers x with calls := rest })
      else none
    | [] => none

theorem step_of_gridNext? {g g' : SelectionSystem τ ι} {l : SelectionSystem.Label ι}
    (h : gridNext? g l = some g') : SelectionSystem.Step g l g' := by
  obtain ⟨⟨l', g''⟩, hnext, heq⟩ := Option.bind_eq_some_iff.mp h
  split_ifs at heq with hl
  obtain rfl := Option.some.inj heq
  exact hl ▸ SelectionSystem.step_of_next? g l l' g'' hnext

theorem step_of_next? (c : CommandedMicrogrid τ ι) (l l' : Label ι) (c' : CommandedMicrogrid τ ι)
    (h : next? c l = some (l', c')) : Step c l' c' := by
  cases l with
  | grid l =>
    obtain ⟨⟨l'', g⟩, hnext, heq⟩ := Option.bind_eq_some_iff.mp h
    obtain ⟨hfree, rfl, rfl⟩ := of_guard_eq_some heq
    exact .grid hfree (SelectionSystem.step_of_next? c.grid l l'' g hnext)
  | restart now x =>
    obtain ⟨g, hnext, heq⟩ := Option.map_eq_some_iff.mp h
    obtain ⟨rfl, rfl⟩ := Prod.mk.inj heq
    exact .restart (step_of_gridNext? hnext)
  | serve x =>
    obtain ⟨⟨hnew, hloop⟩, rfl, rfl⟩ := of_guard_eq_some h
    exact .serve hnew hloop
  | deviceInfo now di =>
    obtain ⟨rfl, rfl⟩ := Prod.mk.inj (Option.some.inj h)
    exact .deviceInfo now di
  | heartbeat now hb =>
    obtain ⟨rfl, rfl⟩ := Prod.mk.inj (Option.some.inj h)
    exact .heartbeat now hb
  | command input =>
    simp only [next?] at h
    split at h
    · next hcmd =>
      obtain ⟨rfl, rfl⟩ := Prod.mk.inj (Option.some.inj h)
      exact .command hcmd
    · cases h
  | arrive x =>
    simp only [next?] at h
    split at h
    · next hsent =>
      obtain ⟨rfl, rfl⟩ := Prod.mk.inj (Option.some.inj h)
      exact .arrive hsent
    · cases h
  | skip x =>
    simp only [next?] at h
    split at h
    · next hsent =>
      obtain ⟨hlater, rfl, rfl⟩ := of_guard_eq_some h
      exact .skip hsent hlater
    · cases h
  | take x data =>
    obtain ⟨⟨hcalls, htakes⟩, rfl, rfl⟩ := of_guard_eq_some h
    exact .take hcalls htakes
  | call now x made =>
    simp only [next?] at h
    split at h
    · next hcalls =>
      split_ifs at h with hmade
      obtain ⟨g, hnext, heq⟩ := Option.map_eq_some_iff.mp h
      obtain ⟨rfl, rfl⟩ := Prod.mk.inj heq
      exact .call (hmade ▸ hcalls) (step_of_gridNext? hnext)
    · cases h

/-- The computed run along a list of labels is a run. -/
theorem isCommandedRun_of_follow (deviceId : ι → Identity) (callbacks : ControllerCallbacks)
    (clock : ℤ) (clientId : Identity) (ls : List (Label ι)) {tr : Trace τ ι}
    {c : CommandedMicrogrid τ ι}
    (h : follow next? (init deviceId callbacks clock clientId) ls = some (tr, c)) :
    IsCommandedRun tr c :=
  ⟨deviceId, callbacks, clock, clientId, isRun_of_follow step_of_next? ls h⟩

/-! ### The microgrid in a run -/

/-- The microgrid without its operator. -/
def gridComponent : Component (CommandedMicrogrid τ ι) (Label ι) (SelectionSystem τ ι)
    (SelectionSystem.Label ι) where
  state c := c.grid
  label := Label.gridLabel

section Runs

variable {c c' : CommandedMicrogrid τ ι} {l : Label ι} {x : Identity}
  {tr : Trace τ ι}

/-- A command does nothing that a microgrid could not do by itself. -/
theorem grid_follows :
    (gridComponent (τ := τ) (ι := ι)).Follows Step (SelectionSystem.Step) where
  moves c l c' k hstep hk := by
    cases hstep with
    | grid hfree hstep | restart hstep | call hcalls hstep =>
      obtain rfl := Option.some.inj hk
      exact hstep
    | _ => cases hk
  stays c l c' hstep hnone := by
    cases hstep with
    | grid | restart | call => cases hnone
    | _ => rfl

theorem IsCommandedRun.gridRun (h : IsCommandedRun tr c) :
    SelectionSystem.IsSelectionRun (gridComponent.trace tr) c.grid := by
  obtain ⟨deviceId, callbacks, clock, clientId, hrun⟩ := h
  exact ⟨deviceId, callbacks, clock, hrun.component (grid_follows)⟩

theorem IsCommandedRun.snoc (h : IsCommandedRun tr c) (hstep : Step c l c') :
    IsCommandedRun (tr ++ [⟨c, l, c'⟩]) c' := by
  obtain ⟨deviceId, callbacks, clock, clientId, hrun⟩ := h
  exact ⟨deviceId, callbacks, clock, clientId, .snoc hrun hstep⟩

/-- The induction over a run. -/
theorem IsCommandedRun.traceInvariant {P : Trace τ ι → CommandedMicrogrid τ ι → Prop}
    (h : IsCommandedRun tr c)
    (hstart : ∀ deviceId callbacks clock clientId,
      P [] (init deviceId callbacks clock clientId))
    (hkeep : ∀ tr c l c', IsCommandedRun tr c → P tr c → Step c l c' →
      P (tr ++ [⟨c, l, c'⟩]) c') : P tr c := by
  obtain ⟨deviceId, callbacks, clock, clientId, hrun⟩ := h
  exact hrun.traceInvariant (hstart deviceId callbacks clock clientId)
    fun tr c l c' hrun => hkeep tr c l c' ⟨deviceId, callbacks, clock, clientId, hrun⟩

/-! ### The commands for a controller -/

/-- The commands for a controller, with one more step; a new process has got none. -/
def recordCommand (x : Identity) (types : List ControllerCmdType)
    (t : Transition (CommandedMicrogrid τ ι) (Label ι)) : List ControllerCmdType :=
  match t.label with
  | .restart _ y => if y = x then [] else types
  | .command _ cmd =>
    if cmd.mcId = x ∧ (t.source.readers x).serving = true then types ++ [cmd.type] else types
  | _ => types

/-- The commands that have been written for a controller since its reader is there. -/
def commandsFor (x : Identity) (tr : Trace τ ι) : List ControllerCmdType :=
  tr.foldl (recordCommand x) []

/-- The commands that a controller has acted on, with one more step. -/
def recordObeyed (x : Identity) (types : List ControllerCmdType)
    (t : Transition (CommandedMicrogrid τ ι) (Label ι)) : List ControllerCmdType :=
  match t.label with
  | .restart _ y => if y = x then [] else types
  | .take y data => if y = x then types ++ (foundCommand x data).toList else types
  | _ => types

/-- The commands that the process of a controller has acted on. -/
def obeyedBy (x : Identity) (tr : Trace τ ι) : List ControllerCmdType :=
  tr.foldl (recordObeyed x) []

section Record

variable (types : List ControllerCmdType) (c c' : CommandedMicrogrid τ ι) (now : ℤ) (y : Identity)

omit [DecidableEq ι] [TimePoint τ]

theorem recordCommand_restart : recordCommand x types ⟨c, .restart now y, c'⟩ =
    if y = x then [] else types := rfl

theorem recordCommand_command (input : String) (cmd : ControllerCommand) :
    recordCommand x types ⟨c, .command input cmd, c'⟩ =
      if cmd.mcId = x ∧ (c.readers x).serving = true then types ++ [cmd.type] else types := rfl

theorem recordObeyed_restart : recordObeyed x types ⟨c, .restart now y, c'⟩ =
    if y = x then [] else types := rfl

theorem recordObeyed_take (data : List (Sample ControllerCommand)) :
    recordObeyed x types ⟨c, .take y data, c'⟩ =
      if y = x then types ++ (foundCommand x data).toList else types := rfl

theorem commandsFor_snoc (tr : Trace τ ι) (t : Transition (CommandedMicrogrid τ ι) (Label ι)) :
    commandsFor x (tr ++ [t]) = recordCommand x (commandsFor x tr) t := by
  rw [commandsFor, List.foldl_append]
  rfl

theorem obeyedBy_snoc (tr : Trace τ ι) (t : Transition (CommandedMicrogrid τ ι) (Label ι)) :
    obeyedBy x (tr ++ [t]) = recordObeyed x (obeyedBy x tr) t := by
  rw [obeyedBy, List.foldl_append]
  rfl

end Record

/-- What the reader of a controller says about the commands for it. -/
structure Recorded (x : Identity) (tr : Trace τ ι) (r : CommandReader) : Prop where
  keyed : KeepLast.Keyed ControllerCommand.mcId r.cache
  idle : r.serving = false → r = {} ∧ obeyedBy x tr = []
  thins : KeepLast.Thins (obeyedBy x tr ++ r.pending x) (commandsFor x tr)

omit [DecidableEq ι] [TimePoint τ] in
theorem Recorded.snoc {t : Transition (CommandedMicrogrid τ ι) (Label ι)} {r : CommandReader}
    (hkeyed : KeepLast.Keyed ControllerCommand.mcId r.cache)
    (hidle : r.serving = false → r = {} ∧ recordObeyed x (obeyedBy x tr) t = [])
    (hthins : KeepLast.Thins (recordObeyed x (obeyedBy x tr) t ++ r.pending x)
      (recordCommand x (commandsFor x tr) t)) : Recorded x (tr ++ [t]) r := by
  constructor
  · exact hkeyed
  · rwa [obeyedBy_snoc]
  · rwa [obeyedBy_snoc, commandsFor_snoc]

/-- The reader of a controller agrees with the history. -/
theorem IsCommandedRun.recorded (h : IsCommandedRun tr c) (x : Identity) :
    Recorded x tr (c.readers x) := by
  refine h.traceInvariant (P := fun tr c => Recorded x tr (c.readers x))
    (fun _ _ _ _ => ⟨.empty, fun _ => ⟨rfl, rfl⟩, .refl _⟩) ?_
  rintro tr c l c' - ⟨hkeyed, hidle, hthins⟩ hstep
  cases hstep with
  | grid | deviceInfo | heartbeat => exact .snoc hkeyed hidle hthins
  | @restart now y =>
    rcases eq_or_ne y x with rfl | hne
    · rw [readers_withReader_self]
      refine .snoc .empty (fun _ => ⟨rfl, if_pos rfl⟩) ?_
      rw [recordObeyed_restart, recordCommand_restart, if_pos rfl, if_pos rfl]
      exact .refl _
    · rw [readers_withReader_of_ne _ hne.symm]
      refine .snoc hkeyed ?_ ?_
      · rwa [recordObeyed_restart, if_neg hne]
      · rwa [recordObeyed_restart, recordCommand_restart, if_neg hne, if_neg hne]
  | @serve y hnew =>
    rcases eq_or_ne y x with rfl | hne
    · obtain ⟨hr, hobeyed⟩ := hidle hnew
      rw [readers_withReader_self]
      rw [hr] at hthins
      exact .snoc .empty (fun hserving => Bool.noConfusion hserving) hthins
    · rw [readers_withReader_of_ne _ hne.symm]
      exact .snoc hkeyed hidle hthins
  | @command input cmd hcmd =>
    change Recorded x _ ((c.readers x).send cmd)
    cases hserving : (c.readers x).serving with
    | false =>
      rw [CommandReader.send, if_neg (by simp [hserving])]
      refine .snoc hkeyed hidle ?_
      rw [recordCommand_command, if_neg (by simp [hserving])]
      exact hthins
    | true =>
      refine .snoc ?_ ?_ ?_
      · rwa [CommandReader.send, if_pos hserving]
      · rw [CommandReader.send, if_pos hserving]
        exact fun hnot => absurd (hnot.symm.trans hserving) Bool.false_ne_true
      · rw [CommandReader.pending_send hserving, ← List.append_assoc]
        have hrecord : ∀ c', recordCommand x (commandsFor x tr) ⟨c, .command input cmd, c'⟩ =
            commandsFor x tr ++ if cmd.mcId = x then [cmd.type] else [] := fun c' => by
          rw [recordCommand_command]
          by_cases hx : cmd.mcId = x
          · rw [if_pos ⟨hx, hserving⟩, if_pos hx]
          · rw [if_neg fun h => hx h.1, if_neg hx, List.append_nil]
        rw [hrecord]
        exact hthins.append _
  | @arrive y cmd rest hsent =>
    rcases eq_or_ne y x with rfl | hne
    · rw [readers_withReader_self]
      obtain ⟨replaced, hpending, hlast⟩ := CommandReader.pending_arrive (x := y) hsent
      rw [hpending] at hthins
      refine .snoc (hkeyed.store cmd) (fun hserving => ?_) (hthins.drop hlast)
      rw [(hidle hserving).1] at hsent
      cases hsent
    · rw [readers_withReader_of_ne _ hne.symm]
      exact .snoc hkeyed hidle hthins
  | @skip y cmd rest hsent hlater =>
    rcases eq_or_ne y x with rfl | hne
    · rw [readers_withReader_self]
      obtain ⟨before, dropped, after, hpending, hskipped, hlast⟩ :=
        CommandReader.pending_skip (x := y) hsent hlater
      rw [hpending, ← List.append_assoc] at hthins
      refine .snoc hkeyed (fun hserving => ?_) ?_
      · rw [(hidle hserving).1] at hsent
        cases hsent
      · rw [hskipped, ← List.append_assoc]
        exact hthins.drop hlast
    · rw [readers_withReader_of_ne _ hne.symm]
      exact .snoc hkeyed hidle hthins
  | @take y data hcalls htakes =>
    rcases eq_or_ne y x with rfl | hne
    · rw [readers_withReader_self]
      refine .snoc .empty (fun hserving => ?_) ?_
      · obtain ⟨hr, hobeyed⟩ := hidle hserving
        have hnone : foundCommand y data = none := by
          rw [CommandReader.foundCommand_eq hkeyed htakes, hr]
          rfl
        rw [recordObeyed_take, if_pos rfl, hobeyed, hr, CommandReader.take, ccOnDataAvailable,
          hnone]
        exact ⟨rfl, rfl⟩
      · rw [recordObeyed_take, if_pos rfl, List.append_assoc,
          ← CommandReader.pending_take hkeyed htakes]
        exact hthins
    · rw [readers_withReader_of_ne _ hne.symm]
      refine .snoc hkeyed ?_ ?_
      · rwa [recordObeyed_take, if_neg hne]
      · rwa [recordObeyed_take, if_neg hne]
  | @call now y made calls g hcalls =>
    rcases eq_or_ne y x with rfl | hne
    · rw [readers_withReader_self]
      refine .snoc hkeyed (fun hserving => ?_) hthins
      rw [(hidle hserving).1] at hcalls
      cases hcalls
    · rw [readers_withReader_of_ne _ hne.symm]
      exact .snoc hkeyed hidle hthins

/-! ### What a command does -/

/-- The heartbeats of a controller are stopped or started as its last command says, and its reactor
has stopped if it was told to terminate, but for the calls that its listener has still to make. -/
structure InEffect (x : Identity) (obeyed : List ControllerCmdType) (c : CommandedMicrogrid τ ι) :
    Prop where
  calls : obeyed = [] → (c.readers x).calls = []
  heartbeats : ∀ t ∈ obeyed.getLast?, (c.readers x).calls = t.calls ∨
    ((c.readers x).calls = [] ∨
        t = .terminate ∧ (c.readers x).calls = [.endReactorEventLoop]) ∧
      ((c.grid.participants x).participant.heartbeat.active = true ↔
        t = .resume ∧ (c.grid.participants x).participant.hbDw = true)
  ended : c.grid.loopEnded x = true ∨ .endReactorEventLoop ∈ (c.readers x).calls ↔
    .terminate ∈ obeyed

section InEffect

variable {obeyed : List ControllerCmdType}

omit [DecidableEq ι] [TimePoint τ] in
/-- A step that has nothing to do with the commands for a controller. -/
theorem InEffect.of_same (h : InEffect x obeyed c)
    (hcalls : (c'.readers x).calls = (c.readers x).calls)
    (hactive : (c'.grid.participants x).participant.heartbeat.active =
        (c.grid.participants x).participant.heartbeat.active ∧
      (c'.grid.participants x).participant.hbDw = (c.grid.participants x).participant.hbDw)
    (hloop : c'.grid.loopEnded x = c.grid.loopEnded x) : InEffect x obeyed c' where
  calls hnil := hcalls.trans (h.calls hnil)
  heartbeats t ht := by
    rw [hcalls, hactive.1, hactive.2]
    exact h.heartbeats t ht
  ended := by
    rw [hcalls, hloop]
    exact h.ended

omit [DecidableEq ι] in
/-- A call of a listener is one of its own controller. -/
theorem callLabel_frame {y : Identity} (hne : y ≠ x) (now : ℤ) (made : ControllerCall) :
    (∀ input written, (callLabel now y made : SelectionSystem.Label ι).action =
        .participant x input written → input.isTimeout) ∧
      (callLabel now y made : SelectionSystem.Label ι).action ≠ .restart x ∧
      (callLabel now y made : SelectionSystem.Label ι).action ≠ .endLoop x := by
  cases made with
  | stopHeartbeats | startHeartbeats =>
    refine ⟨fun input written haction => ?_, fun haction => ?_, fun haction => ?_⟩
    · exact absurd (SelectionSystem.Action.participant.inj haction).1 hne
    · cases haction
    · cases haction
  | endReactorEventLoop =>
    refine ⟨fun input written haction => ?_, fun haction => ?_, fun haction => ?_⟩
    · cases haction
    · cases haction
    · exact hne (SelectionSystem.Action.endLoop.inj haction)

omit [DecidableEq ι] in
/-- The steps of the microgrid that need no command. -/
theorem Uncommanded.frame {l : SelectionSystem.Label ι}
    {readers : Identity → CommandReader} (h : Uncommanded readers l.action)
    (hserving : (readers x).serving = true) :
    (∀ input written, l.action = .participant x input written → input.isTimeout) ∧
      l.action ≠ .restart x ∧ l.action ≠ .endLoop x := by
  refine ⟨fun input written haction => ?_, fun haction => ?_, fun haction => ?_⟩
  · rw [haction] at h
    cases input with
    | timeout => rfl
    | createPublishers | sendDeviceInfo => exact absurd (h.symm.trans hserving) Bool.false_ne_true
    | startHeartbeats | stopHeartbeats => exact absurd h id
  · rw [haction] at h
    exact h
  · rw [haction] at h
    exact absurd (h.symm.trans hserving) Bool.false_ne_true

omit [DecidableEq ι] [TimePoint τ] in
/-- What the listener does for a command that it takes is still to be done. -/
theorem InEffect.take (h : InEffect x obeyed c) (hcalls : (c.readers x).calls = [])
    (data : List (Sample ControllerCommand)) :
    InEffect x (obeyed ++ (foundCommand x data).toList)
      (c.withReader x ((c.readers x).take x data)) := by
  have hended := h.ended
  simp only [hcalls, List.not_mem_nil, or_false] at hended
  cases hfound : foundCommand x data with
  | none =>
    have hnone : ccOnDataAvailable x data = [] := by rw [ccOnDataAvailable, hfound]
    rw [Option.toList_none, List.append_nil]
    refine h.of_same ?_ ⟨rfl, rfl⟩ rfl
    rw [readers_withReader_self, hcalls]
    exact hnone
  | some t =>
    have hsome : ccOnDataAvailable x data = t.calls := by rw [ccOnDataAvailable, hfound]
    rw [Option.toList_some]
    refine ⟨fun hnil => by simp at hnil, fun t' ht' => ?_, ?_⟩
    · rw [List.getLast?_concat] at ht'
      obtain rfl := Option.some.inj ht'
      rw [readers_withReader_self]
      exact Or.inl hsome
    · rw [readers_withReader_self, grid_withReader, hended, CommandReader.take, hsome,
        List.mem_append, List.mem_singleton]
      cases t <;> simp [ControllerCmdType.calls]

/-- The listener makes one of its calls. -/
theorem InEffect.call (h : InEffect x obeyed c) (hc : c.grid.Consistent) {now : ℤ}
    {made : ControllerCall} {calls : List ControllerCall} {g : SelectionSystem τ ι}
    (hcalls : (c.readers x).calls = made :: calls)
    (hstep : SelectionSystem.Step c.grid (callLabel now x made) g) :
    InEffect x obeyed ({ c with grid := g }.withReader x { c.readers x with calls := calls }) := by
  have hended := h.ended
  rw [hcalls, List.mem_cons] at hended
  rcases List.eq_nil_or_concat' obeyed with rfl | ⟨earlier, t, rfl⟩
  · rw [h.calls rfl] at hcalls
    cases hcalls
  -- The call is the first one for the last command, or the second one of `terminate`.
  suffices hdone : (calls = [] ∨ t = .terminate ∧ calls = [.endReactorEventLoop]) ∧
      ((g.participants x).participant.heartbeat.active = true ↔
        t = .resume ∧ (g.participants x).participant.hbDw = true) ∧
      (g.loopEnded x = true ∨ .endReactorEventLoop ∈ calls ↔ .terminate ∈ earlier ++ [t]) by
    refine ⟨fun hnil => by simp at hnil, fun t' ht' => ?_, ?_⟩
    · rw [List.getLast?_concat] at ht'
      obtain rfl := Option.some.inj ht'
      rw [readers_withReader_self]
      exact Or.inr ⟨hdone.1, hdone.2.1⟩
    · rw [readers_withReader_self]
      exact hdone.2.2
  have heffect := h.heartbeats t List.getLast?_concat
  rw [hcalls] at heffect
  have hsame : callLabel now x made ≠ (⟨now, .endLoop x⟩ : SelectionSystem.Label ι) →
      g.loopEnded x = c.grid.loopEnded x := fun hne => by
    refine hstep.loopEnded_eq ?_ ?_
    · cases made with
      | endReactorEventLoop => exact absurd rfl hne
      | stopHeartbeats | startHeartbeats => exact fun heq => by cases heq
    · cases made <;> exact fun heq => by cases heq
  rcases heffect with hfirst | ⟨hnil | ⟨rfl, hsecond⟩, hactive⟩
  · cases t with
    | stop =>
      obtain ⟨rfl, rfl⟩ := List.cons.inj hfirst
      refine ⟨Or.inl rfl, ?_, ?_⟩
      · simp [SelectionSystem.Step.active_of_stop hc hstep]
      · rw [hsame (by simp [callLabel])]
        simpa using hended
    | resume =>
      obtain ⟨rfl, rfl⟩ := List.cons.inj hfirst
      refine ⟨Or.inl rfl, ?_, ?_⟩
      · simp [SelectionSystem.Step.active_of_start hc hstep]
      · rw [hsame (by simp [callLabel])]
        simpa using hended
    | terminate =>
      obtain ⟨rfl, rfl⟩ := List.cons.inj hfirst
      refine ⟨Or.inr ⟨rfl, rfl⟩, ?_, ?_⟩
      · simp [SelectionSystem.Step.active_of_stop hc hstep]
      · simp
  · cases hnil
  · obtain ⟨rfl, rfl⟩ := List.cons.inj hsecond
    have hframe := hstep.active_eq hc (x := x) (fun _ _ heq => by cases heq)
      fun heq => by cases heq
    refine ⟨Or.inl rfl, ?_, ?_⟩
    · rw [hframe.1, hframe.2]
      exact hactive
    · simp [SelectionSystem.Step.loopEnded_of_endLoop hstep]

end InEffect

/-- What a controller has been told is in effect after every run. -/
theorem IsCommandedRun.inEffect (h : IsCommandedRun tr c) (x : Identity)
    (hserving : (c.readers x).serving = true) : InEffect x (obeyedBy x tr) c := by
  revert hserving
  refine h.traceInvariant (P := fun tr c => (c.readers x).serving = true →
    InEffect x (obeyedBy x tr) c) (fun _ _ _ _ hserving => by cases hserving) ?_
  intro tr c l c' hrun hin hstep hserving
  have hc := hrun.gridRun.consistent
  cases hstep with
  | grid hfree hgrid =>
    obtain ⟨hinput, hrestart, hend⟩ := hfree.frame hserving
    rw [obeyedBy_snoc]
    exact (hin hserving).of_same rfl (hgrid.active_eq hc hinput hrestart)
      (hgrid.loopEnded_eq hend hrestart)
  | deviceInfo | heartbeat =>
    rw [obeyedBy_snoc]
    exact (hin hserving).of_same rfl ⟨rfl, rfl⟩ rfl
  | @restart now y g hgrid =>
    rcases eq_or_ne y x with rfl | hne
    · rw [readers_withReader_self] at hserving
      cases hserving
    · rw [readers_withReader_of_ne _ hne.symm] at hserving
      have hrestart : (SelectionSystem.Action.restart y : SelectionSystem.Action ι) ≠ .restart x :=
        fun heq => hne (SelectionSystem.Action.restart.inj heq)
      rw [obeyedBy_snoc, recordObeyed_restart, if_neg hne]
      refine (hin hserving).of_same ?_ (hgrid.active_eq hc (fun _ _ heq => by cases heq) hrestart)
        (hgrid.loopEnded_eq (fun heq => by cases heq) hrestart)
      rw [readers_withReader_of_ne _ hne.symm]
  | @serve y hnew hloop =>
    rcases eq_or_ne y x with rfl | hne
    · have hobeyed : recordObeyed y (obeyedBy y tr) ⟨c, .serve y, c.withReader y
          { serving := true }⟩ = [] := ((hrun.recorded y).idle hnew).2
      rw [obeyedBy_snoc, hobeyed]
      refine ⟨fun _ => ?_, fun t ht => (by cases ht), ?_⟩
      · rw [readers_withReader_self]
      · simp [hloop]
    · rw [readers_withReader_of_ne _ hne.symm] at hserving
      rw [obeyedBy_snoc]
      refine (hin hserving).of_same ?_ ⟨rfl, rfl⟩ rfl
      rw [readers_withReader_of_ne _ hne.symm]
  | @command input cmd =>
    change ((c.readers x).send cmd).serving = true at hserving
    rw [CommandReader.serving_send] at hserving
    rw [obeyedBy_snoc]
    exact (hin hserving).of_same (CommandReader.calls_send _ cmd) ⟨rfl, rfl⟩ rfl
  | @arrive y | @skip y =>
    have hsame : ∀ r : CommandReader, r.serving = (c.readers y).serving →
        r.calls = (c.readers y).calls → ((c.withReader y r).readers x).serving = true →
          InEffect x (obeyedBy x tr) (c.withReader y r) := fun r hr hcalls hserving => by
      have hold : (c.readers x).serving = true := by
        rcases eq_or_ne y x with rfl | hne
        · rwa [readers_withReader_self, hr] at hserving
        · rwa [readers_withReader_of_ne c hne.symm] at hserving
      exact (hin hold).of_same (forall_readers_withReader
        (Q := fun r => r.calls = (c.readers x).calls) rfl fun heq => heq ▸ hcalls) ⟨rfl, rfl⟩ rfl
    rw [obeyedBy_snoc]
    exact hsame _ rfl rfl hserving
  | @take y data hcalls =>
    rcases eq_or_ne y x with rfl | hne
    · rw [readers_withReader_self] at hserving
      rw [obeyedBy_snoc, recordObeyed_take, if_pos rfl]
      exact (hin hserving).take hcalls data
    · rw [readers_withReader_of_ne _ hne.symm] at hserving
      rw [obeyedBy_snoc, recordObeyed_take, if_neg hne]
      refine (hin hserving).of_same ?_ ⟨rfl, rfl⟩ rfl
      rw [readers_withReader_of_ne _ hne.symm]
  | @call now y made calls g hcalls hgrid =>
    rw [obeyedBy_snoc]
    rcases eq_or_ne y x with rfl | hne
    · rw [readers_withReader_self] at hserving
      exact (hin hserving).call hc hcalls hgrid
    · rw [readers_withReader_of_ne _ hne.symm] at hserving
      obtain ⟨hinput, hrestart, hend⟩ := callLabel_frame (ι := ι) hne now made
      refine (hin hserving).of_same ?_ (hgrid.active_eq hc hinput hrestart)
        (hgrid.loopEnded_eq hend hrestart)
      rw [readers_withReader_of_ne _ hne.symm]

/-- When nothing is on its way to a controller, its last command is in effect. -/
theorem IsCommandedRun.of_settled (h : IsCommandedRun tr c)
    (hserving : (c.readers x).serving = true) (hsettled : (c.readers x).Settled x) :
    (obeyedBy x tr).getLast? = (commandsFor x tr).getLast? ∧
      ∀ t ∈ (commandsFor x tr).getLast?,
        ((c.grid.participants x).participant.heartbeat.active = true ↔
          t = .resume ∧ (c.grid.participants x).participant.hbDw = true) := by
  obtain ⟨hpending, hcalls⟩ := hsettled
  obtain ⟨-, -, -, hlast⟩ := h.recorded x
  rw [hpending, List.append_nil] at hlast
  refine ⟨hlast, fun t ht => ?_⟩
  rcases (h.inEffect x hserving).heartbeats t (hlast ▸ ht) with hstart | ⟨-, hactive⟩
  · rw [hcalls] at hstart
    cases t <;> cases hstart
  · exact hactive

/-- A step that can make a controller send heartbeats again: a new process, or `resume`. -/
def Label.Revives (x : Identity) : Label ι → Prop
  | .restart _ y => y = x
  | .command _ cmd => cmd = ⟨x, .resume⟩
  | _ => False

instance (x : Identity) : (l : Label ι) → Decidable (l.Revives x)
  | .restart _ y => inferInstanceAs (Decidable (y = x))
  | .command _ cmd => inferInstanceAs (Decidable (cmd = ⟨x, .resume⟩))
  | .grid _ | .serve _ | .deviceInfo .. | .heartbeat .. | .arrive _ | .skip _ | .take ..
  | .call .. => isFalse id

/-- The heartbeats of a controller are stopped, and nothing is on its way that starts them. -/
structure Suspended (x : Identity) (c : CommandedMicrogrid τ ι) : Prop where
  inactive : (c.grid.participants x).participant.heartbeat.active = false
  reader : (c.readers x).NoResume x

/-- A controller stays suspended until it is revived. -/
theorem Suspended.step (h : Suspended x c) (hrun : IsCommandedRun tr c)
    (hstep : Step c l c') (hrevives : ¬l.Revives x) : Suspended x c' := by
  have hc := hrun.gridRun.consistent
  have hr := h.reader
  cases hstep with
  | grid hfree hgrid =>
    obtain ⟨hinput, hrestart, -⟩ := hfree.frame hr.serving
    exact ⟨(hgrid.active_eq hc hinput hrestart).1.trans h.inactive, hr⟩
  | deviceInfo | heartbeat => exact ⟨h.inactive, hr⟩
  | @restart now y g hgrid =>
    have hrestart : (SelectionSystem.Action.restart y : SelectionSystem.Action ι) ≠ .restart x :=
      fun heq => hrevives (SelectionSystem.Action.restart.inj heq)
    exact ⟨(hgrid.active_eq hc (fun _ _ heq => by cases heq) hrestart).1.trans h.inactive,
      forall_readers_withReader (Q := (·.NoResume x)) hr fun heq => absurd heq hrevives⟩
  | @serve y hnew =>
    refine ⟨h.inactive, forall_readers_withReader (Q := (·.NoResume x)) hr fun heq => ?_⟩
    rw [heq] at hnew
    exact absurd (hnew.symm.trans hr.serving) Bool.false_ne_true
  | command => exact ⟨h.inactive, hr.send hrevives⟩
  | arrive hsent =>
    refine ⟨h.inactive, forall_readers_withReader (Q := (·.NoResume x)) hr ?_⟩
    rintro rfl
    exact hr.arrive hsent
  | skip hsent hlater =>
    refine ⟨h.inactive, forall_readers_withReader (Q := (·.NoResume x)) hr ?_⟩
    rintro rfl
    exact hr.skip hsent hlater
  | take hcalls htakes =>
    refine ⟨h.inactive, forall_readers_withReader (Q := (·.NoResume x)) hr ?_⟩
    rintro rfl
    exact hr.take (hrun.recorded _).keyed htakes
  | @call now y made calls g hcalls hgrid =>
    rcases eq_or_ne y x with rfl | hne
    · refine ⟨?_, forall_readers_withReader (Q := (·.NoResume y)) hr fun _ => ?_⟩
      · cases made with
        | startHeartbeats => exact absurd (hcalls ▸ List.mem_cons_self) hr.calls
        | stopHeartbeats => exact SelectionSystem.Step.active_of_stop hc hgrid
        | endReactorEventLoop =>
          exact (hgrid.active_eq hc (x := y) (fun _ _ heq => by cases heq)
            fun heq => by cases heq).1.trans h.inactive
      · exact ⟨hr.serving, hr.pending, fun hmem =>
          hr.calls (hcalls ▸ List.mem_cons_of_mem _ hmem)⟩
    · obtain ⟨hinput, hrestart, -⟩ := callLabel_frame (ι := ι) hne now made
      exact ⟨(hgrid.active_eq hc hinput hrestart).1.trans h.inactive,
        forall_readers_withReader (Q := (·.NoResume x)) hr fun heq => absurd heq hne⟩

/-- A controller is suspended when its last command is in effect and does not start its
heartbeats. -/
theorem IsCommandedRun.suspended (h : IsCommandedRun tr c)
    (hserving : (c.readers x).serving = true) (hsettled : (c.readers x).Settled x)
    (hlast : ∃ t ∈ (commandsFor x tr).getLast?, t ≠ .resume) : Suspended x c := by
  obtain ⟨t, ht, hne⟩ := hlast
  have hactive := (h.of_settled hserving hsettled).2 t ht
  refine ⟨Bool.eq_false_iff.mpr fun hon => hne (hactive.mp hon).1, hserving, ?_, ?_⟩
  · rw [hsettled.1]
    exact List.not_mem_nil
  · rw [hsettled.2]
    exact List.not_mem_nil

/-- In a continuation in which nothing revives a suspended controller, it sends no heartbeat. -/
theorem IsCommandedRun.silent_of_suspended {before after : Trace τ ι} {m : CommandedMicrogrid τ ι}
    (hbefore : IsCommandedRun before m) (hafter : IsRun Step m after c)
    (hsuspended : Suspended x m) (hrevives : ∀ t ∈ after, ¬t.label.Revives x) :
    ∀ u ∈ gridComponent.trace after, u.label.sender ≠ some x := by
  have hstays := hafter.forall_mem_of_keep
    (P := fun c => (∃ tr, IsCommandedRun tr c) ∧ Suspended x c) (C := fun _ l => ¬l.Revives x)
    hrevives ⟨⟨before, hbefore⟩, hsuspended⟩ fun c l c' ⟨⟨tr, hrun⟩, hc⟩ hl hstep =>
      ⟨⟨_, hrun.snoc hstep⟩, hc.step hrun hstep hl⟩
  refine Component.forall_mem_trace fun t ht k hk hsender => ?_
  obtain ⟨⟨⟨tr, hrun⟩, hc⟩, -⟩ := hstays t ht
  obtain ⟨-, -, hstep⟩ := hafter.of_mem ht
  have hsends := (grid_follows.moves _ _ _ k hstep hk).sends_of_sender
    hrun.gridRun.consistent hsender
  exact absurd (hc.inactive.symm.trans hsends.1) Bool.false_ne_true

/-- **A suspended controller is given up.** When the last command that an operator has written for a
controller is not `resume` and nothing of it is on its way any more, then as long as no `resume` is
written and no new process comes, the controller sends no heartbeat. A device whose timers are in
time, and to which the last heartbeats of the controller come in time or not at all, does not have
it any more nine seconds, the delay and two lags later. -/
theorem drops_suspended (lag delay : Duration) {before after : Trace ExactTime ι}
    {m c : CommandedMicrogrid ExactTime ι} {i : ι} (hbefore : IsCommandedRun before m)
    (hafter : IsRun Step m after c) (hlag : 0 ≤ lag) (hdelay : 0 ≤ delay) (hx : x ≠ "")
    (hserving : (m.readers x).serving = true) (hsettled : (m.readers x).Settled x)
    (hlast : ∃ t ∈ (commandsFor x before).getLast?, t ≠ .resume)
    (hrevives : ∀ t ∈ after, ¬t.label.Revives x)
    (hpunctual : ∀ t ∈ before ++ after, ∀ k ∈ t.label.gridLabel,
      (t.source.grid.devices i).selector.Punctual lag k.now)
    (harrives : ∀ t ∈ after, ∀ k ∈ t.label.gridLabel,
      SelectionSystem.Arrives delay i x t.source.grid k) :
    ∀ t ∈ after, ∀ k ∈ t.label.gridLabel, k.sender ≠ some x ∧
      (m.grid.clock + delay + Sec 9 + 2 * lag < k.now →
        (t.source.grid.devices i).selector.selected ≠ x) := by
  have hsilent := hbefore.silent_of_suspended hafter
    (hbefore.suspended hserving hsettled hlast) hrevives
  intro t ht k hk
  have hmem := gridComponent.mem_trace ht hk
  refine ⟨hsilent _ hmem, hbefore.gridRun.selected_ne_of_silent
    (hafter.component (grid_follows)) hlag hdelay hx hsilent ?_ ?_ hmem⟩
  · rw [← Component.trace_append]
    exact Component.forall_mem_trace fun u hu k hk => hpunctual u hu k hk
  · exact Component.forall_mem_trace fun u hu k hk => harrives u hu k hk

/-- An operator suspends the controller of a device. -/
theorem drops_suspended_of_one : ∃ (before after : Trace ExactTime Unit)
      (m c : CommandedMicrogrid ExactTime Unit),
    IsCommandedRun before m ∧ IsRun Step m after c ∧ m.grid.clock = Sec 3 ∧
      (m.grid.devices ()).selector.selected = "mc1" ∧
      (∃ t ∈ after, ∃ k ∈ t.label.gridLabel, k.now = Sec 15) ∧
      ∀ t ∈ after, ∀ k ∈ t.label.gridLabel, k.sender ≠ some "mc1" ∧
        (m.grid.clock + 0 + Sec 9 + 2 * 0 < k.now →
          (t.source.grid.devices ()).selector.selected ≠ "mc1") :=
  have hbefore := isCommandedRun_of_follow (fun _ : Unit => "dev") {} 0 "cli"
    ((SelectionSystem.Label.joins 0 (SelectionSystem.ranked (fun _ => 1) "mc1") [()] ++
        SelectionSystem.Label.beats 0 "mc1" 0 [()] ++
        SelectionSystem.Label.beats (Sec 2) "mc1" 1 [()]).map .grid ++
      [.grid ⟨Sec 3, .timeout () .newController []⟩, .serve "mc1",
        .deviceInfo 0 (.valid (SelectionSystem.ranked (fun _ => 1) "mc1")),
        .command "suspend mc1" ⟨"mc1", .stop⟩, .arrive "mc1",
        .take "mc1" [⟨⟨"mc1", .stop⟩, true⟩], .call (Sec 3) "mc1" .stopHeartbeats]) rfl
  have hafter := isRun_of_follow step_of_next?
    [.grid ⟨Sec 5, .timeout () .missedHeartbeat []⟩, .command "term mc1" ⟨"mc1", .terminate⟩,
      .arrive "mc1", .grid ⟨Sec 11, .timeout () .lostController []⟩,
      .grid ⟨Sec 15, .learn () (SelectionSystem.ranked (fun _ => 1) "mc1") []⟩] rfl
  ⟨_, _, _, _, hbefore, hafter, by decide, by decide, by decide,
    drops_suspended 0 0 hbefore hafter (by decide) (by decide) (by decide) (by decide) (by decide)
      (by decide) (by decide) (by decide) (by decide)⟩

end Runs

end CommandedMicrogrid

end TacticalMicrogrid
