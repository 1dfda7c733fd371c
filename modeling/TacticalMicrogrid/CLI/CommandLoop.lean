import TacticalMicrogrid.CLI.StartStopRequests
import TacticalMicrogrid.Controller.ControllerCommands
import TacticalMicrogrid.Library.Components
import TacticalMicrogrid.Library.LineInput

/-!
# The command loop

`CLIClient::run_cli` reads a line from the standard input, runs the command on it, and looks again
whether it shall stop. `connect-pd` reads the answers to its questions from the same input, into a
string of its own. The loop does not ask whether the input has ended: then `std::getline` leaves the
line of the loop as it is, so that the last command is run again in every round, and it leaves the
answer empty, which is a yes. DeviceInfos and heartbeats arrive, and a signal may come, at any
moment.

## Main definitions

* `CLIOperation`, `operationOf`: the command that a line asks for.
* `CommandLoop`, `CommandLoop.Action`, `CommandLoop.Step`, `CommandLoop.IsLoopRun`.
* `CommandLoop.commands`, `CommandLoop.linesRead`: the lines that are run as commands, and the lines
  that are read.
* `CommandLoop.sessionComponent`: the client as a component of the loop, with `CLISession.Step` as
  its steps.

## Main results

* `CommandLoop.IsLoopRun.sessionRun`: the client goes through a session.
* `CommandLoop.commands_of_run`: which lines are run.
* `CommandLoop.outputs_of_run`: what is written has been asked for.
-/

namespace TacticalMicrogrid

open TransitionSystem

/-! ### Lines and operations -/

/-- The branches of `CLIClient::run_cli`. -/
inductive CLIOperation
  | listMc
  | listPd
  | connectPd
  | startStop (opt : OperatorPriorityType)
  | controllerCmd (type : ControllerCmdType)
  | displayCommands
  | unknown
deriving DecidableEq

/-- The branch of `CLIClient::run_cli` for a line. -/
@[irreducible] def operationOf (line : String) : CLIOperation :=
  match CLIClient.tolower (CLIClient.parse line).1 with
  | "list-mc" => .listMc
  | "list-pd" => .listPd
  | "connect-pd" => .connectPd
  | "start" => .startStop .alwaysOperate
  | "stop" => .startStop .neverOperate
  | "suspend" => .controllerCmd .stop
  | "resume" => .controllerCmd .resume
  | "term" => .controllerCmd .terminate
  | "show" => .displayCommands
  | _ => .unknown

/-! ### The loop -/

/-- What a command meets: the clock, the orders of the hash maps, and what DDS answers. -/
structure CommandEnv where
  col : CLIClient.Collection
  now : ℤ
  order : List Identity
  devices : List ConnectedDevice

/-- Where the thread of the loop is: before it looks whether it shall stop, before it reads a
command, in the questions of `connect-pd`, or at its end. -/
inductive LoopPoint
  | check
  | reading
  | asking
  | finished
deriving DecidableEq

/-- The thread of `CLIClient::run_cli` with the client. `rejected` are the lines that were no answer
to the open question of `connect-pd`. -/
structure CommandLoop (τ : Type) where
  session : CLISession τ
  input : LineInput
  line : String := ""
  stopCli : Bool := false
  point : LoopPoint := .check
  rejected : List String := []

namespace CommandLoop

/-- What the client writes. -/
inductive Output
  | devicesRequest (req : PowerDevicesRequest)
  | intent (oir : OperatorIntentRequest)
  | controllerCommand (cmd : ControllerCommand)
  | topology (pt : PowerTopology)

/-- A DeviceInfo or a heartbeat arrives, a signal comes, or the loop goes on: it looks whether it
shall stop, runs a command, comes to the next line or the next pair of `connect-pd`, or ends
`connect-pd`. -/
inductive Action
  | sample (e : CLISession.Event)
  | handleSignal
  | check
  | command (env : CommandEnv)
  | ask
  | endConnectPd (now : ℤ) (writeOk : Identity → Bool) (order : List Identity)
      (connections : List PowerConnection)

/-- The event of the session is a sample. -/
def IsSample : CLISession.Event → Prop
  | .deviceInfo _ _ | .heartbeat _ _ => True
  | _ => False

instance : DecidablePred IsSample
  | .deviceInfo _ _ | .heartbeat _ _ => isTrue trivial
  | .listPd _ | .startStop _ _ _ _ | .connectPd _ _ _ | .answer _ | .endConnectPd => isFalse id

/-- What a command does to the client. -/
def commandEvent (env : CommandEnv) (line : String) : Option CLISession.Event :=
  match operationOf line with
  | .listPd => some (.listPd env.col)
  | .startStop _ => some (.startStop line env.col env.now env.order)
  | .connectPd => some (.connectPd env.col env.order env.devices)
  | .listMc | .controllerCmd _ | .displayCommands | .unknown => none

variable {τ : Type} [TimePoint τ] (w : CommandLoop τ)

/-- The requests for power devices that a command writes. -/
def devicesRequests (env : CommandEnv) (line : String) : List PowerDevicesRequest :=
  match operationOf line with
  | .listPd => w.session.client.collectRequests env.col
  | .startStop _ =>
    if (CLIClient.parse line).2.isSome then w.session.client.collectRequestsIfEmpty env.col else []
  | .connectPd =>
    if w.session.client.powerDevices.keys = [] then
      w.session.client.collectRequestsIfEmpty env.col
    else []
  | .listMc | .controllerCmd _ | .displayCommands | .unknown => []

/-- What a command writes. -/
def commandOutputs (env : CommandEnv) (line : String) : List Output :=
  (w.devicesRequests env line).map .devicesRequest ++
  match operationOf line with
  | .startStop opt => (w.session.client.sendStartStopRequest (CLIClient.parse line) opt env.col
      env.now env.order).2.map .intent
  | .controllerCmd type =>
    match w.session.client.sendControllerCmd (CLIClient.parse line) type with
    | .ok cmd => [.controllerCommand cmd]
    | .error _ => []
  | .listMc | .listPd | .connectPd | .displayCommands | .unknown => []

omit [TimePoint τ] in
/-- The next line of the loop, with what is left of the input. -/
def nextLine : LineInput × String := w.input.getline w.line

omit [TimePoint τ] in
/-- The next line of a question, with what is left of the input. -/
def nextAnswer : LineInput × String := w.input.getline ""

omit [TimePoint τ] in
/-- The lines that the operator has typed for the open question, with the next one. -/
def answerLines : List String := w.rejected ++ [w.nextAnswer.2]

omit [TimePoint τ] in
/-- The next pair of `connect-pd`. -/
def nextPair : Option (ConnectedDevice × ConnectedDevice) := w.session.asking.bind List.head?

omit [TimePoint τ] in
/-- The next pair of `connect-pd` may be connected, so the operator is asked. -/
def Asks : Prop := ∃ p ∈ w.nextPair, w.session.client.canConnect p.1 p.2 = true

omit [TimePoint τ] in
instance : Decidable w.Asks := inferInstanceAs (Decidable (∃ p ∈ w.nextPair, _))

omit [TimePoint τ] in
/-- The lines for the open question end with an answer. -/
def IsAnswered : Prop := (CLIClient.readAnswer w.answerLines).isSome = true

omit [TimePoint τ] in
instance : Decidable w.IsAnswered := inferInstanceAs (Decidable (_ = true))

omit [TimePoint τ] in
/-- What the client goes through. A pair that may not be connected is passed over. -/
def event : Action → Option CLISession.Event
  | .sample e => some e
  | .command env => commandEvent env w.nextLine.2
  | .ask =>
    if w.Asks then if w.IsAnswered then some (.answer w.answerLines) else none
    else some (.answer [])
  | .endConnectPd _ _ _ _ => some .endConnectPd
  | .handleSignal | .check => none

/-- What the client writes in a step. -/
def outputs : Action → List Output
  | .command env => w.commandOutputs env w.nextLine.2
  | .endConnectPd now writeOk order connections =>
    (w.session.client.forwardTopology now writeOk connections order).toList.map .topology
  | .sample _ | .handleSignal | .check | .ask => []

/-- When a step can be taken. -/
def Enabled : Action → Prop
  | .sample e => IsSample e
  | .handleSignal => True
  | .check => w.point = .check
  | .command env => w.point = .reading ∧
      ∀ e ∈ commandEvent env w.nextLine.2, w.session.Enabled e
  | .ask => w.point = .asking ∧ w.nextPair.isSome
  | .endConnectPd _ _ order connections => w.point = .asking ∧ w.session.Enabled .endConnectPd ∧
      order.Perm w.session.client.controllers.keys ∧
      w.session.client.ListsConnections connections

instance : (a : Action) → Decidable (w.Enabled a)
  | .sample e => inferInstanceAs (Decidable (IsSample e))
  | .handleSignal => isTrue trivial
  | .check => inferInstanceAs (Decidable (_ = _))
  | .command _ => inferInstanceAs (Decidable (_ ∧ ∀ e ∈ commandEvent _ _, _))
  | .ask => inferInstanceAs (Decidable (_ ∧ _))
  | .endConnectPd _ _ _ _ => inferInstanceAs (Decidable (_ ∧ _ ∧ _ ∧ _))

/-- The session after a step. -/
def sessionAfter (a : Action) : CLISession τ :=
  match w.event a with
  | some e => w.session.after e
  | none => w.session

/-- The loop after a step. -/
def after (a : Action) : CommandLoop τ :=
  let w' : CommandLoop τ := { w with session := w.sessionAfter a }
  match a with
  | .sample _ => w'
  | .handleSignal => { w' with stopCli := true }
  | .check => { w' with point := if w.stopCli then .finished else .reading }
  | .command _ =>
    { w' with
      input := w.nextLine.1
      line := w.nextLine.2
      point := if operationOf w.nextLine.2 = .connectPd then .asking else .check }
  | .ask =>
    if w.Asks then
      { w' with
        input := w.nextAnswer.1
        rejected := if w.IsAnswered then [] else w.answerLines }
    else w'
  | .endConnectPd _ _ _ _ => { w' with point := .check }

/-- A step, what the client goes through in it, and what it writes. -/
structure Label where
  action : Action
  event : Option CLISession.Event
  outputs : List Output

/-- The label of a step. -/
def label (a : Action) : Label := ⟨a, w.event a, w.outputs a⟩

/-- The steps. -/
def Step (l : Label) (w' : CommandLoop τ) : Prop :=
  ∃ a, w.Enabled a ∧ l = w.label a ∧ w' = w.after a

/-- The step for an action, if it can be taken. -/
def next? (a : Action) : Option (Label × CommandLoop τ) :=
  if w.Enabled a then some (w.label a, w.after a) else none

theorem step_of_next? (a : Action) (l : Label) (w' : CommandLoop τ)
    (h : w.next? a = some (l, w')) : w.Step l w' := by
  obtain ⟨henabled, rfl, rfl⟩ := of_guard_eq_some h
  exact ⟨a, henabled, rfl, rfl⟩

omit [TimePoint τ] in
/-- A new client that will read the text. -/
def init (id : Identity) (text : String) : CommandLoop τ where
  session := ⟨{ deviceId := id }, none⟩
  input := { rest := text.toList }

/-- The transitions of a run. -/
abbrev Trace (τ : Type) := List (Transition (CommandLoop τ) Label)

/-- `tr` is a run of a new client that reads the text, which ends in `w`. -/
def IsLoopRun (text : String) (tr : Trace τ) (w : CommandLoop τ) : Prop :=
  ∃ id, IsRun Step (init id text) tr w

/-- A controller comes, which reports a lamp, and the loop runs two commands. -/
def twoCommands : List Action :=
  let env : CommandEnv := ⟨⟨0, ["mc"], fun _ => .taken [.valid ⟨"mc",
    [⟨{ deviceId := "lamp", role := .load }, .operational, none⟩]⟩]⟩, 0, ["mc"], []⟩
  [.sample (.deviceInfo 0 (.valid { deviceId := "mc", role := .microgridController })), .check,
    .command env, .check, .command env]

/-! ### What has been read and run -/

variable (τ) in
/-- The client as a component of the loop. -/
def sessionComponent : Component (CommandLoop τ) Label (CLISession τ) CLISession.Event where
  state w := w.session
  label := Label.event

section Histories

omit [TimePoint τ]

/-- The line that a step runs as a command. -/
def runLine (t : Transition (CommandLoop τ) Label) : Option String :=
  match t.label.action with
  | .command _ => some t.source.nextLine.2
  | _ => none

/-- The lines that have been run as commands. -/
def commands (tr : Trace τ) : List String := tr.filterMap runLine

/-- The lines that have been read and run as commands. -/
def commandsRead (tr : Trace τ) : List String :=
  (tr.filter (·.source.input.good)).filterMap runLine

/-- The line that a step comes to. -/
def nextLine? (t : Transition (CommandLoop τ) Label) : Option String :=
  match t.label.action with
  | .command _ => some t.source.nextLine.2
  | .ask => if t.source.Asks then some t.source.nextAnswer.2 else none
  | _ => none

/-- The lines that have been read, as commands or as answers. -/
def linesRead (tr : Trace τ) : List String :=
  (tr.filter (·.source.input.good)).filterMap nextLine?

end Histories

section Runs

variable {w w' : CommandLoop τ} {l : Label} {tr : Trace τ} {text : String}

omit [TimePoint τ] in
theorem commands_snoc (tr : Trace τ) (t : Transition (CommandLoop τ) Label) :
    commands (tr ++ [t]) = commands tr ++ (runLine t).toList := by
  rw [commands, List.filterMap_append]
  cases ht : runLine t <;> simp [ht, commands]

omit [TimePoint τ] in
theorem commandsRead_snoc (tr : Trace τ) (t : Transition (CommandLoop τ) Label) :
    commandsRead (tr ++ [t]) =
      commandsRead tr ++ if t.source.input.good then (runLine t).toList else [] := by
  rw [commandsRead, List.filter_append, List.filterMap_append]
  cases hgood : t.source.input.good <;> cases ht : runLine t <;> simp [hgood, ht, commandsRead]

omit [TimePoint τ] in
theorem linesRead_snoc (tr : Trace τ) (t : Transition (CommandLoop τ) Label) :
    linesRead (tr ++ [t]) =
      linesRead tr ++ if t.source.input.good then (nextLine? t).toList else [] := by
  rw [linesRead, List.filter_append, List.filterMap_append]
  cases hgood : t.source.input.good <;> cases ht : nextLine? t <;> simp [hgood, ht, linesRead]

/-! ### The session -/

theorem session_after (w : CommandLoop τ) (a : Action) :
    (w.after a).session = w.sessionAfter a := by
  cases a with
  | ask =>
    rw [after]
    split_ifs <;> rfl
  | sample | handleSignal | check | command | endConnectPd => rw [after]

/-- What the client goes through in a step that can be taken can happen to it. -/
theorem Enabled.session {a : Action} (h : w.Enabled a) : ∀ e ∈ w.event a, w.session.Enabled e := by
  intro e he
  cases a with
  | sample e' =>
    obtain rfl := Option.some.inj he
    cases e' with
    | deviceInfo | heartbeat => exact trivial
    | listPd | startStop | connectPd | answer | endConnectPd => exact h.elim
  | handleSignal | check => cases he
  | command env => exact h.2 e he
  | ask =>
    obtain ⟨p, hp⟩ := Option.isSome_iff_exists.mp h.2
    obtain ⟨pairs, hpairs, hhead⟩ := Option.bind_eq_some_iff.mp hp
    rw [event] at he
    split_ifs at he with hasks hanswered
    · obtain rfl := Option.some.inj he
      exact ⟨pairs, hpairs, p, hhead, fun _ => hanswered⟩
    · cases he
    · obtain rfl := Option.some.inj he
      exact ⟨pairs, hpairs, p, hhead, fun hcan => absurd ⟨p, hp, hcan⟩ hasks⟩
  | endConnectPd now writeOk order connections =>
    obtain rfl := Option.some.inj he
    exact h.2.1

/-- The client takes a step of its session, or none. -/
theorem session_follows : (sessionComponent τ).Follows Step CLISession.Step where
  moves w l w' e hstep he := by
    obtain ⟨a, henabled, rfl, rfl⟩ := hstep
    have hevent : w.event a = some e := he
    refine ⟨henabled.session e hevent, ?_⟩
    change (w.after a).session = w.session.after e
    rw [session_after, sessionAfter, hevent]
  stays w l w' hstep hnone := by
    obtain ⟨a, -, rfl, rfl⟩ := hstep
    have hevent : w.event a = none := hnone
    change (w.after a).session = w.session
    rw [session_after, sessionAfter, hevent]

theorem IsLoopRun.sessionRun (h : IsLoopRun text tr w) :
    IsSession ((sessionComponent τ).trace tr) w.session := by
  obtain ⟨id, hrun⟩ := h
  exact ⟨id, hrun.component session_follows⟩

/-! ### Lines -/

/-- Where a step leaves the input and the lines of the loop. -/
theorem Step.input_eq (hstep : w.Step l w') :
    (∃ env, l.action = .command env ∧ w'.input = w.nextLine.1 ∧ w'.line = w.nextLine.2 ∧
        w.point = .reading ∧ w'.rejected = w.rejected ∧
          w'.point = if operationOf w'.line = .connectPd then .asking else .check) ∨
      (l.action = .ask ∧ w.Asks ∧ w'.input = w.nextAnswer.1 ∧ w'.line = w.line ∧
        w.point = .asking ∧ w'.point = .asking ∧
        w'.rejected = if w.IsAnswered then [] else w.answerLines) ∨
      ((∀ env, l.action ≠ .command env) ∧ (l.action = .ask → ¬w.Asks) ∧ w'.input = w.input ∧
        w'.line = w.line ∧ w'.rejected = w.rejected ∧
        (w'.point = .asking → w.point = .asking)) := by
  obtain ⟨a, henabled, rfl, rfl⟩ := hstep
  cases a with
  | command env =>
    rw [after]
    exact Or.inl ⟨env, rfl, rfl, rfl, henabled.1, rfl, rfl⟩
  | ask =>
    rw [after]
    by_cases hasks : w.Asks
    · rw [if_pos hasks]
      exact Or.inr (Or.inl ⟨rfl, hasks, rfl, rfl, henabled.1, henabled.1, rfl⟩)
    · rw [if_neg hasks]
      exact Or.inr (Or.inr ⟨nofun, fun _ => hasks, rfl, rfl, rfl, id⟩)
  | check =>
    rw [after]
    refine Or.inr (Or.inr ⟨nofun, nofun, rfl, rfl, rfl, fun hasking => ?_⟩)
    simp only at hasking
    split_ifs at hasking
  | sample | handleSignal =>
    rw [after]
    exact Or.inr (Or.inr ⟨nofun, nofun, rfl, rfl, rfl, id⟩)
  | endConnectPd =>
    rw [after]
    exact Or.inr (Or.inr ⟨nofun, nofun, rfl, rfl, rfl, nofun⟩)

/-- The line that a step comes to is the next one of the input, if there is one. -/
theorem Step.lines_eq (hstep : w.Step l w') : w.input.lines =
    (if w.input.good then (nextLine? ⟨w, l, w'⟩).toList else []) ++ w'.input.lines := by
  have hread : ∀ line, (if w.input.good then [(w.input.getline line).2] else []) ++
      (w.input.getline line).1.lines = w.input.lines := by
    intro line
    cases hgood : w.input.good with
    | true =>
      rw [LineInput.lines_getline line hgood]
      rfl
    | false =>
      rw [LineInput.getline_of_not_good line hgood]
      rfl
  rcases hstep.input_eq with ⟨env, haction, hinput, -⟩ | ⟨haction, hasks, hinput, -⟩ |
    ⟨hcommand, hask, hinput, -⟩
  · rw [hinput, nextLine?, haction]
    exact (hread w.line).symm
  · rw [hinput, nextLine?, haction]
    simp only [if_pos hasks]
    exact (hread "").symm
  · have hnone : nextLine? ⟨w, l, w'⟩ = none := by
      rw [nextLine?]
      split
      · exact absurd ‹_› (hcommand _)
      · exact if_neg (hask ‹_›)
      · rfl
    rw [hnone, hinput]
    simp

/-! ### Commands and answers -/

theorem readAnswer_append {lines more : List String} (h : CLIClient.readAnswer lines = none) :
    CLIClient.readAnswer (lines ++ more) = CLIClient.readAnswer more := by
  induction lines with
  | nil => rfl
  | cons line lines ih =>
    rw [CLIClient.readAnswer] at h
    rw [List.cons_append, CLIClient.readAnswer]
    split_ifs at h ⊢
    exact ih h

/-- What has been read and run so far. Once there has been a command, the line of the loop is the
last one that has been read. -/
structure Reads (text : String) (tr : Trace τ) (w : CommandLoop τ) : Prop where
  lines : linesRead tr ++ w.input.lines = (text.toList.splitOn '\n').map String.ofList
  commands : ∃ n, commands tr = commandsRead tr ++ List.replicate n w.line ∧
    (n ≠ 0 → w.input.good = false)
  last : (commandsRead tr).getLast? = some w.line ∨
    CommandLoop.commands tr = [] ∧ w.input.good = true ∧ w.point ≠ .asking
  rejected : CLIClient.readAnswer w.rejected = none

theorem Reads.step (h : Reads text tr w) (hstep : w.Step l w') :
    Reads text (tr ++ [⟨w, l, w'⟩]) w' := by
  have hlines : linesRead (tr ++ [⟨w, l, w'⟩]) ++ w'.input.lines =
      (text.toList.splitOn '\n').map String.ofList := by
    rw [linesRead_snoc, List.append_assoc, ← hstep.lines_eq, h.lines]
  obtain ⟨n, hcommands, hn⟩ := h.commands
  rcases hstep.input_eq with ⟨env, haction, hinput, hline, hpoint, hrejected, -⟩ |
    ⟨haction, hasks, hinput, hline, hpoint, -, hrejected⟩ |
    ⟨haction, -, hinput, hline, hrejected, hasking⟩
  · have hrun : runLine ⟨w, l, w'⟩ = some w'.line := by rw [runLine, haction, hline]
    cases hgood : w.input.good with
    | true =>
      obtain rfl : n = 0 := by
        by_contra hne
        rw [hn hne] at hgood
        cases hgood
      have hread : commandsRead (tr ++ [⟨w, l, w'⟩]) = commandsRead tr ++ [w'.line] := by
        rw [commandsRead_snoc, hrun, hgood]
        rfl
      refine ⟨hlines, ⟨0, ?_, fun hne => absurd rfl hne⟩, Or.inl ?_, hrejected ▸ h.rejected⟩
      · rw [commands_snoc, hcommands, hread, hrun]
        simp
      · rw [hread, List.getLast?_concat]
    | false =>
      have hsame := LineInput.getline_of_not_good w.line hgood
      rw [nextLine, hsame] at hinput hline
      have hread : commandsRead (tr ++ [⟨w, l, w'⟩]) = commandsRead tr := by
        rw [commandsRead_snoc, hgood]
        simp
      refine ⟨hlines, ⟨n + 1, ?_, fun _ => hinput ▸ hgood⟩, Or.inl ?_, hrejected ▸ h.rejected⟩
      · rw [commands_snoc, hcommands, hread, hrun, hline, List.replicate_succ', List.append_assoc]
        rfl
      · rcases h.last with hlast | ⟨-, hgood', -⟩
        · rw [hread, hlast, hline]
        · rw [hgood] at hgood'
          cases hgood'
  all_goals
    have hrun : runLine ⟨w, l, w'⟩ = none := by
      rw [runLine]
      split
      · simp_all
      · rfl
    have hread : commandsRead (tr ++ [⟨w, l, w'⟩]) = commandsRead tr := by
      rw [commandsRead_snoc, hrun]
      simp
    have hcommands' : CommandLoop.commands (tr ++ [⟨w, l, w'⟩]) = CommandLoop.commands tr := by
      rw [commands_snoc, hrun]
      simp
  · have hkept : w.input.good = false → w'.input.good = false := fun hgood => by
      rw [hinput, nextAnswer, LineInput.getline_of_not_good "" hgood, hgood]
    refine ⟨hlines, ⟨n, by rw [hcommands', hcommands, hread, hline], fun hne => hkept (hn hne)⟩, ?_,
      ?_⟩
    · rw [hread, hline]
      exact Or.inl (h.last.resolve_right fun hnone => hnone.2.2 hpoint)
    · rw [hrejected]
      split_ifs with hanswered
      · rfl
      · exact Option.not_isSome_iff_eq_none.mp hanswered
  · refine ⟨hlines, ⟨n, by rw [hcommands', hcommands, hread, hline], fun hne => hinput ▸ hn hne⟩,
      ?_, hrejected ▸ h.rejected⟩
    rw [hread, hline, hcommands', hinput]
    exact h.last.imp_right fun hnone => ⟨hnone.1, hnone.2.1, fun hask => hnone.2.2 (hasking hask)⟩

theorem reads_of_run (h : IsLoopRun text tr w) : Reads text tr w := by
  obtain ⟨id, hrun⟩ := h
  refine hrun.traceInvariant (P := Reads text) ?_ fun _ _ _ _ _ ih hstep => ih.step hstep
  exact ⟨rfl, ⟨0, rfl, fun hne => absurd rfl hne⟩, Or.inr ⟨rfl, rfl, nofun⟩, rfl⟩

omit [TimePoint τ] in
/-- After the end of the input a question is answered with yes. -/
theorem Reads.accepts (h : Reads text tr w) (hend : w.input.good = false) (hasks : w.Asks) :
    ∃ lines, w.event .ask = some (.answer lines) ∧ CLIClient.readAnswer lines = some true := by
  have hanswer : CLIClient.readAnswer w.answerLines = some true := by
    rw [answerLines, readAnswer_append h.rejected, nextAnswer,
      LineInput.getline_of_not_good "" hend]
    rfl
  refine ⟨w.answerLines, ?_, hanswer⟩
  rw [event, if_pos hasks, if_pos (by rw [IsAnswered, hanswer]; rfl)]

/-- **Commands.** Over every interleaving of the loop with what arrives: each line of the text is
read once, in their order. The lines that are run as commands are those that are read as commands,
in their order, and, once the input has ended, the last one of them again and again. A question of
`connect-pd` that is asked after the end is answered with yes. -/
theorem commands_of_run (h : IsLoopRun text tr w) :
    linesRead tr ++ w.input.lines = (text.toList.splitOn '\n').map String.ofList ∧
      (∃ n, commands tr = commandsRead tr ++ List.replicate n w.line ∧
        (n ≠ 0 → w.input.good = false ∧ (commandsRead tr).getLast? = some w.line)) ∧
      ∀ t ∈ tr, t.label.action = .ask → t.source.Asks → t.source.input.good = false →
        ∃ lines, t.label.event = some (.answer lines) ∧
          CLIClient.readAnswer lines = some true := by
  have hreads := reads_of_run h
  obtain ⟨n, hcommands, hn⟩ := hreads.commands
  refine ⟨hreads.lines, ⟨n, hcommands, fun hne => ⟨hn hne, hreads.last.resolve_right ?_⟩⟩, ?_⟩
  · rintro ⟨-, hgood, -⟩
    rw [hn hne] at hgood
    cases hgood
  · intro t ht hask hasks hend
    obtain ⟨id, hrun⟩ := h
    obtain ⟨pre, hbefore, a, -, hlabel, -⟩ := hrun.of_mem ht
    obtain ⟨lines, hevent, hyes⟩ := (reads_of_run ⟨id, hbefore⟩).accepts hend hasks
    rw [hlabel] at hask ⊢
    obtain rfl : a = .ask := hask
    exact ⟨lines, hevent, hyes⟩

/-- A line that nothing follows is run twice. -/
theorem commands_of_start : ∃ (tr : Trace ExactTime) (w : CommandLoop ExactTime),
    IsLoopRun "start lamp" tr w ∧ commands tr = ["start lamp", "start lamp"] ∧
      linesRead tr ++ w.input.lines = ["start lamp"] := by
  obtain ⟨tr, w, hrun, hcommands⟩ := exists_isRun_of_follow step_of_next?
    (P := fun tr (w : CommandLoop ExactTime) => commands tr = ["start lamp", "start lamp"])
    (s := init "cli" "start lamp") twoCommands (by decide +kernel)
  have hloop : IsLoopRun "start lamp" tr w := ⟨"cli", hrun⟩
  exact ⟨tr, w, hloop, hcommands, (commands_of_run hloop).1.trans (by decide)⟩

/-! ### What is written -/

/-- The line is a command that asks the controllers for their devices. -/
def CollectsDevices (line : String) : Prop :=
  match operationOf line with
  | .listPd | .connectPd => True
  | .startStop _ => (CLIClient.parse line).2.isSome
  | .listMc | .controllerCmd _ | .displayCommands | .unknown => False

/-- One of the lines has asked for what is written: `list-pd`, `connect-pd`, or `start` or `stop`
with a device, for a request for power devices; `start` or `stop` for an intent, with the device and
the priority that it names; `suspend`, `resume` or `term` for a command, with the controller; and
`connect-pd` for a topology. -/
def AskedFor (lines : List String) : Output → Prop
  | .devicesRequest _ => ∃ line ∈ lines, CollectsDevices line
  | .intent oir => ∃ line ∈ lines, ∃ opt pdId, operationOf line = .startStop opt ∧
      (CLIClient.parse line).2 = some pdId ∧
        oir.desiredOperatorIntent.devices = [⟨pdId, false, ⟨opt⟩⟩]
  | .controllerCommand cmd => ∃ line ∈ lines, operationOf line = .controllerCmd cmd.type ∧
      (CLIClient.parse line).2 = some cmd.mcId
  | .topology _ => ∃ line ∈ lines, operationOf line = .connectPd

theorem collectsDevices_of_mem {env : CommandEnv} {line : String} {req : PowerDevicesRequest}
    (h : req ∈ w.devicesRequests env line) : CollectsDevices line := by
  rw [devicesRequests] at h
  rw [CollectsDevices]
  cases hop : operationOf line with
  | listPd | connectPd => trivial
  | startStop opt =>
    simp only [hop] at h
    split_ifs at h with harg
    · exact harg
    · cases h
  | listMc | controllerCmd | displayCommands | unknown =>
    rw [hop] at h
    cases h

theorem askedFor_of_mem {env : CommandEnv} {line : String} {o : Output}
    (h : o ∈ w.commandOutputs env line) : AskedFor [line] o := by
  rw [commandOutputs] at h
  rcases List.mem_append.mp h with h | h
  · obtain ⟨req, hreq, rfl⟩ := List.mem_map.mp h
    exact ⟨line, List.mem_cons_self, collectsDevices_of_mem hreq⟩
  split at h
  · next opt hop =>
    obtain ⟨oir, hoir, rfl⟩ := List.mem_map.mp h
    rw [CLIClient.sendStartStopRequest] at hoir
    split at hoir
    · cases hoir
    · next pdId harg =>
      simp only [CLIClient.addressControllers_eq] at hoir
      obtain ⟨mcId, -, rfl⟩ := List.mem_map.mp hoir
      exact ⟨line, List.mem_cons_self, opt, pdId, hop, harg, rfl⟩
  · next type hop =>
    rw [CLIClient.sendControllerCmd] at h
    cases harg : (CLIClient.parse line).2 with
    | none =>
      rw [harg] at h
      cases h
    | some mcId =>
      simp only [harg] at h
      by_cases hknown : mcId ∉ w.session.client.controllers
      · rw [if_pos hknown] at h
        cases h
      · rw [if_neg hknown] at h
        obtain rfl := List.mem_singleton.mp h
        exact ⟨line, List.mem_cons_self, hop, harg⟩
  all_goals cases h

omit [TimePoint τ] in
theorem AskedFor.mono {lines lines' : List String} {o : Output} (h : AskedFor lines o)
    (hsub : lines ⊆ lines') : AskedFor lines' o := by
  cases o with
  | devicesRequest | intent | controllerCommand | topology =>
    obtain ⟨line, hline, hasked⟩ := h
    exact ⟨line, hsub hline, hasked⟩

/-- The loop is in the questions of `connect-pd` only while this is its line. -/
theorem operationOf_of_asking (h : IsLoopRun text tr w) (hasking : w.point = .asking) :
    operationOf w.line = .connectPd := by
  obtain ⟨id, hrun⟩ := h
  refine hrun.invariant (P := fun w => w.point = .asking → operationOf w.line = .connectPd)
    (fun h => by cases h) ?_ hasking
  intro w l w' ih hstep hasking
  rcases hstep.input_eq with ⟨-, -, -, -, -, -, hpoint⟩ | ⟨-, -, -, hline, hpoint, -⟩ |
    ⟨-, -, -, hline, -, hpoint⟩
  · rw [hpoint] at hasking
    split_ifs at hasking with hop
    exact hop
  · rw [hline]
    exact ih hpoint
  · rw [hline]
    exact ih (hpoint hasking)

/-- **Nothing unasked.** Everything that the client writes has been asked for in a line that has
been read as a command: no answer to a question, no sample, and no signal makes it write anything.
-/
theorem outputs_of_run (h : IsLoopRun text tr w) :
    ∀ t ∈ tr, ∀ o ∈ t.label.outputs, AskedFor (commandsRead tr) o := by
  obtain ⟨id, hrun⟩ := h
  refine hrun.traceInvariant (P := fun tr _ => ∀ t ∈ tr, ∀ o ∈ t.label.outputs,
    AskedFor (commandsRead tr) o) (fun t ht => absurd ht List.not_mem_nil) ?_
  intro tr w l w' hrun ih hstep t ht o ho
  have hsub : commandsRead tr ⊆ commandsRead (tr ++ [⟨w, l, w'⟩]) := by
    rw [commandsRead_snoc]
    exact List.subset_append_left _ _
  rcases List.mem_append.mp ht with ht | ht
  · exact (ih t ht o ho).mono hsub
  · obtain rfl := List.mem_singleton.mp ht
    have hrun' : IsLoopRun text tr w := ⟨id, hrun⟩
    have hreads := reads_of_run hrun'
    have hreads' := hreads.step hstep
    obtain ⟨a, henabled, rfl, rfl⟩ := hstep
    cases a with
    | command env =>
      have hlast := hreads'.last.resolve_right fun hnone => by
        rw [commands_snoc] at hnone
        exact absurd hnone.1 (by simp [runLine, label])
      refine (askedFor_of_mem ho).mono fun line hline => ?_
      obtain rfl := List.mem_singleton.mp hline
      exact List.mem_of_getLast? hlast
    | endConnectPd now writeOk order connections =>
      obtain ⟨pt, -, rfl⟩ := List.mem_map.mp ho
      have hlast := hreads.last.resolve_right fun hnone => hnone.2.2 henabled.1
      exact ⟨w.line, hsub (List.mem_of_getLast? hlast), operationOf_of_asking hrun' henabled.1⟩
    | sample | handleSignal | check | ask => cases ho

/-- `start` makes the client ask for the devices and write an intent, and both have been asked
for. -/
theorem outputs_of_start : ∃ (tr : Trace ExactTime) (w : CommandLoop ExactTime),
    IsLoopRun "start lamp" tr w ∧ (∃ t ∈ tr, t.label.outputs.length = 2) ∧
      ∀ t ∈ tr, ∀ o ∈ t.label.outputs, AskedFor (commandsRead tr) o := by
  obtain ⟨tr, w, hrun, hwritten⟩ := exists_isRun_of_follow step_of_next?
    (P := fun tr (w : CommandLoop ExactTime) => ∃ t ∈ tr, t.label.outputs.length = 2)
    (s := init "cli" "start lamp") twoCommands (by decide +kernel)
  exact ⟨tr, w, ⟨"cli", hrun⟩, hwritten, outputs_of_run ⟨"cli", hrun⟩⟩

end Runs

end CommandLoop

end TacticalMicrogrid
