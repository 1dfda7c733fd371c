import TacticalMicrogrid.CLI.CLIClient
import TacticalMicrogrid.Library.KeepLast

/-!
# Suspending, resuming and terminating a controller

`CLIClient::send_controller_cmd` writes a command for one controller, whom every controller's
reader sees; `ControllerCommandDataReaderListenerImpl` looks for the first valid command for its
own controller among those it takes, and makes the controller stop or start its heartbeats or
terminate. The reader keeps the last command of each controller until it is taken. A second command
for a controller can so replace the first one, wherever that one is on its way.

## Main definitions

* `ControllerCmdType`, `ControllerCommand`.
* `CLIClient.sendControllerCmd`, `CLIClient.runControllerCmd`: from a line to a command.
* `foundCommand`, `ccOnDataAvailable`: from the samples that are taken to the calls.
* `CommandReader`: what is on its way to a controller, has arrived, and is being done.

## Main results

* `foundCommand_eq`: the listener finds the command that the reader has kept for its controller.
-/

namespace TacticalMicrogrid

/-- `cli::ControllerCmdType`. -/
inductive ControllerCmdType
  | stop
  | resume
  | terminate
deriving DecidableEq, Repr

/-- `cli::ControllerCommand`. The `@key` is `mcId`. -/
structure ControllerCommand where
  mcId : Identity
  type : ControllerCmdType
deriving DecidableEq

/-! ### The command line -/

namespace CLIClient

variable {τ : Type} (c : CLIClient τ)

/-- `CLIClient::send_controller_cmd`: the command that it writes, or the text that it prints. -/
def sendControllerCmd (opArg : String × Option String) (cmdType : ControllerCmdType) :
    Except String ControllerCommand :=
  match opArg.2 with
  | none => throw "No microgrid controller specified!"
  | some mcId =>
    if mcId ∉ c.controllers then throw ("Unknown controller \"" ++ mcId ++ "\"!!!")
    else return ⟨mcId, cmdType⟩

/-- `CLIClient::send_suspend_controller_cmd`. -/
def sendSuspendControllerCmd (opArg : String × Option String) : Except String ControllerCommand :=
  c.sendControllerCmd opArg .stop

/-- `CLIClient::send_resume_controller_cmd`. -/
def sendResumeControllerCmd (opArg : String × Option String) : Except String ControllerCommand :=
  c.sendControllerCmd opArg .resume

/-- `CLIClient::send_terminate_controller_cmd`. -/
def sendTerminateControllerCmd (opArg : String × Option String) :
    Except String ControllerCommand :=
  c.sendControllerCmd opArg .terminate

/-- The branches of `CLIClient::run_cli` that send a command to a controller. -/
def runControllerCmd (input : String) : Option (Except String ControllerCommand) :=
  let opPair := parse input
  match tolower opPair.1 with
  | "suspend" => some (c.sendSuspendControllerCmd opPair)
  | "resume" => some (c.sendResumeControllerCmd opPair)
  | "term" => some (c.sendTerminateControllerCmd opPair)
  | _ => none

end CLIClient

/-! ### The listener -/

/-- The loop of `ControllerCommandDataReaderListenerImpl::on_data_available`: it ends with the first
valid command for the controller. -/
def foundCommand (id : Identity) : List (Sample ControllerCommand) → Option ControllerCmdType
  | [] => none
  | s :: data =>
    if s.validData ∧ s.data.mcId = id then some s.data.type else foundCommand id data

/-- A call that a command leads to. -/
inductive ControllerCall
  | stopHeartbeats
  | startHeartbeats
  | endReactorEventLoop
deriving DecidableEq

/-- The calls for a command; `Controller::terminate` makes two. -/
def ControllerCmdType.calls : ControllerCmdType → List ControllerCall
  | .stop => [.stopHeartbeats]
  | .resume => [.startHeartbeats]
  | .terminate => [.stopHeartbeats, .endReactorEventLoop]

/-- `ControllerCommandDataReaderListenerImpl::on_data_available`: the calls that it makes for the
samples that it takes. -/
def ccOnDataAvailable (id : Identity) (data : List (Sample ControllerCommand)) :
    List ControllerCall :=
  match foundCommand id data with
  | some cct => cct.calls
  | none => []

/-! ### The reader -/

/-- The reader of a controller: whether it is there, the commands that have been written since and
have not arrived, those that have not been taken, and the calls that the listener has still to
make. -/
structure CommandReader where
  serving : Bool := false
  sent : List ControllerCommand := []
  cache : Table Identity ControllerCommand := ∅
  calls : List ControllerCall := []

namespace CommandReader

variable (r : CommandReader) {x : Identity}

/-- The reader after a command has been written. -/
def send (cmd : ControllerCommand) : CommandReader :=
  if r.serving then { r with sent := r.sent ++ [cmd] } else r

/-- The reader after the first command of those on their way has arrived. -/
def arrive (cmd : ControllerCommand) (rest : List ControllerCommand) : CommandReader :=
  { r with sent := rest, cache := KeepLast.store ControllerCommand.mcId r.cache cmd }

/-- The samples are those of a `take`: the commands that the reader has, in some order, and any
samples without data. -/
def Takes (data : List (Sample ControllerCommand)) : Prop :=
  ((data.filter (·.validData)).map (·.data)).Perm (KeepLast.values r.cache)

instance (data : List (Sample ControllerCommand)) : Decidable (r.Takes data) :=
  inferInstanceAs (Decidable (List.Perm _ _))

/-- The reader after a `take`. -/
def take (x : Identity) (data : List (Sample ControllerCommand)) : CommandReader :=
  { r with cache := ∅, calls := ccOnDataAvailable x data }

/-- The commands for the controller that have not been taken. -/
def pending (x : Identity) : List ControllerCmdType :=
  ((r.cache.find? x).toList ++ r.sent.filter (·.mcId = x)).map (·.type)

/-- No command for the controller is on its way, and the listener has made its calls. -/
def Settled (x : Identity) : Prop := r.pending x = [] ∧ r.calls = []

instance : Decidable (r.Settled x) := inferInstanceAs (Decidable (_ ∧ _))

@[simp] theorem serving_send (cmd : ControllerCommand) : (r.send cmd).serving = r.serving := by
  rw [send]
  split_ifs <;> rfl

@[simp] theorem calls_send (cmd : ControllerCommand) : (r.send cmd).calls = r.calls := by
  rw [send]
  split_ifs <;> rfl

variable {r}

/-- The loop of the listener finds the first valid command for the controller. -/
theorem foundCommand_eq_head? (x : Identity) : (data : List (Sample ControllerCommand)) →
    foundCommand x data =
      (((data.filter (·.validData)).map (·.data)).filter (·.mcId = x)).head?.map (·.type)
  | [] => rfl
  | s :: data => by
    have ih := foundCommand_eq_head? x data
    rw [foundCommand]
    cases hvalid : s.validData with
    | false => simpa [hvalid] using ih
    | true =>
      rw [List.filter_cons_of_pos hvalid, List.map_cons]
      by_cases hx : s.data.mcId = x
      · rw [if_pos ⟨rfl, hx⟩, List.filter_cons_of_pos (by simpa using hx)]
        rfl
      · rw [if_neg fun h => hx h.2, List.filter_cons_of_neg (by simpa using hx)]
        exact ih

/-- The listener finds the command that the reader has kept for the controller. -/
theorem foundCommand_eq (hkeyed : KeepLast.Keyed ControllerCommand.mcId r.cache)
    {data : List (Sample ControllerCommand)} (htakes : r.Takes data) (x : Identity) :
    foundCommand x data = (r.cache.find? x).map (·.type) := by
  have hperm := htakes.filter (·.mcId = x)
  rw [KeepLast.filter_values hkeyed] at hperm
  rw [foundCommand_eq_head?]
  cases hfind : r.cache.find? x with
  | none =>
    rw [hfind] at hperm
    rw [List.perm_nil.mp hperm]
    rfl
  | some cmd =>
    rw [hfind] at hperm
    rw [List.perm_singleton.mp hperm]
    rfl

/-- What is pending after a command has been written. -/
theorem pending_send (hserving : r.serving = true) (cmd : ControllerCommand) :
    (r.send cmd).pending x = r.pending x ++ if cmd.mcId = x then [cmd.type] else [] := by
  rw [send, if_pos hserving, pending, pending, List.filter_append, ← List.append_assoc,
    List.map_append]
  congr 1
  split_ifs with hx
  · rw [List.filter_cons_of_pos (by simpa using hx)]
    rfl
  · rw [List.filter_cons_of_neg (by simpa using hx)]
    rfl

/-- What is pending after a command has arrived: a later command replaces an earlier one. -/
theorem pending_arrive {cmd : ControllerCommand} {rest : List ControllerCommand}
    (hsent : r.sent = cmd :: rest) :
    ∃ replaced, r.pending x = replaced ++ (r.arrive cmd rest).pending x ∧
      ((r.arrive cmd rest).pending x = [] → replaced = []) := by
  rw [pending, pending, arrive, hsent, KeepLast.store, Table.find?_set]
  split_ifs with hx
  · refine ⟨(r.cache.find? x).toList.map (·.type), ?_, fun h => by simp at h⟩
    rw [List.filter_cons_of_pos (by simpa using hx.symm), ← List.map_append]
    rfl
  · refine ⟨[], ?_, fun _ => rfl⟩
    rw [List.filter_cons_of_neg (by simpa using Ne.symm hx)]
    rfl

/-- What is pending after a command has been dropped that a later one replaces. -/
theorem pending_skip {cmd : ControllerCommand} {rest : List ControllerCommand}
    (hsent : r.sent = cmd :: rest) (hlater : ∃ later ∈ rest, later.mcId = cmd.mcId) :
    ∃ before dropped after, r.pending x = before ++ (dropped ++ after) ∧
      { r with sent := rest }.pending x = before ++ after ∧ (after = [] → dropped = []) := by
  refine ⟨(r.cache.find? x).toList.map (·.type),
    ([cmd].filter (·.mcId = x)).map (·.type), (rest.filter (·.mcId = x)).map (·.type), ?_, ?_,
    fun hnil => ?_⟩
  · rw [pending, hsent, ← List.singleton_append, List.filter_append, List.map_append,
      List.map_append]
  · rw [pending, List.map_append]
  · obtain ⟨later, hmem, heq⟩ := hlater
    have hnone := List.filter_eq_nil_iff.mp (List.map_eq_nil_iff.mp hnil) later hmem
    rw [List.filter_cons_of_neg (by simpa [← heq] using hnone)]
    rfl

/-- A `take` finds the first of the pending commands, if that has arrived. -/
theorem pending_take (hkeyed : KeepLast.Keyed ControllerCommand.mcId r.cache)
    {data : List (Sample ControllerCommand)} (htakes : r.Takes data) :
    r.pending x = (foundCommand x data).toList ++ (r.take x data).pending x := by
  rw [foundCommand_eq hkeyed htakes, pending, List.map_append, Option.toList_map]
  rfl

/-! ### No `resume` on its way -/

/-- The reader is there, and nothing is on its way that starts the heartbeats of the controller. -/
structure NoResume (r : CommandReader) (x : Identity) : Prop where
  serving : r.serving = true
  pending : .resume ∉ r.pending x
  calls : .startHeartbeats ∉ r.calls

namespace NoResume

theorem send (h : r.NoResume x) {cmd : ControllerCommand} (hcmd : cmd ≠ ⟨x, .resume⟩) :
    (r.send cmd).NoResume x where
  serving := (serving_send r cmd).trans h.serving
  pending hmem := by
    rw [pending_send h.serving] at hmem
    rcases List.mem_append.mp hmem with hold | hnew
    · exact h.pending hold
    · split_ifs at hnew with hx
      · refine hcmd ?_
        rw [← hx, List.mem_singleton.mp hnew]
      · cases hnew
  calls := by
    rw [calls_send]
    exact h.calls

theorem arrive (h : r.NoResume x) {cmd : ControllerCommand} {rest : List ControllerCommand}
    (hsent : r.sent = cmd :: rest) : (r.arrive cmd rest).NoResume x where
  serving := h.serving
  pending hmem := by
    obtain ⟨replaced, hpending, -⟩ := pending_arrive (x := x) hsent
    exact h.pending (hpending.symm ▸ List.mem_append_right replaced hmem)
  calls := h.calls

theorem skip (h : r.NoResume x) {cmd : ControllerCommand} {rest : List ControllerCommand}
    (hsent : r.sent = cmd :: rest) (hlater : ∃ later ∈ rest, later.mcId = cmd.mcId) :
    { r with sent := rest }.NoResume x where
  serving := h.serving
  pending hmem := by
    obtain ⟨before, dropped, after, hpending, hskipped, -⟩ := pending_skip (x := x) hsent hlater
    rw [hskipped] at hmem
    refine h.pending (hpending ▸ ?_)
    rcases List.mem_append.mp hmem with hmem | hmem
    · exact List.mem_append_left _ hmem
    · exact List.mem_append_right _ (List.mem_append_right _ hmem)
  calls := h.calls

theorem take (h : r.NoResume x) (hkeyed : KeepLast.Keyed ControllerCommand.mcId r.cache)
    {data : List (Sample ControllerCommand)} (htakes : r.Takes data) :
    (r.take x data).NoResume x where
  serving := h.serving
  pending hmem := by
    refine h.pending ?_
    rw [pending_take hkeyed htakes]
    exact List.mem_append_right _ hmem
  calls := by
    change _ ∉ ccOnDataAvailable x data
    rw [ccOnDataAvailable]
    cases hfound : foundCommand x data with
    | none => exact List.not_mem_nil
    | some t =>
      cases t with
      | stop | terminate => simp [ControllerCmdType.calls]
      | resume =>
        refine absurd ?_ h.pending
        rw [pending_take hkeyed htakes, hfound]
        exact List.mem_cons_self

end NoResume

end CommandReader

end TacticalMicrogrid
