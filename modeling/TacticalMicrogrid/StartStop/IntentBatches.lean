import TacticalMicrogrid.Controller.CLIServer

/-!
# Intents of many devices

An `OperatorIntent` has a list of the devices that the operator wants something of, and a listener
takes all requests that have arrived together. The listener of the command server goes through
both lists with one variable for the device, leaves an intent at the first device with an id, and
calls `start_stop_device` once at the end. So of everything that is asked for in a batch the server
does one thing.

## Main definitions

* `CLIServer.startStopCalls`: the calls of `start_stop_device` for a batch.
* `CLIServer.directives`: what the intents of a batch ask a controller for.

## Main results

* `CLIServer.oirOnDataAvailable_eq`: the listener makes these calls and does nothing else.
* `CLIServer.startStopCalls_sublist`: it does not make up a call.
* `CLIServer.startStopCalls_eq_directives_iff`: when it makes all calls.
-/

namespace TacticalMicrogrid

namespace CLIServer

/-- What an intent says of devices with ids, in its order. -/
def directivesOf (oi : OperatorIntent) : List (Identity × OperatorPriorityType) :=
  (oi.devices.filter (·.deviceId ≠ "")).map fun intent =>
    (intent.deviceId, intent.priority.priorityType)

/-- The sample is a request for the controller. -/
def IsRequestFor (mcId : Identity) (s : Sample OperatorIntentRequest) : Prop :=
  s.validData = true ∧ s.data.desiredOperatorIntent.requestId.requestingDeviceId = mcId

instance (mcId : Identity) (s : Sample OperatorIntentRequest) : Decidable (IsRequestFor mcId s) :=
  inferInstanceAs (Decidable (_ ∧ _))

/-- What a batch asks the controller for, in the order of arrival and of the positions in the
intents. -/
def directives (mcId : Identity) (data : List (Sample OperatorIntentRequest)) :
    List (Identity × OperatorPriorityType) :=
  (data.filter (IsRequestFor mcId ·)).flatMap (directivesOf ·.data.desiredOperatorIntent)

/-- The calls of `start_stop_device` that the listener makes for a batch. -/
def startStopCalls (mcId : Identity) (data : List (Sample OperatorIntentRequest)) :
    List (Identity × OperatorPriorityType) :=
  (batchTarget mcId data).toList

/-- One call of `start_stop_device` after the other. -/
def startStopAll (writeOk : Bool) (s : CLIServer) :
    List (Identity × OperatorPriorityType) → CLIServer × List EnergyStartStopRequest
  | [] => (s, [])
  | (pdId, opt) :: calls =>
    let (s, essrs) := s.startStopDevice pdId opt writeOk
    let (s, more) := s.startStopAll writeOk calls
    (s, essrs ++ more)

section Batches

variable {mcId : Identity} {data : List (Sample OperatorIntentRequest)}

/-- The listener makes its calls and does nothing else. -/
theorem oirOnDataAvailable_eq (s : CLIServer) (data : List (Sample OperatorIntentRequest))
    (writeOk : Bool) : s.oirOnDataAvailable data writeOk =
      s.startStopAll writeOk (startStopCalls s.controller.deviceId data) := by
  rw [oirOnDataAvailable, startStopCalls]
  cases batchTarget s.controller.deviceId data with
  | none => rfl
  | some target =>
    simp only [Option.toList_some, startStopAll, List.append_nil]

theorem intentTarget_eq (oir : OperatorIntentRequest) :
    intentTarget oir = (directivesOf oir.desiredOperatorIntent).head? := by
  rw [intentTarget, directivesOf, List.head?_map, List.head?_filter]

theorem directives_concat (s : Sample OperatorIntentRequest) :
    directives mcId (data ++ [s]) = directives mcId data ++
      if IsRequestFor mcId s then directivesOf s.data.desiredOperatorIntent else [] := by
  rw [directives, List.filter_append, List.flatMap_append, directives, List.filter_singleton]
  split_ifs with h <;> simp [h]

theorem batchTarget_concat (s : Sample OperatorIntentRequest) :
    batchTarget mcId (data ++ [s]) =
      if IsRequestFor mcId s then
        (directivesOf s.data.desiredOperatorIntent).head?.or (batchTarget mcId data)
      else batchTarget mcId data := by
  rw [batchTarget, List.foldl_append, List.foldl_cons, List.foldl_nil, intentTarget_eq]
  rfl

/-- What the server does is among what it is asked for, and it does nothing only if it is asked for
nothing. -/
theorem batchTarget_spec (mcId : Identity) (data : List (Sample OperatorIntentRequest)) :
    match batchTarget mcId data with
    | some target => target ∈ directives mcId data
    | none => directives mcId data = [] := by
  induction data using List.reverseRecOn with
  | nil => rfl
  | append_singleton data s ih =>
    rw [batchTarget_concat, directives_concat]
    split_ifs with hfor
    · cases hdirectives : directivesOf s.data.desiredOperatorIntent with
      | nil => rwa [List.head?_nil, Option.none_or, List.append_nil]
      | cons target rest => exact List.mem_append_right _ List.mem_cons_self
    · rwa [List.append_nil]

/-- The calls are some of what is asked for. -/
theorem startStopCalls_sublist (mcId : Identity) (data : List (Sample OperatorIntentRequest)) :
    (startStopCalls mcId data).Sublist (directives mcId data) := by
  have hspec := batchTarget_spec mcId data
  rw [startStopCalls]
  cases htarget : batchTarget mcId data with
  | none => exact List.nil_sublist _
  | some target =>
    rw [htarget] at hspec
    exact List.singleton_sublist.mpr hspec

/-- The server makes one call if it is asked for anything. -/
theorem length_startStopCalls (mcId : Identity) (data : List (Sample OperatorIntentRequest)) :
    (startStopCalls mcId data).length = min 1 (directives mcId data).length := by
  have hspec := batchTarget_spec mcId data
  rw [startStopCalls]
  cases htarget : batchTarget mcId data with
  | none =>
    rw [htarget] at hspec
    rw [hspec]
    rfl
  | some target =>
    rw [htarget] at hspec
    exact (min_eq_left (List.length_pos_of_mem hspec)).symm

/-- **Intents of many devices.** The server calls `start_stop_device` once for each device with an
id in the requests of a batch that are for this controller, in their order, if and only if there is
one such device at most. -/
theorem startStopCalls_eq_directives_iff (mcId : Identity)
    (data : List (Sample OperatorIntentRequest)) :
    startStopCalls mcId data = directives mcId data ↔ (directives mcId data).length ≤ 1 := by
  rw [← (startStopCalls_sublist mcId data).length_eq, length_startStopCalls, min_eq_right_iff]

/-- What a client asks the controller `mc1` for: to stop a device. -/
def stopRequest (cliId pdId : Identity) : Sample OperatorIntentRequest where
  data :=
    { requestId := ⟨cliId⟩
      sequenceId := 0
      desiredOperatorIntent := ⟨⟨"mc1"⟩, .operatorDefined, [⟨pdId, false, ⟨.neverOperate⟩⟩]⟩ }
  validData := true

/-- Two clients stop one device each, and the controller takes both requests together: the first
one is lost. -/
theorem drops_first_request : ¬∀ (mcId : Identity) (data : List (Sample OperatorIntentRequest)),
    startStopCalls mcId data = directives mcId data := by
  intro h
  exact absurd (h "mc1" [stopRequest "cli1" "pd1", stopRequest "cli2" "pd2"]) (by decide)

end Batches

end CLIServer

end TacticalMicrogrid
