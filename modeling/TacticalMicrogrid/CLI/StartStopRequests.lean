import TacticalMicrogrid.CLI.CLIClient

/-!
# The controllers that a start or stop command reaches

`send_start_stop_request` of `cli/CLIClient.cpp` is to send the request of the operator to all
controllers, since the client does not know which of them is responsible for the device. It walks
over `mc_to_devices_`, whose keys need not be those of `controllers_`, and returns at the first key
that `controllers_` does not have. So it misses the available controllers that have no entry yet and
those that the walk has not come to when it meets an entry of an unknown controller.

## Main definitions

* `CLIClient.ReachesAvailable`: the requests written reach every available controller.
* `CLIClient.AllListed`: the condition on the tables and the order of the walk.

## Main results

* `CLIClient.addressControllers_eq`: the requests that the walk writes.
* `CLIClient.reachesAvailable_iff`: one command.
* `reachesAll_iff_of_session`: the commands of a session.
-/

namespace TacticalMicrogrid

open TransitionSystem

variable {τ : Type} [TimePoint τ]

namespace CLIClient

variable {c : CLIClient τ} {col : Collection} {now : ℤ} {pdId mcId : Identity}
  {opt : OperatorPriorityType} {order : List Identity}

/-- The controller that a request is for. -/
def addressee (r : OperatorIntentRequest) : Identity :=
  r.desiredOperatorIntent.requestId.requestingDeviceId

/-- Exactly one request is for each controller that is available, and it names the device. -/
def ReachesAvailable (c : CLIClient τ) (now : ℤ) (pdId : Identity) (opt : OperatorPriorityType)
    (requests : List OperatorIntentRequest) : Prop :=
  ∀ mcId ∈ c.controllers.keys, c.Available now mcId →
    requests.filter (addressee · = mcId) = [c.intentRequest pdId opt mcId]

/-- If something is listed, every available controller has an entry, and the walk in the given order
meets no unknown controller before it. If nothing is listed, every available controller is
available when the devices are collected, and sends a valid reply. -/
def AllListed (c : CLIClient τ) (col : Collection) (now : ℤ) (order : List Identity) : Prop :=
  ∀ mcId ∈ c.controllers.keys, c.Available now mcId →
    if c.mcToDevices.keys = [] then
      c.Available col.now mcId ∧ (replyOf mcId (col.outcome mcId)).isSome
    else mcId ∈ c.mcToDevices ∧ ∀ k ∈ order.takeWhile (· ≠ mcId), k ∈ c.controllers

instance (requests : List OperatorIntentRequest) :
    Decidable (c.ReachesAvailable now pdId opt requests) :=
  inferInstanceAs (Decidable (∀ mcId ∈ c.controllers.keys, _))

instance : Decidable (c.AllListed col now order) :=
  inferInstanceAs (Decidable (∀ mcId ∈ c.controllers.keys, _))

/-- The walk writes a request for each available controller before the first unknown one. -/
theorem addressControllers_eq (c : CLIClient τ) (now : ℤ) (pdId : Identity)
    (opt : OperatorPriorityType) (order : List Identity) :
    c.addressControllers now pdId opt order =
      ((order.takeWhile (· ∈ c.controllers)).filter (c.Available now ·)).map
        (c.intentRequest pdId opt) := by
  induction order with
  | nil => rfl
  | cons k order ih =>
    rw [addressControllers]
    cases hinfo : c.controllers.find? k with
    | none =>
      have hunknown : k ∉ c.controllers := Table.find?_eq_none.mp hinfo
      rw [List.takeWhile_cons_of_neg (by simpa using hunknown)]
      rfl
    | some info =>
      have hknown : k ∈ c.controllers := Table.mem_of_find? hinfo
      have havailable : c.Available now k ↔
          controllerStatus now info.lastHb = .available := by simp [Available, hinfo]
      rw [List.takeWhile_cons_of_pos (by simpa using hknown)]
      simp only
      cases hstatus : controllerStatus now info.lastHb with
      | available =>
        rw [List.filter_cons_of_pos (by simpa [havailable] using hstatus), List.map_cons, ← ih]
        rfl
      | unavailable =>
        rw [List.filter_cons_of_neg (by simp [havailable, hstatus]), ← ih]
        rfl

omit [TimePoint τ] in
/-- Of the requests for the controllers of a list without repetition one is for each of them. -/
theorem filter_addressee_map {l : List Identity} (hl : l.Nodup) :
    (l.map (c.intentRequest pdId opt)).filter (addressee · = mcId) =
      if mcId ∈ l then [c.intentRequest pdId opt mcId] else [] := by
  induction l with
  | nil => rfl
  | cons k l ih =>
    obtain ⟨hk, hl⟩ := List.nodup_cons.mp hl
    have haddressee : addressee (c.intentRequest pdId opt k) = k := rfl
    rw [List.map_cons]
    by_cases heq : k = mcId
    · obtain rfl := heq
      rw [List.filter_cons_of_pos (by simp [haddressee]), ih hl, if_neg hk,
        if_pos List.mem_cons_self]
    · rw [List.filter_cons_of_neg (by simpa [haddressee] using heq), ih hl]
      simp only [List.mem_cons, Ne.symm heq, false_or]

/-- The walk comes to an element exactly when nothing before it stops the walk. -/
theorem mem_takeWhile_iff {l : List Identity} {p : Identity → Bool} :
    mcId ∈ l.takeWhile p ↔ p mcId = true ∧ mcId ∈ l ∧ ∀ k ∈ l.takeWhile (· ≠ mcId), p k = true := by
  induction l with
  | nil => simp
  | cons a l ih =>
    by_cases ha : a = mcId
    · obtain rfl := ha
      by_cases hp : p a = true
      · simp [hp]
      · simp [hp]
    · by_cases hp : p a = true
      · simp [hp, ha, Ne.symm ha, ih]
      · simp [hp, ha]

/-- A walk reaches every available controller exactly when each of them is in the order, and no
unknown one before it. -/
theorem reachesAvailable_addressControllers_iff (horder : order.Nodup) :
    c.ReachesAvailable now pdId opt (c.addressControllers now pdId opt order) ↔
      ∀ mcId ∈ c.controllers.keys, c.Available now mcId →
        mcId ∈ order ∧ ∀ k ∈ order.takeWhile (· ≠ mcId), k ∈ c.controllers := by
  refine forall₃_congr fun mcId hmem havailable => ?_
  have hnodup : ((order.takeWhile (· ∈ c.controllers)).filter (c.Available now ·)).Nodup :=
    (horder.sublist (List.takeWhile_sublist _)).filter _
  have hknown : mcId ∈ c.controllers := AList.mem_keys.mpr hmem
  have hreached : mcId ∈ (order.takeWhile (· ∈ c.controllers)).filter (c.Available now ·) ↔
      mcId ∈ order ∧ ∀ k ∈ order.takeWhile (· ≠ mcId), k ∈ c.controllers := by
    rw [List.mem_filter, mem_takeWhile_iff]
    simp only [decide_eq_true_eq, hknown, true_and, havailable, and_true]
  rw [addressControllers_eq, filter_addressee_map hnodup, ← hreached]
  split_ifs with h
  · exact iff_of_true rfl h
  · exact iff_of_false id h

/-- After a collection from nothing, the controllers with an entry are those that were available
and sent a valid reply. -/
theorem mem_collectPowerDevices_iff_of_empty (hempty : c.mcToDevices.keys = [])
    (hcol : col.order.Perm c.controllers.keys) :
    mcId ∈ (c.collectPowerDevices col).1.mcToDevices ↔
      c.Available col.now mcId ∧ (replyOf mcId (col.outcome mcId)).isSome := by
  obtain ⟨t, ht, hfind⟩ := c.collectPowerDevices_eq hcol
  have hnone : c.mcToDevices.find? mcId = none := by
    rw [Table.find?_eq_none, AList.mem_keys, hempty]
    exact List.not_mem_nil
  rw [ht, Table.mem_iff_exists_find?]
  change (∃ v, t.find? mcId = some v) ↔ _
  rw [hfind mcId, hnone]
  by_cases havailable : c.Available col.now mcId
  · obtain ⟨info, hinfo, -⟩ := id havailable
    rw [if_pos (Table.mem_of_find? hinfo), if_pos havailable]
    cases hreply : replyOf mcId (col.outcome mcId) with
    | none => simp [entryAfter_none_of_replyOf hreply]
    | some reply => simp [entryAfter_of_replyOf hreply, havailable]
  · simp [havailable]

/-- One command reaches every available controller exactly when the condition holds. -/
theorem reachesAvailable_iff {opArg : String × Option String} (harg : opArg.2 = some pdId)
    (hcol : col.order.Perm c.controllers.keys)
    (horder : order.Perm (c.collectIfEmpty col).mcToDevices.keys) :
    c.ReachesAvailable now pdId opt (c.sendStartStopRequest opArg opt col now order).2 ↔
      c.AllListed col now order := by
  have hnodup : order.Nodup := horder.nodup_iff.mpr (AList.keys_nodup _)
  simp only [sendStartStopRequest, harg, AllListed]
  rw [collectIfEmpty] at horder ⊢
  split_ifs at horder ⊢ with hempty
  · obtain ⟨t, ht, hfind⟩ := c.collectPowerDevices_eq hcol
    have hsame : ∀ requests, c.ReachesAvailable now pdId opt requests ↔
        (c.collectPowerDevices col).1.ReachesAvailable now pdId opt requests := fun requests => by
      rw [ht]
      exact Iff.rfl
    have hmem : ∀ k, k ∈ order ↔
        c.Available col.now k ∧ (replyOf k (col.outcome k)).isSome := fun k => by
      rw [horder.mem_iff, ← AList.mem_keys, mem_collectPowerDevices_iff_of_empty hempty hcol]
    rw [hsame, reachesAvailable_addressControllers_iff hnodup, ht]
    refine forall₂_congr fun mcId _ => imp_congr Iff.rfl ?_
    rw [hmem mcId, and_iff_left_iff_imp]
    intro _ k hk
    obtain ⟨info, hinfo, -⟩ := ((hmem k).mp ((List.takeWhile_sublist _).subset hk)).1
    exact Table.mem_of_find? hinfo
  · rw [reachesAvailable_addressControllers_iff hnodup]
    simp only [horder.mem_iff, AList.mem_keys (a := _)]

end CLIClient

/-! ### Sessions -/

namespace CLISession

/-- If the event is a start or stop command, its requests reach every available controller. -/
def ReachesAll (s : CLISession τ) : Event → Prop
  | .startStop input col now order =>
    ∀ opt ∈ CLIClient.startStopPriority input, ∀ pdId ∈ (CLIClient.parse input).2,
      s.client.ReachesAvailable now pdId opt
        (s.client.sendStartStopRequest (CLIClient.parse input) opt col now order).2
  | _ => True

/-- If the event is a start or stop command for a device, every available controller is listed and
the walk comes to it. -/
def ListsAll (s : CLISession τ) : Event → Prop
  | .startStop input col now order =>
    (CLIClient.startStopPriority input).isSome → (CLIClient.parse input).2.isSome →
      s.client.AllListed col now order
  | _ => True

instance (s : CLISession τ) : (e : Event) → Decidable (s.ReachesAll e)
  | .startStop input _ _ _ =>
    inferInstanceAs (Decidable (∀ opt ∈ CLIClient.startStopPriority input,
      ∀ pdId ∈ (CLIClient.parse input).2, _))
  | .deviceInfo _ _ | .heartbeat _ _ | .listPd _ | .connectPd _ _ _ | .answer _ |
    .endConnectPd => isTrue trivial

instance (s : CLISession τ) : (e : Event) → Decidable (s.ListsAll e)
  | .startStop _ _ _ _ => inferInstanceAs (Decidable (_ → _ → _))
  | .deviceInfo _ _ | .heartbeat _ _ | .listPd _ | .connectPd _ _ _ | .answer _ |
    .endConnectPd => isTrue trivial

theorem reachesAll_iff {s s' : CLISession τ} {e : Event} (h : s.Step e s') :
    s.ReachesAll e ↔ s.ListsAll e := by
  cases e with
  | startStop input col now order =>
    obtain ⟨⟨-, hcol, horder⟩, -⟩ := h
    simp only [ReachesAll, ListsAll]
    cases hopt : CLIClient.startStopPriority input with
    | none => simp
    | some opt =>
      cases harg : (CLIClient.parse input).2 with
      | none => simp
      | some pdId =>
        have hiff : s.client.ReachesAvailable now pdId opt (s.client.sendStartStopRequest
            (CLIClient.parse input) opt col now order).2 ↔ s.client.AllListed col now order :=
          CLIClient.reachesAvailable_iff harg hcol horder
        simpa using hiff
  | deviceInfo | heartbeat | listPd | connectPd | answer | endConnectPd => exact Iff.rfl

end CLISession

/-- **Start and stop commands.** In every session, the start and stop commands for a device all
write exactly one request for each available controller, exactly when at each of these commands
every available controller has an entry and the walk over the entries comes to it before it meets
an unknown controller; if there are no entries, when every available controller is available while
the devices are collected and sends a valid reply. -/
theorem reachesAll_iff_of_session {tr : List (Transition (CLISession τ) CLISession.Event)}
    {s : CLISession τ} (h : IsSession tr s) :
    (∀ t ∈ tr, t.source.ReachesAll t.label) ↔ ∀ t ∈ tr, t.source.ListsAll t.label := by
  obtain ⟨id, hrun⟩ := h
  refine forall₂_congr fun t ht => ?_
  obtain ⟨pre, -, hstep⟩ := hrun.of_mem ht
  exact CLISession.reachesAll_iff hstep

/-- Two controllers are announced and collected. -/
def CLISession.joinEvents : List CLISession.Event :=
  [.deviceInfo 0 (.valid { deviceId := "mc1", role := .microgridController }),
    .deviceInfo 0 (.valid { deviceId := "mc2", role := .microgridController }),
    .listPd ⟨0, ["mc1", "mc2"], fun k => .taken [.valid ⟨k, []⟩]⟩]

/-- A command that reaches two listed controllers. -/
theorem reachesAll_of_listed : ∃ (tr : List (Transition (CLISession ExactTime) CLISession.Event))
      (s : CLISession ExactTime), IsSession tr s ∧
    s.client.addressControllers 1 "load" .alwaysOperate ["mc1", "mc2"] =
      [s.client.intentRequest "load" .alwaysOperate "mc1",
        s.client.intentRequest "load" .alwaysOperate "mc2"] ∧
    ∀ t ∈ tr, t.source.ReachesAll t.label :=
  have hrun := isSession_of_follow "cli" (CLISession.joinEvents ++
    [.startStop "start load" ⟨1, ["mc1", "mc2"], fun _ => .failed⟩ 1 ["mc1", "mc2"]]) rfl
  ⟨_, _, hrun, by decide, (reachesAll_iff_of_session hrun).mpr (by decide)⟩

/-- A command that ends at the entry of a disposed controller does not reach the other one. -/
theorem start_ends_at_unknown_controller :
    ∃ (tr : List (Transition (CLISession ExactTime) CLISession.Event)) (s : CLISession ExactTime),
      IsSession tr s ∧ s.client.Available 1 "mc2" ∧
        s.client.addressControllers 1 "load" .alwaysOperate ["mc1", "mc2"] = [] ∧
        ∃ t ∈ tr, ¬t.source.ReachesAll t.label :=
  have hrun := isSession_of_follow "cli" (CLISession.joinEvents ++
    [.heartbeat 1 (.disposal { deviceId := "mc1" }),
      .startStop "start load" ⟨1, ["mc2"], fun _ => .failed⟩ 1 ["mc1", "mc2"]]) rfl
  ⟨_, _, hrun, by decide, by decide, by decide⟩

end TacticalMicrogrid
