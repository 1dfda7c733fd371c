import TacticalMicrogrid.CLI.StartStopRequests
import TacticalMicrogrid.Controller.CLIServer
import TacticalMicrogrid.Library.KeepLast

/-!
# The requests of an operator on their way

`send_start_stop_request` of `cli/CLIClient.cpp` writes one request for each controller. The key of
`tms::OperatorIntentRequest` is the id of the client, not that of the controller, so all requests of
a client are values of one instance, and with the default history every controller keeps the last of
them only, whichever controller it is for. A controller misses its request if the client writes the
next one, to any controller, before the controller has taken its own.

The client holds `data_m_` until its requests are written; in between the controllers take what they
have. Nothing is lost or reordered on the way, and a request that is late for one controller is the
same as an earlier take of this controller.

## Main definitions

* `IntentReader`, `IntentSystem`, `IntentSystem.Step`, `IsIntentRun`.
* `IntentSystem.calls`, `IntentSystem.requests`: what a controller does, and what it is asked for.

## Main results

* `IntentReader.Inv.batchTarget_batch`: a controller obeys what it takes if it is for this
  controller.
* `IntentSystem.Step.perm`, `IntentSystem.perm_of_run`: what is written for a controller is obeyed,
  in its reader or lost.
* `IntentSystem.Step.ready_iff`: when a step loses something.
* `handled_iff_of_intentRun`.
-/

namespace TacticalMicrogrid

open TransitionSystem

/-- A controller, and the requests in its reader that it has not taken. -/
structure IntentReader where
  server : CLIServer
  cache : Table GridRequest OperatorIntentRequest := ∅

namespace IntentReader

/-- What the reader takes. -/
def batch (rd : IntentReader) : List (Sample OperatorIntentRequest) :=
  (KeepLast.values rd.cache).map fun oir => ⟨oir, true⟩

/-- A request arrives. -/
def store (rd : IntentReader) (oir : OperatorIntentRequest) : IntentReader :=
  { rd with cache := KeepLast.store OperatorIntentRequest.requestId rd.cache oir }

/-- The controller takes the requests. -/
def take (rd : IntentReader) (writeOk : Bool) : IntentReader where
  server := (rd.server.oirOnDataAvailable rd.batch writeOk).1

/-- The requests for a controller that have not been taken. -/
def untaken (rd : IntentReader) (mcId : Identity) : List OperatorIntentRequest :=
  (KeepLast.values rd.cache).filter (CLIClient.addressee · = mcId)

end IntentReader

/-- The requests that a session writes for an event. -/
def CLISession.requestsOf {τ : Type} [TimePoint τ] (s : CLISession τ) :
    CLISession.Event → List OperatorIntentRequest
  | .startStop input col now order =>
    match CLIClient.startStopPriority input with
    | none => []
    | some opt => (s.client.sendStartStopRequest (CLIClient.parse input) opt col now order).2
  | _ => []

/-- The operator's session, the requests that a running command has still to write, and the
controllers by their ids. -/
structure IntentSystem (τ : Type) where
  session : CLISession τ
  pending : List OperatorIntentRequest := []
  readers : Table Identity IntentReader

namespace IntentSystem

/-- What can happen: an event of the session, the next write of a command, or a take. -/
inductive Event
  | cli (e : CLISession.Event)
  | write (ok : Bool)
  | take (mcId : Identity) (writeOk : Bool)

section Steps

variable {τ : Type} [TimePoint τ] (m : IntentSystem τ)

/-- The system after an event. -/
def after : Event → IntentSystem τ
  | .cli e => { m with session := m.session.after e, pending := m.session.requestsOf e }
  | .write ok =>
    match m.pending with
    | [] => m
    | oir :: rest =>
      { m with
        pending := rest
        readers := if ok then m.readers.map (·.store oir) else m.readers }
  | .take mcId writeOk => { m with readers := m.readers.modify mcId (·.take writeOk) }

/-- When an event can happen: the session waits until a command has written its requests. -/
def Enabled : Event → Prop
  | .cli e => m.pending = [] ∧ m.session.Enabled e
  | .write _ => m.pending ≠ []
  | .take _ _ => True

instance : (e : Event) → Decidable (m.Enabled e)
  | .cli _ => inferInstanceAs (Decidable (_ ∧ _))
  | .write _ => inferInstanceAs (Decidable (_ ≠ _))
  | .take _ _ => isTrue trivial

/-- The steps of the system. -/
def Step (e : Event) (m' : IntentSystem τ) : Prop := m.Enabled e ∧ m' = m.after e

/-- The step for an event, if it can be taken. -/
def next? (e : Event) : Option (Event × IntentSystem τ) :=
  if m.Enabled e then some (e, m.after e) else none

theorem step_of_next? (e e' : Event) (m' : IntentSystem τ) (h : m.next? e = some (e', m')) :
    m.Step e' m' := by
  obtain ⟨henabled, rfl, rfl⟩ := of_guard_eq_some h
  exact ⟨henabled, rfl⟩

end Steps

variable {τ : Type}

/-- A new session, and controllers with empty readers. -/
def IsInitial (m : IntentSystem τ) : Prop :=
  (∃ id, m.session = ⟨{ deviceId := id }, none⟩) ∧ m.pending = [] ∧
    ∀ mcId, ∀ rd ∈ m.readers.find? mcId, rd.server.controller.deviceId = mcId ∧ rd.cache = ∅

/-! ### The history of a controller -/

/-- The call of `start_stop_device` that a controller makes in a step. -/
def calls (mcId : Identity) (t : Transition (IntentSystem τ) Event) :
    List (Identity × OperatorPriorityType) :=
  match t.label with
  | .take id _ =>
    if id = mcId then
      ((t.source.readers.find? mcId).bind fun rd =>
        CLIServer.batchTarget rd.server.controller.deviceId rd.batch).toList
    else []
  | _ => []

/-- The request for a controller that is written in a step. -/
def requests (mcId : Identity) (t : Transition (IntentSystem τ) Event) :
    List OperatorIntentRequest :=
  match t.label with
  | .write true => t.source.pending.head?.toList.filter (CLIClient.addressee · = mcId)
  | _ => []

/-- Every request that has been written for a controller has made it call `start_stop_device` for
the device that the request names, or is in its reader still. -/
def Handled (tr : List (Transition (IntentSystem τ) Event)) (m : IntentSystem τ) : Prop :=
  ∀ mcId, ∀ rd ∈ m.readers.find? mcId,
    (tr.flatMap (calls mcId) ++ (rd.untaken mcId).filterMap CLIServer.intentTarget).Perm
      ((tr.flatMap (requests mcId)).filterMap CLIServer.intentTarget)

/-- When the client writes, no controller has a request for it in its reader. -/
def Ready (m : IntentSystem τ) : Event → Prop
  | .write true => ∀ e ∈ m.readers.entries, e.2.untaken e.1 = []
  | _ => True

instance (m : IntentSystem τ) : (e : Event) → Decidable (m.Ready e)
  | .write true => inferInstanceAs (Decidable (∀ e ∈ m.readers.entries, _))
  | .write false | .cli _ | .take _ _ => isTrue trivial

/-- The request for a controller that gets lost in a step: the one in its reader that a request of
the client replaces. -/
def lost (mcId : Identity) (t : Transition (IntentSystem τ) Event) : List OperatorIntentRequest :=
  match t.label with
  | .write true =>
    t.source.pending.head?.toList.flatMap fun oir =>
      (t.source.readers.find? mcId).toList.flatMap fun rd =>
        (KeepLast.replaced OperatorIntentRequest.requestId rd.cache oir).filter
          (CLIClient.addressee · = mcId)
  | _ => []

end IntentSystem

/-- `tr` is a run of the client and the controllers, which ends in `m`. -/
def IsIntentRun {τ : Type} [TimePoint τ]
    (tr : List (Transition (IntentSystem τ) IntentSystem.Event)) (m : IntentSystem τ) : Prop :=
  ∃ m₀ : IntentSystem τ, m₀.IsInitial ∧ IsRun IntentSystem.Step m₀ tr m

/-! ### The requests of one client -/

/-- A request of the client with an id, which names a device. -/
def FromClient (id : Identity) (oir : OperatorIntentRequest) : Prop :=
  oir.requestId = ⟨id⟩ ∧ (CLIServer.intentTarget oir).isSome

namespace CLISession

variable {τ : Type} [TimePoint τ] {s s' : CLISession τ} {e : Event}

/-- A command writes requests of its client. -/
theorem fromClient_of_mem_requestsOf (h : s.Step e s') {oir : OperatorIntentRequest}
    (hoir : oir ∈ s.requestsOf e) : FromClient s.client.deviceId oir := by
  obtain ⟨henabled, -⟩ := h
  cases e with
  | startStop input col now order =>
    obtain ⟨t, ht⟩ := s.client.collectIfEmpty_eq henabled.2.1
    simp only [requestsOf] at hoir
    split at hoir
    · cases hoir
    · next opt _ =>
      simp only [CLIClient.sendStartStopRequest, ht] at hoir
      cases harg : (CLIClient.parse input).2 with
      | none =>
        rw [harg] at hoir
        cases hoir
      | some pdId =>
        rw [harg] at hoir
        simp only [CLIClient.addressControllers_eq] at hoir
        obtain ⟨mcId, -, rfl⟩ := List.mem_map.mp hoir
        have hne : pdId ≠ "" := CLIClient.parse_ne_empty harg
        exact ⟨rfl, by simp [CLIServer.intentTarget, CLIClient.intentRequest, hne]⟩
  | deviceInfo | heartbeat | listPd | connectPd | answer | endConnectPd => cases hoir

end CLISession

/-! ### One reader -/

namespace IntentReader

variable {id mcId : Identity} {rd : IntentReader} {oir : OperatorIntentRequest}

/-- The reader of a controller holds requests of one client only. -/
structure Inv (id mcId : Identity) (rd : IntentReader) : Prop where
  server : rd.server.controller.deviceId = mcId
  cached : ∀ k oir, rd.cache.find? k = some oir → k = ⟨id⟩ ∧ FromClient id oir

theorem Inv.store (h : Inv id mcId rd) (hoir : FromClient id oir) :
    Inv id mcId (rd.store oir) where
  server := h.server
  cached k oir' hk := by
    rw [IntentReader.store, KeepLast.store, Table.find?_set] at hk
    split_ifs at hk with heq
    · obtain rfl := Option.some.inj hk
      exact ⟨heq.trans hoir.1, hoir⟩
    · exact h.cached k oir' hk

theorem Inv.take (h : Inv id mcId rd) (writeOk : Bool) : Inv id mcId (rd.take writeOk) where
  server := (rd.server.deviceId_oirOnDataAvailable _ _).trans h.server
  cached k oir hk := by
    rw [IntentReader.take, Table.find?_empty] at hk
    cases hk

/-- All requests are values of one instance, so a reader holds one of them at most. -/
theorem Inv.values_eq (h : Inv id mcId rd) :
    KeepLast.values rd.cache = (rd.cache.find? ⟨id⟩).toList := by
  refine KeepLast.values_eq_of_forall fun k hk => ?_
  obtain ⟨oir, hoir⟩ := Table.mem_iff_exists_find?.mp (AList.mem_keys.mpr hk)
  exact (h.cached k oir hoir).1

/-- A controller obeys a single request if it is for this controller. -/
theorem Inv.batchTarget_batch (h : Inv id mcId rd) :
    (CLIServer.batchTarget mcId rd.batch).toList =
      (rd.untaken mcId).filterMap CLIServer.intentTarget := by
  rw [batch, untaken, h.values_eq]
  cases rd.cache.find? ⟨id⟩ with
  | none => rfl
  | some oir =>
    rw [Option.toList_some, List.map_singleton, List.filter_singleton, CLIServer.batchTarget,
      List.foldl_cons, List.foldl_nil]
    by_cases heq : CLIClient.addressee oir = mcId
    · rw [if_pos ⟨rfl, heq⟩, Option.or_none]
      cases htarget : CLIServer.intentTarget oir <;> simp [heq, htarget]
    · rw [if_neg fun hpos => heq hpos.2]
      simp [heq]

/-- What the arrival of a request replaces is what was to be taken. -/
theorem Inv.filter_replaced (h : Inv id mcId rd) (hoir : FromClient id oir) :
    (KeepLast.replaced OperatorIntentRequest.requestId rd.cache oir).filter
      (CLIClient.addressee · = mcId) = rd.untaken mcId := by
  rw [untaken, h.values_eq, KeepLast.replaced, hoir.1]

end IntentReader

/-! ### Runs -/

namespace IntentSystem

variable {τ : Type} {id mcId : Identity} {m m' : IntentSystem τ} {e : Event}
  {tr : List (Transition (IntentSystem τ) Event)}

/-- All requests on their way are requests of the client. -/
structure Inv (id : Identity) (m : IntentSystem τ) : Prop where
  client : m.session.client.deviceId = id
  pending : ∀ oir ∈ m.pending, FromClient id oir
  reader : ∀ mcId, ∀ rd ∈ m.readers.find? mcId, IntentReader.Inv id mcId rd

theorem IsInitial.exists_inv (h : m.IsInitial) : ∃ id, Inv id m := by
  obtain ⟨⟨id, hsession⟩, hpending, hreaders⟩ := h
  refine ⟨id, by rw [hsession], fun oir hoir => ?_, fun mcId rd hrd => ?_⟩
  · rw [hpending] at hoir
    cases hoir
  · obtain ⟨hserver, hcache⟩ := hreaders mcId rd hrd
    refine ⟨hserver, fun k oir hk => ?_⟩
    rw [hcache, Table.find?_empty] at hk
    cases hk

variable [TimePoint τ]

/-- A step gives no controller a new reader and takes none away. -/
theorem Step.mem_readers_iff (h : m.Step e m') : mcId ∈ m'.readers ↔ mcId ∈ m.readers := by
  obtain ⟨-, rfl⟩ := h
  cases e with
  | cli e => exact Iff.rfl
  | write ok =>
    rw [after]
    split
    · exact Iff.rfl
    · cases ok with
      | true =>
        simp only [if_true, Table.mem_iff_find?_isSome, Table.find?_map, Option.isSome_map]
      | false => exact Iff.rfl
  | take id writeOk =>
    rw [after, Table.mem_iff_find?_isSome, Table.mem_iff_find?_isSome, Table.find?_modify]
    split_ifs with heq
    · rw [Option.isSome_map, heq]
    · rfl

theorem Inv.step (hinv : Inv id m) (h : m.Step e m') : Inv id m' := by
  obtain ⟨henabled, rfl⟩ := h
  cases e with
  | cli e =>
    have hstep : m.session.Step e (m.session.after e) := ⟨henabled.2, rfl⟩
    refine ⟨hstep.deviceId_eq.trans hinv.client, fun oir hoir => ?_, hinv.reader⟩
    rw [← hinv.client]
    exact CLISession.fromClient_of_mem_requestsOf hstep hoir
  | write ok =>
    rw [after]
    split
    · exact hinv
    · next oir rest hpending =>
      have hoir : FromClient id oir := hinv.pending oir (by simp [hpending])
      refine ⟨hinv.client, fun oir' hoir' => hinv.pending oir' (by simp [hpending, hoir']), ?_⟩
      cases ok with
      | true =>
        intro mcId rd' hrd'
        rw [if_pos rfl, Table.find?_map] at hrd'
        obtain ⟨rd, hrd, rfl⟩ := Option.map_eq_some_iff.mp hrd'
        exact (hinv.reader mcId rd hrd).store hoir
      | false => exact hinv.reader
  | take id' writeOk =>
    refine ⟨hinv.client, hinv.pending, fun mcId rd' hrd' => ?_⟩
    rw [after, Table.find?_modify] at hrd'
    split_ifs at hrd' with heq
    · obtain rfl := heq
      obtain ⟨rd, hrd, rfl⟩ := Option.map_eq_some_iff.mp hrd'
      exact (hinv.reader mcId rd hrd).take writeOk
    · exact hinv.reader mcId rd' hrd'

/-- What is in the reader of a controller before a step, or arrives in it, is obeyed, is in the
reader still, or is lost. -/
theorem Step.perm (hinv : Inv id m) (h : m.Step e m') {rd' : IntentReader}
    (hrd' : m'.readers.find? mcId = some rd') : ∃ rd, m.readers.find? mcId = some rd ∧
      (calls mcId ⟨m, e, m'⟩ ++
        (rd'.untaken mcId ++ lost mcId ⟨m, e, m'⟩).filterMap CLIServer.intentTarget).Perm
      ((rd.untaken mcId ++ requests mcId ⟨m, e, m'⟩).filterMap CLIServer.intentTarget) := by
  obtain ⟨henabled, rfl⟩ := h
  cases e with
  | cli e =>
    refine ⟨rd', hrd', ?_⟩
    simp only [calls, lost, requests, List.nil_append]
    exact List.Perm.refl _
  | write ok =>
    obtain ⟨oir, rest, hpending⟩ := List.exists_cons_of_ne_nil henabled
    simp only [after, hpending] at hrd'
    cases ok with
    | false =>
      refine ⟨rd', hrd', ?_⟩
      simp only [calls, lost, requests, List.nil_append]
      exact List.Perm.refl _
    | true =>
      rw [if_pos rfl, Table.find?_map] at hrd'
      obtain ⟨rd, hrd, rfl⟩ := Option.map_eq_some_iff.mp hrd'
      refine ⟨rd, hrd, ?_⟩
      simp only [calls, lost, requests, hpending, hrd, List.head?_cons, Option.toList_some,
        List.flatMap_singleton, List.nil_append]
      refine List.Perm.filterMap _ ?_
      have hstore : (KeepLast.values (rd.store oir).cache ++
          KeepLast.replaced OperatorIntentRequest.requestId rd.cache oir).Perm
            ([oir] ++ KeepLast.values rd.cache) := KeepLast.perm_store
      have hfilter := hstore.filter (CLIClient.addressee · = mcId)
      rw [List.filter_append, List.filter_append] at hfilter
      exact hfilter.trans List.perm_append_comm
  | take id' writeOk =>
    simp only [after, Table.find?_modify] at hrd'
    split_ifs at hrd' with heq
    · obtain rfl := heq
      obtain ⟨rd, hrd, rfl⟩ := Option.map_eq_some_iff.mp hrd'
      have hreader := hinv.reader mcId rd hrd
      refine ⟨rd, hrd, ?_⟩
      simp only [calls, lost, requests, if_true, hrd, Option.bind_some, hreader.server,
        hreader.batchTarget_batch, List.append_nil]
      have hnone : (rd.take writeOk).untaken mcId = [] := rfl
      rw [hnone, List.filterMap_nil, List.append_nil]
    · refine ⟨rd', hrd', ?_⟩
      simp only [calls, lost, requests, if_neg (Ne.symm heq), List.nil_append]
      exact List.Perm.refl _

omit [TimePoint τ] in
/-- What is lost is a request of the client. -/
theorem fromClient_of_mem_lost (hinv : Inv id m) {oir : OperatorIntentRequest}
    (hoir : oir ∈ lost mcId ⟨m, e, m'⟩) : FromClient id oir := by
  simp only [lost] at hoir
  split at hoir
  · obtain ⟨new, -, hoir⟩ := List.mem_flatMap.mp hoir
    obtain ⟨rd, hrd, hoir⟩ := List.mem_flatMap.mp hoir
    obtain ⟨hoir, -⟩ := List.mem_filter.mp hoir
    exact ((hinv.reader mcId rd (Option.mem_toList.mp hrd)).cached _ _
      (Option.mem_toList.mp hoir)).2
  · cases hoir

/-- Nothing gets lost in a step if the controllers are ready. -/
theorem Step.ready_iff (hinv : Inv id m) (h : m.Step e m') :
    m.Ready e ↔ ∀ mcId ∈ m.readers, lost mcId ⟨m, e, m'⟩ = [] := by
  obtain ⟨henabled, rfl⟩ := h
  have hnone : (∀ mcId ∈ m.readers, ([] : List OperatorIntentRequest) = []) ↔ True :=
    iff_true_intro fun _ _ => rfl
  cases e with
  | write ok =>
    cases ok with
    | false => exact hnone.symm
    | true =>
      obtain ⟨oir, rest, hpending⟩ := List.exists_cons_of_ne_nil henabled
      have hoir : FromClient id oir := hinv.pending oir (by simp [hpending])
      have hlost : ∀ mcId rd, m.readers.find? mcId = some rd →
          lost mcId ⟨m, .write true, m.after (.write true)⟩ = rd.untaken mcId := by
        intro mcId rd hrd
        simp only [lost, hpending, hrd, List.head?_cons, Option.toList_some,
          List.flatMap_singleton]
        exact (hinv.reader mcId rd hrd).filter_replaced hoir
      constructor
      · intro hready mcId hmem
        obtain ⟨rd, hrd⟩ := Table.mem_iff_exists_find?.mp hmem
        rw [hlost mcId rd hrd]
        exact hready ⟨mcId, rd⟩ (Table.mem_entries_iff.mpr hrd)
      · rintro hall ⟨mcId, rd⟩ hmem
        have hrd := Table.mem_entries_iff.mp hmem
        rw [← hlost mcId rd hrd]
        exact hall mcId (Table.mem_of_find? hrd)
  | cli | take => exact hnone.symm

/-- The requests in the readers of a run come from one client. -/
theorem inv_of_run {m₀ : IntentSystem τ} (h₀ : Inv id m₀) (h : IsRun Step m₀ tr m) : Inv id m :=
  h.invariant h₀ fun _ _ _ hinv hstep => hinv.step hstep

/-- **Conservation.** The requests that have been written for a controller are those that it has
obeyed, those that are in its reader and those that have got lost. -/
theorem perm_of_run {m₀ : IntentSystem τ} (h₀ : m₀.IsInitial) (h : IsRun Step m₀ tr m) :
    ∀ mcId, ∀ rd ∈ m.readers.find? mcId,
      (tr.flatMap (calls mcId) ++
        (rd.untaken mcId ++ tr.flatMap (lost mcId)).filterMap CLIServer.intentTarget).Perm
      ((tr.flatMap (requests mcId)).filterMap CLIServer.intentTarget) := by
  obtain ⟨id, hinv₀⟩ := h₀.exists_inv
  refine h.traceInvariant
    (P := fun tr m => ∀ mcId, ∀ rd ∈ m.readers.find? mcId,
      (tr.flatMap (calls mcId) ++
        (rd.untaken mcId ++ tr.flatMap (lost mcId)).filterMap CLIServer.intentTarget).Perm
      ((tr.flatMap (requests mcId)).filterMap CLIServer.intentTarget)) ?_ ?_
  · intro mcId rd hrd
    have hnone : rd.untaken mcId = [] := by
      rw [IntentReader.untaken, (h₀.2.2 mcId rd hrd).2]
      rfl
    rw [hnone]
    exact List.Perm.refl _
  · intro tr m e m' hrun ih hstep mcId rd' hrd'
    obtain ⟨rd, hrd, hperm⟩ := hstep.perm (inv_of_run hinv₀ hrun) hrd'
    have hbefore := ih mcId rd hrd
    simp only [List.perm_iff_count, List.filterMap_append, List.count_append, List.flatMap_append,
      List.flatMap_singleton] at hperm hbefore ⊢
    intro target
    have hstep := hperm target
    have hrun := hbefore target
    omega

/-- A controller handles all its requests exactly when none gets lost. -/
theorem handled_iff_lost {m₀ : IntentSystem τ} (h₀ : m₀.IsInitial) (h : IsRun Step m₀ tr m) :
    Handled tr m ↔ ∀ t ∈ tr, ∀ mcId ∈ m.readers, lost mcId t = [] := by
  obtain ⟨id, hinv₀⟩ := h₀.exists_inv
  have hperm := perm_of_run h₀ h
  constructor
  · intro hhandled t ht mcId hmem
    obtain ⟨rd, hrd⟩ := Table.mem_iff_exists_find?.mp hmem
    have hlength := (hperm mcId rd hrd).length_eq.trans (hhandled mcId rd hrd).length_eq.symm
    simp only [List.filterMap_append, List.length_append] at hlength
    have htargets : (tr.flatMap (lost mcId)).filterMap CLIServer.intentTarget = [] := by
      rw [← List.length_eq_zero_iff]
      omega
    rw [List.eq_nil_iff_forall_not_mem]
    intro oir hoir
    obtain ⟨pre, hbefore, -⟩ := h.of_mem ht
    have hsome := (fromClient_of_mem_lost (inv_of_run hinv₀ hbefore) hoir).2
    have hnone := List.filterMap_eq_nil_iff.mp htargets oir (List.mem_flatMap.mpr ⟨t, ht, hoir⟩)
    rw [hnone] at hsome
    cases hsome
  · intro hlost mcId rd hrd
    have hnone : tr.flatMap (lost mcId) = [] :=
      List.flatMap_eq_nil_iff.mpr fun t ht => hlost t ht mcId (Table.mem_of_find? hrd)
    have hsame := hperm mcId rd hrd
    rwa [hnone, List.append_nil] at hsame

/-- The controllers of a run are those that it starts with. -/
theorem mem_readers_iff_of_run {m₀ : IntentSystem τ} (h : IsRun Step m₀ tr m) :
    ∀ t ∈ tr, mcId ∈ t.source.readers ↔ mcId ∈ m.readers := by
  refine h.traceInvariant (P := fun tr m => ∀ t ∈ tr, mcId ∈ t.source.readers ↔ mcId ∈ m.readers)
    (fun t ht => absurd ht List.not_mem_nil) ?_
  intro tr m e m' _ ih hstep t ht
  rw [hstep.mem_readers_iff]
  rcases List.mem_append.mp ht with ht | ht
  · exact ih t ht
  · obtain rfl := List.mem_singleton.mp ht
    exact Iff.rfl

end IntentSystem

/-- **The requests of an operator.** In every run of the client and any number of controllers, every
controller handles every request that is written for it, exactly when no controller has a request
for it in its reader at any time that the client writes one, for this controller or another one. -/
theorem handled_iff_of_intentRun {τ : Type} [TimePoint τ] {m : IntentSystem τ}
    {tr : List (Transition (IntentSystem τ) IntentSystem.Event)} (h : IsIntentRun tr m) :
    IntentSystem.Handled tr m ↔ ∀ t ∈ tr, t.source.Ready t.label := by
  obtain ⟨m₀, h₀, hrun⟩ := h
  obtain ⟨id, hinv₀⟩ := h₀.exists_inv
  rw [IntentSystem.handled_iff_lost h₀ hrun]
  refine forall₂_congr fun t ht => ?_
  obtain ⟨pre, hbefore, hstep⟩ := hrun.of_mem ht
  rw [hstep.ready_iff (IntentSystem.inv_of_run hinv₀ hbefore)]
  refine forall_congr' fun mcId => ?_
  rw [IntentSystem.mem_readers_iff_of_run hrun t ht]

/-- A client and two controllers. -/
def IntentSystem.twoControllers : IntentSystem ExactTime where
  session := ⟨{ deviceId := "cli" }, none⟩
  readers := ((∅ : Table Identity IntentReader).set
    "mc1" ⟨{ controller := { deviceId := "mc1" } }, ∅⟩).set
    "mc2" ⟨{ controller := { deviceId := "mc2" } }, ∅⟩

theorem IntentSystem.isInitial_twoControllers : twoControllers.IsInitial := by
  refine ⟨⟨"cli", rfl⟩, rfl, fun mcId rd hrd => ?_⟩
  simp only [twoControllers, Table.find?_set, Table.find?_empty] at hrd
  split_ifs at hrd with h₂ h₁
  · obtain rfl := Option.some.inj hrd
    exact ⟨h₂.symm, rfl⟩
  · obtain rfl := Option.some.inj hrd
    exact ⟨h₁.symm, rfl⟩
  · cases hrd

/-- The client finds two controllers, and the operator starts a device. -/
def IntentSystem.startEvents : List IntentSystem.Event :=
  CLISession.joinEvents.map .cli ++
    [.cli (.startStop "start load" ⟨1, ["mc1", "mc2"], fun _ => .failed⟩ 1 ["mc1", "mc2"])]

/-- A controller that takes its request before the client writes the next one. -/
theorem handled_of_take :
    ∃ (tr : List (Transition (IntentSystem ExactTime) IntentSystem.Event))
      (m : IntentSystem ExactTime), IsIntentRun tr m ∧
    tr.flatMap (IntentSystem.calls "mc1") = [("load", .alwaysOperate)] ∧
    tr.flatMap (IntentSystem.calls "mc2") = [("load", .alwaysOperate)] ∧
    IntentSystem.Handled tr m := by
  obtain ⟨tr, m, hrun, h₁, h₂, hready⟩ := exists_isRun_of_follow IntentSystem.step_of_next?
    (s := IntentSystem.twoControllers) (IntentSystem.startEvents ++
      [.write true, .take "mc1" true, .write true, .take "mc2" true])
    (P := fun tr _ => tr.flatMap (IntentSystem.calls "mc1") = [("load", .alwaysOperate)] ∧
      tr.flatMap (IntentSystem.calls "mc2") = [("load", .alwaysOperate)] ∧
      ∀ t ∈ tr, t.source.Ready t.label) (by decide +kernel)
  have h : IsIntentRun tr m := ⟨_, IntentSystem.isInitial_twoControllers, hrun⟩
  exact ⟨tr, m, h, h₁, h₂, (handled_iff_of_intentRun h).mpr hready⟩

/-- The request for one controller replaces the one for another controller. -/
theorem request_replaced :
    ∃ (tr : List (Transition (IntentSystem ExactTime) IntentSystem.Event))
      (m : IntentSystem ExactTime), IsIntentRun tr m ∧
    (tr.flatMap (IntentSystem.requests "mc1")).filterMap CLIServer.intentTarget =
      [("load", .alwaysOperate)] ∧
    tr.flatMap (IntentSystem.calls "mc1") = [] ∧
    (m.readers.find? "mc1").map (·.untaken "mc1") = some [] ∧
    ¬IntentSystem.Handled tr m := by
  obtain ⟨tr, m, hrun, h₁, h₂, h₃⟩ := exists_isRun_of_follow IntentSystem.step_of_next?
    (s := IntentSystem.twoControllers) (IntentSystem.startEvents ++
      [.write true, .write true, .take "mc1" true, .take "mc2" true])
    (P := fun tr m => (tr.flatMap (IntentSystem.requests "mc1")).filterMap
        CLIServer.intentTarget = [("load", .alwaysOperate)] ∧
      tr.flatMap (IntentSystem.calls "mc1") = [] ∧
      (m.readers.find? "mc1").map (·.untaken "mc1") = some []) (by decide +kernel)
  refine ⟨tr, m, ⟨_, IntentSystem.isInitial_twoControllers, hrun⟩, h₁, h₂, h₃, fun hhandled => ?_⟩
  obtain ⟨rd, hrd, huntaken⟩ := Option.map_eq_some_iff.mp h₃
  have hperm := hhandled "mc1" rd hrd
  rw [h₁, h₂, huntaken] at hperm
  exact absurd hperm.length_eq (by decide)

end TacticalMicrogrid
