import TacticalMicrogrid.Selection.Masters
import TacticalMicrogrid.StartStop.OperatorIntents
import TacticalMicrogrid.StartStop.SingleRequests

/-!
# A microgrid and its operator

The whole way of a command `start` or `stop`: the operator's session writes a request for each
controller that it addresses, one after another, every controller takes the requests that have
reached it, the master of the device sends an `EnergyStartStopRequest`, and the device obeys if it
has selected the sender. Around it the microgrid goes on, also between two writes of a command:
controllers come and go, devices select others, states of devices are on their way to the
controllers.

All controllers and devices get all requests and pick out their own. The requests of one instance
stay in their order. A reader keeps the last one of an instance only, so what is taken together has
one request of an instance at most, and a request gets lost if a later one replaces it before it is
taken; it gets lost as well if a write fails, or if the process that should take it is replaced.
What a device answers changes `pending_essr_` only; here any replies can reach a controller. The ids
of controllers are not empty.

## Main definitions

* `OperatedMicrogrid`, `OperatedMicrogrid.Label`, `OperatedMicrogrid.Step`.
* `OperatedMicrogrid.device`: a device with its level.
* `CLISession.asks`: what a command asks for.

## Main results

* `CLISession.requestsOf_eq`: the requests of a command.
* `OperatedMicrogrid.follows`: without its operator, it is a `ControlledMicrogrid`.
* `OperatedMicrogrid.IsOperatedRun.deviceId_eq`: the devices keep their ids.
* `OperatedMicrogrid.IsOperatedRun.consistent`: the requests on their way.
* `OperatedMicrogrid.Consistent.length_directives_le`: a controller is asked for one thing at a
  time.
* `ControlledMicrogrid.Step.find?_of_known`: a known device stays known.
-/

namespace TacticalMicrogrid

open TransitionSystem

/-! ### The requests of a command -/

/-- A command asks for a level that a device can have. -/
theorem CLIClient.esslFromOpt_ne_unknown {input : String} {opt : OperatorPriorityType}
    (h : CLIClient.startStopPriority input = some opt) : CLIServer.esslFromOpt opt ≠ .unknown := by
  rw [CLIClient.startStopPriority] at h
  generalize CLIClient.tolower (CLIClient.parse input).1 = op at h
  split at h
  · obtain rfl := Option.some.inj h
    decide
  · obtain rfl := Option.some.inj h
    decide
  · cases h

/-- What valid requests ask of a controller. -/
theorem CLIServer.directives_valid (x : Identity) (requests : List OperatorIntentRequest) :
    directives x (requests.map (⟨·, true⟩)) =
      (requests.filter (CLIClient.addressee · = x)).flatMap
        (directivesOf ·.desiredOperatorIntent) := by
  rw [directives, List.filter_map, List.flatMap_map]
  refine congrArg (List.flatMap _) (List.filter_congr fun oir _ => decide_eq_decide.mpr ?_)
  simp [IsRequestFor, CLIClient.addressee]

namespace CLISession

variable {τ : Type} [TimePoint τ] {s s' : CLISession τ} {e : Event}

/-- What a command asks for: the device, and the priority for it. -/
def asks : Event → Option (Identity × OperatorPriorityType)
  | .startStop input _ _ _ =>
    (CLIClient.startStopPriority input).bind fun opt =>
      (CLIClient.parse input).2.map fun pdId => (pdId, opt)
  | _ => none

/-- A command asks for a device with an id, and for a level that a device can have. -/
theorem of_asks {pdId : Identity} {opt : OperatorPriorityType} (h : asks e = some (pdId, opt)) :
    pdId ≠ "" ∧ CLIServer.esslFromOpt opt ≠ .unknown := by
  cases e with
  | startStop input col now order =>
    simp only [asks] at h
    obtain ⟨opt', hopt, hpdId⟩ := Option.bind_eq_some_iff.mp h
    obtain ⟨pdId', hpdId', heq⟩ := Option.map_eq_some_iff.mp hpdId
    obtain ⟨rfl, rfl⟩ := Prod.mk.inj heq
    exact ⟨CLIClient.parse_ne_empty hpdId', CLIClient.esslFromOpt_ne_unknown hopt⟩
  | deviceInfo | heartbeat | listPd | connectPd | answer | endConnectPd => cases h

/-- A command writes one request for each controller that it addresses, and nothing else writes
requests. -/
theorem requestsOf_eq (h : s.Step e s') : ∃ addressed : List Identity, addressed.Nodup ∧
    s.requestsOf e = (asks e).toList.flatMap fun ask =>
      addressed.map (s.client.intentRequest ask.1 ask.2) := by
  cases e with
  | startStop input col now order =>
    obtain ⟨⟨-, hcol, horder⟩, -⟩ := h
    obtain ⟨t, ht⟩ := s.client.collectIfEmpty_eq hcol
    have hnodup : order.Nodup := horder.nodup_iff.mpr (AList.keys_nodup _)
    refine ⟨(order.takeWhile (· ∈ s.client.controllers)).filter (s.client.Available now ·),
      (hnodup.sublist (List.takeWhile_sublist _)).filter _, ?_⟩
    simp only [requestsOf, asks]
    cases CLIClient.startStopPriority input with
    | none => rfl
    | some opt =>
      simp only [CLIClient.sendStartStopRequest, ht, Option.bind_some]
      cases (CLIClient.parse input).2 with
      | none => rfl
      | some pdId =>
        simp only [CLIClient.addressControllers_eq, Option.map_some, Option.toList_some,
          List.flatMap_singleton]
        rfl
  | deviceInfo | heartbeat | listPd | connectPd | answer | endConnectPd =>
    exact ⟨[], List.nodup_nil, rfl⟩

/-- A command writes requests of its client, each of which asks a controller for one thing at
most. -/
theorem of_mem_requestsOf (h : s.Step e s') {oir : OperatorIntentRequest}
    (hoir : oir ∈ s.requestsOf e) : oir.requestId = ⟨s.client.deviceId⟩ ∧
      (CLIServer.directivesOf oir.desiredOperatorIntent).length ≤ 1 := by
  obtain ⟨addressed, -, heq⟩ := requestsOf_eq h
  rw [heq] at hoir
  obtain ⟨ask, -, hoir⟩ := List.mem_flatMap.mp hoir
  obtain ⟨mcId, -, rfl⟩ := List.mem_map.mp hoir
  refine ⟨rfl, ?_⟩
  rw [CLIServer.directivesOf, List.length_map]
  exact List.length_filter_le _ _

/-- What is asked of a controller is what the command asks for, if it addresses the controller. -/
theorem directives_requestsOf (h : s.Step e s') (x : Identity) :
    CLIServer.directives x ((s.requestsOf e).map (⟨·, true⟩)) =
      if x ∈ (s.requestsOf e).map CLIClient.addressee then (asks e).toList else [] := by
  obtain ⟨addressed, hnodup, heq⟩ := requestsOf_eq h
  rw [CLIServer.directives_valid, heq]
  cases hask : asks e with
  | none => simp
  | some ask =>
    rcases ask with ⟨pdId, opt⟩
    have haddressee : (addressed.map (s.client.intentRequest pdId opt)).map CLIClient.addressee =
        addressed := by
      rw [List.map_map]
      exact List.map_id addressed
    rw [Option.toList_some, List.flatMap_singleton, CLIClient.filter_addressee_map hnodup,
      haddressee]
    split_ifs with hx
    · have hne := (of_asks hask).1
      simp [CLIServer.directivesOf, CLIClient.intentRequest, hne]
    · rfl

end CLISession

/-! ### The system -/

/-- The operator's session, the requests that a running command has still to write, the microgrid
with its controllers, the requests that are on their way to each controller and to each device, and
the levels of the devices. -/
structure OperatedMicrogrid (τ ι : Type) where
  session : CLISession τ
  pending : List OperatorIntentRequest
  microgrid : ControlledMicrogrid τ ι
  intents : Identity → List (Sample OperatorIntentRequest)
  requests : ι → List (Sample EnergyStartStopRequest)
  levels : ι → EnergyStartStopLevel

namespace OperatedMicrogrid

variable {τ ι : Type}

/-- What can happen: an event of the session; the next write of a command; a step of the microgrid;
a controller or a device takes requests; a request gets lost; at a device, the request after the
first `n` is overtaken by the next one. -/
inductive Label (ι : Type)
  | cli (e : CLISession.Event)
  | write (ok : Bool)
  | microgrid (l : ControlledMicrogrid.Label ι)
  | intents (x : Identity) (data : List (Sample OperatorIntentRequest)) (writeOk : Bool)
  | intentLost (x : Identity) (s : Sample OperatorIntentRequest)
  | requests (i : ι) (data : List (Sample EnergyStartStopRequest))
  | requestLost (i : ι) (s : Sample EnergyStartStopRequest)
  | overtake (i : ι) (n : ℕ)

/-- The step of the microgrid with its controllers. -/
def Label.controlledLabel : Label ι → Option (ControlledMicrogrid.Label ι)
  | .microgrid l => some l
  | .intents x data writeOk => some (.operatorIntents x data writeOk)
  | _ => none

/-- The requests of operators are taken in a step of their own. -/
def TakesIntents : ControlledMicrogrid.Label ι → Prop
  | .operatorIntents .. => True
  | _ => False

/-- A device with its level. -/
def device (w : OperatedMicrogrid τ ι) (i : ι) : PowerDevice τ where
  deviceId := w.microgrid.deviceId i
  controllerSelector := (w.microgrid.grid.devices i).selector
  essl := w.levels i

/-- What a controller sends when it takes requests. -/
def sentBy (w : OperatedMicrogrid τ ι) (x : Identity) (data : List (Sample OperatorIntentRequest))
    (writeOk : Bool) : List (Sample EnergyStartStopRequest) :=
  ((w.microgrid.servers x).oirOnDataAvailable data writeOk).2.map (⟨·, true⟩)

/-- The system after a controller has taken requests. -/
def afterIntents (w : OperatedMicrogrid τ ι) (x : Identity)
    (data rest : List (Sample OperatorIntentRequest)) (writeOk : Bool) : OperatedMicrogrid τ ι :=
  { w with
    microgrid := w.microgrid.withServer x
      ((w.microgrid.servers x).oirOnDataAvailable data writeOk).1
    intents := Function.update w.intents x rest
    requests := fun i => w.requests i ++ w.sentBy x data writeOk }

/-- The system after a write of a command. -/
def afterWrite (w : OperatedMicrogrid τ ι) (oir : OperatorIntentRequest)
    (rest : List OperatorIntentRequest) (ok : Bool) : OperatedMicrogrid τ ι :=
  { w with
    pending := rest
    intents := fun x => if ok then w.intents x ++ [⟨oir, true⟩] else w.intents x }

variable [DecidableEq ι]

instance (x : Identity) : (l : ControlledMicrogrid.Label ι) → Decidable (l.Restarts x)
  | .grid l _ => inferInstanceAs (Decidable (l.action = .restart x))
  | .deviceInfo .. | .activeController .. | .replaced .. | .operatorIntents .. | .replies .. =>
    isFalse id

instance : (l : ControlledMicrogrid.Label ι) → Decidable (TakesIntents l)
  | .operatorIntents .. => isTrue trivial
  | .grid .. | .deviceInfo .. | .activeController .. | .replaced .. | .replies .. => isFalse id

/-- The system after a step of the microgrid. A new process of a controller gets none of the
requests that were on their way. -/
def afterMicrogrid (w : OperatedMicrogrid τ ι) (l : ControlledMicrogrid.Label ι)
    (c : ControlledMicrogrid τ ι) : OperatedMicrogrid τ ι :=
  { w with
    microgrid := c
    intents := fun x => if l.Restarts x then [] else w.intents x }

/-- The system after a device has taken requests. -/
def afterRequests (w : OperatedMicrogrid τ ι) (i : ι)
    (data rest : List (Sample EnergyStartStopRequest)) : OperatedMicrogrid τ ι :=
  { w with
    requests := Function.update w.requests i rest
    levels := Function.update w.levels i ((w.device i).essrOnDataAvailable data).1.essl }

variable [TimePoint τ]

/-- The system after an event of the session. -/
def afterCli (w : OperatedMicrogrid τ ι) (e : CLISession.Event) : OperatedMicrogrid τ ι :=
  { w with session := w.session.after e, pending := w.session.requestsOf e }

/-- The steps of a microgrid with an operator. -/
inductive Step (w : OperatedMicrogrid τ ι) : Label ι → OperatedMicrogrid τ ι → Prop
  | cli {e : CLISession.Event} (hpending : w.pending = []) (henabled : w.session.Enabled e) :
      Step w (.cli e) (w.afterCli e)
  | write {oir : OperatorIntentRequest} {rest : List OperatorIntentRequest} (ok : Bool)
      (hpending : w.pending = oir :: rest) : Step w (.write ok) (w.afterWrite oir rest ok)
  | microgrid {l : ControlledMicrogrid.Label ι} {c : ControlledMicrogrid τ ι} (hl : ¬TakesIntents l)
      (hstep : ControlledMicrogrid.Step w.microgrid l c) :
      Step w (.microgrid l) (w.afterMicrogrid l c)
  | intents {x : Identity} {data rest : List (Sample OperatorIntentRequest)} (writeOk : Bool)
      (hx : x ≠ "") (hdata : w.intents x = data ++ rest)
      (hkeyed : (data.map (·.data.requestId)).Nodup) :
      Step w (.intents x data writeOk) (w.afterIntents x data rest writeOk)
  | intentLost {x : Identity} {s : Sample OperatorIntentRequest} (hs : s ∈ w.intents x) :
      Step w (.intentLost x s)
        { w with intents := Function.update w.intents x ((w.intents x).erase s) }
  | requests {i : ι} {data rest : List (Sample EnergyStartStopRequest)}
      (hdata : w.requests i = data ++ rest) (hkeyed : (data.map (·.data.requestId)).Nodup) :
      Step w (.requests i data) (w.afterRequests i data rest)
  | requestLost {i : ι} {s : Sample EnergyStartStopRequest} (hs : s ∈ w.requests i) :
      Step w (.requestLost i s)
        { w with requests := Function.update w.requests i ((w.requests i).erase s) }
  | overtake {i : ι} {before after : List (Sample EnergyStartStopRequest)}
      {s s' : Sample EnergyStartStopRequest} (hrequests : w.requests i = before ++ s :: s' :: after)
      (hne : s.data.requestId ≠ s'.data.requestId) :
      Step w (.overtake i before.length)
        { w with requests := Function.update w.requests i (before ++ s' :: s :: after) }

/-- A new session, and a new microgrid with devices that are operational. -/
def init (cliId : Identity) (deviceId : ι → Identity) (callbacks : ControllerCallbacks)
    (clock : ℤ) : OperatedMicrogrid τ ι where
  session := ⟨{ deviceId := cliId }, none⟩
  pending := []
  microgrid := .init deviceId callbacks clock
  intents _ := []
  requests _ := []
  levels _ := .operational

/-- The transitions of a run. -/
abbrev Trace (τ ι : Type) := List (Transition (OperatedMicrogrid τ ι) (Label ι))

/-- `tr` is a run of a new microgrid with an operator, which ends in `w`. -/
def IsOperatedRun (tr : Trace τ ι) (w : OperatedMicrogrid τ ι) : Prop :=
  ∃ cliId deviceId callbacks clock, IsRun Step (init cliId deviceId callbacks clock) tr w

/-! ### Computed steps -/

/-- The step that a label stands for, if it can be taken. -/
def next? (w : OperatedMicrogrid τ ι) : Label ι → Option (Label ι × OperatedMicrogrid τ ι)
  | .cli e =>
    if w.pending = [] ∧ w.session.Enabled e then some (.cli e, w.afterCli e) else none
  | .write ok =>
    match w.pending with
    | oir :: rest => some (.write ok, w.afterWrite oir rest ok)
    | [] => none
  | .microgrid l => (ControlledMicrogrid.next? w.microgrid l).bind fun r =>
      if TakesIntents r.1 then none else some (.microgrid r.1, w.afterMicrogrid r.1 r.2)
  | .intents x data writeOk =>
    if x ≠ "" ∧ data <+: w.intents x ∧ (data.map (·.data.requestId)).Nodup then
      some (.intents x data writeOk,
        w.afterIntents x data ((w.intents x).drop data.length) writeOk)
    else none
  | .intentLost x s =>
    if s ∈ w.intents x then
      some (.intentLost x s,
        { w with intents := Function.update w.intents x ((w.intents x).erase s) })
    else none
  | .requests i data =>
    if data <+: w.requests i ∧ (data.map (·.data.requestId)).Nodup then
      some (.requests i data, w.afterRequests i data ((w.requests i).drop data.length))
    else none
  | .requestLost i s =>
    if s ∈ w.requests i then
      some (.requestLost i s,
        { w with requests := Function.update w.requests i ((w.requests i).erase s) })
    else none
  | .overtake i n =>
    match (w.requests i).drop n with
    | s :: s' :: after =>
      if s.data.requestId ≠ s'.data.requestId then
        some (.overtake i n, { w with
          requests := Function.update w.requests i ((w.requests i).take n ++ s' :: s :: after) })
      else none
    | _ => none

theorem step_of_next? (w : OperatedMicrogrid τ ι) (l l' : Label ι) (w' : OperatedMicrogrid τ ι)
    (h : next? w l = some (l', w')) : Step w l' w' := by
  have hdrop : ∀ {α : Type} {data l : List α}, data <+: l → l = data ++ l.drop data.length := by
    rintro α data l ⟨rest, rfl⟩
    rw [List.drop_left]
  cases l with
  | cli e =>
    obtain ⟨⟨hpending, henabled⟩, rfl, rfl⟩ := of_guard_eq_some h
    exact .cli hpending henabled
  | write ok =>
    simp only [next?] at h
    split at h
    · next hpending =>
      obtain ⟨rfl, rfl⟩ := Prod.mk.inj (Option.some.inj h)
      exact .write ok hpending
    · cases h
  | microgrid l =>
    obtain ⟨⟨l'', c⟩, hnext, h⟩ := Option.bind_eq_some_iff.mp h
    simp only at h
    split_ifs at h with hl
    obtain ⟨rfl, rfl⟩ := Prod.mk.inj (Option.some.inj h)
    exact .microgrid hl (ControlledMicrogrid.step_of_next? w.microgrid l l'' c hnext)
  | intents x data writeOk =>
    obtain ⟨⟨hx, hdata, hkeyed⟩, rfl, rfl⟩ := of_guard_eq_some h
    exact .intents writeOk hx (hdrop hdata) hkeyed
  | intentLost x s =>
    obtain ⟨hs, rfl, rfl⟩ := of_guard_eq_some h
    exact .intentLost hs
  | requests i data =>
    obtain ⟨⟨hdata, hkeyed⟩, rfl, rfl⟩ := of_guard_eq_some h
    exact .requests (hdrop hdata) hkeyed
  | requestLost i s =>
    obtain ⟨hs, rfl, rfl⟩ := of_guard_eq_some h
    exact .requestLost hs
  | overtake i n =>
    simp only [next?] at h
    split at h
    · next s s' after hdrop' =>
      split_ifs at h with hne
      obtain ⟨rfl, rfl⟩ := Prod.mk.inj (Option.some.inj h)
      have hrequests : w.requests i = (w.requests i).take n ++ s :: s' :: after := by
        rw [← hdrop', List.take_append_drop]
      have hlength : ((w.requests i).take n).length = n := by
        refine List.length_take_of_le (le_of_lt ?_)
        by_contra hlong
        rw [List.drop_eq_nil_of_le (not_lt.mp hlong)] at hdrop'
        cases hdrop'
      have hstep := Step.overtake hrequests hne
      rwa [hlength] at hstep
    · cases h

/-! ### The microgrid in a run -/

/-- The microgrid without its operator. -/
def controlled : Component (OperatedMicrogrid τ ι) (Label ι) (ControlledMicrogrid τ ι)
    (ControlledMicrogrid.Label ι) where
  state w := w.microgrid
  label := Label.controlledLabel

section Runs

variable {w w' : OperatedMicrogrid τ ι} {l : Label ι}
  {tr tr' : Trace τ ι}

theorem follows :
    (controlled (τ := τ) (ι := ι)).Follows Step ControlledMicrogrid.Step where
  moves w l w' k hstep hk := by
    cases hstep with
    | microgrid hl hstep =>
      obtain rfl := Option.some.inj hk
      exact hstep
    | @intents x data rest writeOk hx hdata =>
      obtain rfl := Option.some.inj hk
      exact .operatorIntents x data writeOk
    | cli | write | intentLost | requests | requestLost | overtake => cases hk
  stays w l w' hstep hnone := by
    cases hstep with
    | microgrid | intents => cases hnone
    | cli | write | intentLost | requests | requestLost | overtake => rfl

theorem IsOperatedRun.controlledRun (h : IsOperatedRun tr w) :
    ControlledMicrogrid.IsControlledRun (controlled.trace tr) w.microgrid := by
  obtain ⟨cliId, deviceId, callbacks, clock, hrun⟩ := h
  exact ⟨deviceId, callbacks, clock, hrun.component follows⟩

theorem IsOperatedRun.append (h : IsOperatedRun tr w) (h' : IsRun Step w tr' w') :
    IsOperatedRun (tr ++ tr') w' := by
  obtain ⟨cliId, deviceId, callbacks, clock, hrun⟩ := h
  exact ⟨cliId, deviceId, callbacks, clock, hrun.append h'⟩

/-- The devices keep their ids. -/
theorem IsOperatedRun.deviceId_eq (h : IsOperatedRun tr w) (hstep : Step w l w') (i : ι) :
    w'.microgrid.deviceId i = w.microgrid.deviceId i := by
  cases hl : controlled.label l with
  | none => exact congrArg (·.deviceId i) (follows.stays w l w' hstep hl)
  | some k => exact (follows.moves w l w' k hstep hl).deviceId_eq h.controlledRun i

/-- A request on its way to a device was so before, or a controller sends it in this step. -/
theorem Step.mem_requests (hstep : Step w l w') {i : ι} {s : Sample EnergyStartStopRequest}
    (hs : s ∈ w'.requests i) : s ∈ w.requests i ∨ ∃ x ≠ "", ∃ data writeOk,
      ∃ essr ∈ ((w.microgrid.servers x).oirOnDataAvailable data writeOk).2, s = ⟨essr, true⟩ := by
  have hupdate : ∀ {j : ι} {new : List (Sample EnergyStartStopRequest)}, new ⊆ w.requests j →
      s ∈ Function.update w.requests j new i → s ∈ w.requests i := by
    intro j new hsub hs
    rcases eq_or_ne i j with rfl | hne
    · rw [Function.update_self] at hs
      exact hsub hs
    · rwa [Function.update_of_ne hne] at hs
  cases hstep with
  | cli | write | microgrid | intentLost => exact Or.inl hs
  | @intents x data rest writeOk hx hdata =>
    refine (List.mem_append.mp hs).imp_right fun hs => ?_
    obtain ⟨essr, hessr, rfl⟩ := List.mem_map.mp hs
    exact ⟨x, hx, data, writeOk, essr, hessr, rfl⟩
  | @requests j data rest hdata =>
    exact Or.inl (hupdate (hdata ▸ List.subset_append_right data rest) hs)
  | @requestLost j s' hs' => exact Or.inl (hupdate List.erase_subset hs)
  | @overtake j before after s₁ s₂ hrequests =>
    refine Or.inl (hupdate (fun s hs => ?_) hs)
    rw [hrequests]
    exact (List.Perm.append_left before (.swap s₁ s₂ after)).mem_iff.mp hs

/-- A request of the session, which asks a controller for one thing at most. -/
def IsIntent (w : OperatedMicrogrid τ ι) (oir : OperatorIntentRequest) : Prop :=
  oir.requestId = ⟨w.session.client.deviceId⟩ ∧
    (CLIServer.directivesOf oir.desiredOperatorIntent).length ≤ 1

/-- The requests for the controllers are those of the session; the requests for a device come from
controllers with ids. -/
structure Consistent (w : OperatedMicrogrid τ ι) : Prop where
  pending : ∀ oir ∈ w.pending, w.IsIntent oir
  intents : ∀ x, ∀ s ∈ w.intents x, w.IsIntent s.data
  sender : ∀ i, ∀ s ∈ w.requests i, s.data.requestId.requestingDeviceId ≠ ""
  config : ∀ i, ∀ s ∈ w.requests i, s.data.requestId.config = .active

/-- A request on its way to a controller was so before, or the session writes it in this step. -/
theorem Consistent.mem_intents (h : Consistent w) (hstep : Step w l w') {x : Identity}
    {s : Sample OperatorIntentRequest} (hs : s ∈ w'.intents x) : w.IsIntent s.data := by
  have hupdate : ∀ {y : Identity} {new : List (Sample OperatorIntentRequest)},
      new ⊆ w.intents y → s ∈ Function.update w.intents y new x → w.IsIntent s.data := by
    intro y new hsub hs
    rcases eq_or_ne x y with rfl | hne
    · rw [Function.update_self] at hs
      exact h.intents x s (hsub hs)
    · rw [Function.update_of_ne hne] at hs
      exact h.intents x s hs
  cases hstep with
  | cli | requests | requestLost | overtake => exact h.intents x s hs
  | @write oir rest ok hpending =>
    change s ∈ (if ok then w.intents x ++ [⟨oir, true⟩] else w.intents x) at hs
    split_ifs at hs
    · rcases List.mem_append.mp hs with hs | hs
      · exact h.intents x s hs
      · obtain rfl := List.mem_singleton.mp hs
        exact h.pending oir (hpending ▸ List.mem_cons_self)
    · exact h.intents x s hs
  | @microgrid k c =>
    change s ∈ (if k.Restarts x then [] else w.intents x) at hs
    split_ifs at hs
    · cases hs
    · exact h.intents x s hs
  | @intents y data rest writeOk hy hdata =>
    exact hupdate (hdata ▸ List.subset_append_right data rest) hs
  | @intentLost y s' hs' => exact hupdate List.erase_subset hs

theorem Consistent.step (h : Consistent w) (hrun : IsOperatedRun tr w) (hstep : Step w l w') :
    Consistent w' := by
  have hclient : ∀ oir, w.IsIntent oir → w'.IsIntent oir := by
    intro oir hoir
    cases hstep with
    | @cli e hpending henabled =>
      have hmove : w.session.Step e (w.session.after e) := ⟨henabled, rfl⟩
      refine ⟨hoir.1.trans (congrArg GridRequest.mk hmove.deviceId_eq.symm), hoir.2⟩
    | write | microgrid | intents | intentLost | requests | requestLost | overtake => exact hoir
  refine ⟨fun oir hoir => hclient oir ?_, fun x s hs => hclient s.data (h.mem_intents hstep hs),
    fun i s hs => ?_, fun i s hs => ?_⟩
  · cases hstep with
    | cli hpending henabled => exact CLISession.of_mem_requestsOf ⟨henabled, rfl⟩ hoir
    | write ok hpending => exact h.pending oir (hpending ▸ List.mem_cons_of_mem _ hoir)
    | microgrid | intents | intentLost | requests | requestLost | overtake =>
      exact h.pending oir hoir
  · rcases hstep.mem_requests hs with hs | ⟨x, hx, data, writeOk, essr, hessr, rfl⟩
    · exact h.sender i s hs
    · change essr.requestId.requestingDeviceId ≠ ""
      rwa [CLIServer.sender_of_mem_oirOnDataAvailable hessr, hrun.controlledRun.consistent.server]
  · rcases hstep.mem_requests hs with hs | ⟨x, hx, data, writeOk, essr, hessr, rfl⟩
    · exact h.config i s hs
    · exact CLIServer.config_of_mem_oirOnDataAvailable hessr

theorem IsOperatedRun.consistent (h : IsOperatedRun tr w) : Consistent w := by
  obtain ⟨cliId, deviceId, callbacks, clock, hrun⟩ := h
  refine hrun.traceInvariant (P := fun _ w => Consistent w) ?_
    fun tr w l w' hrun hw hstep => hw.step ⟨cliId, deviceId, callbacks, clock, hrun⟩ hstep
  refine ⟨fun oir hoir => ?_, fun x s hs => ?_, fun i s hs => ?_, fun i s hs => ?_⟩
  · cases hoir
  · cases hs
  · cases hs
  · cases hs

omit [DecidableEq ι] [TimePoint τ] in
/-- All requests of the session are of one instance, so a controller takes one of them at a time. -/
theorem Consistent.length_directives_le (h : Consistent w) {x : Identity}
    {data rest : List (Sample OperatorIntentRequest)} (hdata : w.intents x = data ++ rest)
    (hkeyed : (data.map (·.data.requestId)).Nodup) : (CLIServer.directives x data).length ≤ 1 := by
  have hintent : ∀ s ∈ data, w.IsIntent s.data := fun s hs =>
    h.intents x s (hdata ▸ List.mem_append_left rest hs)
  have hone := KeepLast.length_le_one hkeyed fun s hs s' hs' =>
    (hintent s hs).1.trans (hintent s' hs').1.symm
  rcases data with _ | ⟨s, _ | ⟨s', data⟩⟩
  · exact Nat.zero_le 1
  · rw [CLIServer.directives, List.filter_singleton]
    cases decide (CLIServer.IsRequestFor x s) with
    | true =>
      rw [cond_true, List.flatMap_singleton]
      exact (hintent s List.mem_cons_self).2
    | false => exact Nat.zero_le 1
  · simp at hone

end Runs

end OperatedMicrogrid

/-! ### Known devices -/

namespace ControlledMicrogrid

variable {τ ι : Type} [TimePoint τ] [DecidableEq ι] {c c' : ControlledMicrogrid τ ι} {l : Label ι}
  {x : Identity} {i : ι} {tr : Trace τ ι}

/-- A known device stays known, with its level, if the process of the controller goes on and takes
no requests; its master stays, or is the one that a state on its way names. -/
theorem Step.find?_of_known (hstep : Step c l c') (hl : ¬OperatedMicrogrid.TakesIntents l)
    (hr : ¬l.Restarts x) {d : Identity} {pd : PowerDeviceInfo}
    (hpd : (c.servers x).controller.powerDevices.find? d = some pd) :
    ∃ pd', (c'.servers x).controller.powerDevices.find? d = some pd' ∧ pd'.essl = pd.essl ∧
      (pd'.masterId = pd.masterId ∨
        ∃ j, ∃ s ∈ c.states x j, s.data.deviceId = d ∧ pd'.masterId = s.data.masterId) := by
  cases hstep with
  | @grid k g writeOk hgrid =>
    have hr : ¬k.action = .restart x := hr
    rw [servers_afterGrid, if_neg hr]
    exact ⟨pd, hpd, rfl, Or.inl rfl⟩
  | deviceInfo y di =>
    rcases eq_or_ne x y with rfl | hne
    · refine ⟨pd, ?_, rfl, Or.inl rfl⟩
      rw [servers_withServer_self, Controller.deviceInfoCb]
      split_ifs
      · exact hpd
      · rw [Table.find?_insertNew]
        split_ifs with hd
        · rw [← hd, hpd]
          rfl
        · exact hpd
      · exact hpd
    · rw [servers_withServer_of_ne _ hne]
      exact ⟨pd, hpd, rfl, Or.inl rfl⟩
  | @activeController y j s rest hstates =>
    rcases eq_or_ne x y with rfl | hne
    · rw [servers_withServer_self, Controller.find?_gotActiveController, hpd]
      split_ifs with hd
      · exact ⟨_, rfl, rfl, Or.inr ⟨j, s, hstates ▸ List.mem_cons_self, hd.2, rfl⟩⟩
      · exact ⟨pd, rfl, rfl, Or.inl rfl⟩
    · rw [servers_withServer_of_ne _ hne]
      exact ⟨pd, hpd, rfl, Or.inl rfl⟩
  | replaced => exact ⟨pd, hpd, rfl, Or.inl rfl⟩
  | operatorIntents => exact absurd trivial hl
  | replies y data =>
    rcases eq_or_ne x y with rfl | hne
    · rw [servers_withServer_self, CLIServer.controller_replyOnDataAvailable]
      exact ⟨pd, hpd, rfl, Or.inl rfl⟩
    · rw [servers_withServer_of_ne _ hne]
      exact ⟨pd, hpd, rfl, Or.inl rfl⟩

/-- A state that is on its way to the process of a controller after a step was so before, or it is
the one that the device has published in the step. -/
theorem Step.states_cases (hstep : Step c l c') (hrun : IsControlledRun tr c)
    (hr : ¬l.Restarts x) {s : Sample ActiveMicrogridControllerState} (hs : s ∈ c'.states x i) :
    s ∈ c.states x i ∨ s = c.stateOf i (c'.grid.devices i).selector.selected := by
  cases hstep with
  | @grid k g writeOk hgrid =>
    have hr : ¬k.action = .restart x := hr
    rw [states_afterGrid, if_neg hr] at hs
    refine (List.mem_append.mp hs).imp_right fun hs => ?_
    have hs := mem_publishedIn hs
    rcases (written_cases hrun.gridRun hgrid i).2 with ⟨hnone, -⟩ | hsome
    · rw [hnone] at hs
      cases hs
    · rw [hsome] at hs
      exact List.mem_singleton.mp hs
  | @activeController y j s' rest hstates | @replaced y j s' rest hstates hlater =>
    change s ∈ (if x = y ∧ i = j then rest else c.states x i) at hs
    split_ifs at hs with hown
    · obtain ⟨rfl, rfl⟩ := hown
      exact Or.inl (hstates ▸ List.mem_cons_of_mem s' hs)
    · exact Or.inl hs
  | deviceInfo | operatorIntents | replies => exact Or.inl hs

omit [DecidableEq ι] [TimePoint τ] in
/-- A controller that knows a device drops no state of it. -/
theorem not_hasMissed_snoc (h : ¬HasMissed x i tr) (hknown : c.view x i ≠ none) :
    ¬HasMissed x i (tr ++ [⟨c, l, c'⟩]) := by
  rw [HasMissed, since_snoc, not_or]
  refine ⟨fun hmiss => ?_, fun hold => h hold.1⟩
  cases l with
  | activeController => exact hknown hmiss.2
  | grid | deviceInfo | replaced | operatorIntents | replies => exact hmiss

/-- A controller that has taken all states of a device since it knows it has recorded the controller
that the device has selected, if the last state has been published. -/
theorem IsControlledRun.view_eq (h : IsControlledRun tr c)
    (hunique : ∀ j, c.deviceId j = c.deviceId i → j = i) (hmissed : ¬HasMissed x i tr)
    (hwritten : ¬Unwritten i tr) (hquiet : c.states x i = [])
    (hsel : (c.grid.devices i).selector.selected ≠ "") :
    c.view x i = some (some (c.grid.devices i).selector.selected) := by
  have hmaster := h.master_eq_selected hwritten hsel
  refine (((h.mirrors hunique x).2 hmissed hquiet).resolve_left fun hnone => ?_).trans
    (congrArg some hmaster)
  rw [master, hnone] at hmaster
  cases hmaster

end ControlledMicrogrid

end TacticalMicrogrid
