import TacticalMicrogrid.Common.TimerHandler.KeyReuse

/-!
# Timers of one event type

The key of a timer is made of the id that the reactor returns and the name of the event type; the
name of the timer is not part of it. When the callback of a one-shot timer schedules another timer
of the same event type, and the reactor returns the id of the one that has fired, both have the same
key. `handle_timeout` then erases the entry of the new timer, which stays active and on the queue,
and whose timeout finds a null pointer.

The reactor and its upcalls are those of `TacticalMicrogrid.Common.TimerHandler.KeyReuse`, but a
callback works on any timers other than the one that has fired, and event types may share a name.

## Main definitions

* `TimerRef.IsSibling`: another timer whose event type has the same name.
* `TimerHandler.leftId`: the id under which a callback leaves a timer scheduled.
* `TimerHandler.IsSiblingRun`.
* `TimerHandler.KeepsSiblings`, `TimerHandler.FindsTimer`: an upcall keeps the siblings that its
  callback schedules, and finds its timer.
* `TimerHandler.AgreesBut`: the handler without the timer that has fired.

## Main results

* `TimerHandler.AgreesBut.perform`: a callback runs as if the timer that has fired were retired.
* `TimerHandler.id_anyTimerFired`: the ids of the timers after a callback.
* `TimerHandler.keepsSiblings_iff`: when the timers that callbacks schedule stay registered.
-/

namespace TacticalMicrogrid

open TransitionSystem

/-- Another timer whose event type has the same name, as all other timers of the event type. -/
def TimerRef.IsSibling {E : Type} [EventTypes E] (r f : TimerRef E) : Prop :=
  r ≠ f ∧ EventTypes.name r.eventType = EventTypes.name f.eventType

namespace TimerHandler

variable {E : Type} [DecidableEq E]

/-! ### Ids after a callback -/

/-- The id of a timer after an operation; an inactive timer has the null id. -/
def Op.idAfter (r : TimerRef E) (id : ℕ) : Op E → ℕ
  | .schedule r' id' | .scheduleWith r' _ _ id' | .reschedule r' id' => if r = r' then id' else id
  | .cancel r' => if r = r' then nullTimerId else id
  | .cancelAll => nullTimerId

/-- The id that the reactor has returned for a timer that the callback schedules and does not cancel
afterwards; the null id if there is none. -/
def leftId (callback : List (Op E)) (r : TimerRef E) : ℕ :=
  callback.foldl (Op.idAfter r) nullTimerId

variable [EventTypes E]

section Ids

variable {h h' : TimerHandler E} {r : TimerRef E} {now : ℤ} {P : TimerRef E → Prop}

omit [DecidableEq E] [EventTypes E] in
theorem id_of_not_active {t : KeyedTimer} (hidle : t.active = false) : t.id = nullTimerId := by
  simpa [KeyedTimer.active] using hidle

theorem id_perform {op : Op E} (hop : op.On P) (hok : h.perform now op = .ok h') :
    (h'.getTimer r).id = op.idAfter r (h.getTimer r).id := by
  have harm : ∀ (g : TimerHandler E) (r' : TimerRef E) (id : ℕ),
      ((g.arm r' now id).getTimer r).id = if r = r' then id else (g.getTimer r).id := by
    intro g r' id
    rw [getTimer_arm]
    split_ifs <;> rfl
  cases op with
  | schedule r' id =>
    obtain ⟨-, rfl⟩ := schedule_eq_ok.mp hok
    exact harm h r' id
  | scheduleWith r' period delay id =>
    obtain ⟨-, rfl⟩ := scheduleWith_eq_ok.mp hok
    rw [harm, Op.idAfter, getTimer_configure]
    split_ifs <;> rfl
  | cancel r' =>
    obtain rfl := Except.ok.inj hok
    rw [Op.idAfter]
    split_ifs with heq
    · rw [heq]
      exact id_of_not_active active_getTimer_cancel
    · rw [getTimer_cancel_of_ne heq]
  | reschedule r' id =>
    obtain rfl := reschedule_eq_ok.mp hok
    rw [getTimer_mayFireFrom, harm, Op.idAfter]
    split_ifs with heq
    · rfl
    · rw [getTimer_cancel_of_ne heq]
  | cancelAll => exact hop.elim

/-- The id of a timer after a callback that has returned. -/
theorem id_anyTimerFired {callback : List (Op E)} (hop : ∀ op ∈ callback, op.On P)
    (hreturns : anyTimerFired now h callback = (h', true)) :
    (h'.getTimer r).id = callback.foldl (Op.idAfter r) (h.getTimer r).id :=
  foldl_of_returns (f := fun g => (g.getTimer r).id) (P := fun _ op => op.On P)
    (along_of_forall fun op ho _ => hop op ho)
    (fun _ _ _ hop hperform => id_perform hop hperform) hreturns

omit [EventTypes E] in
/-- A callback gives a timer an id whatever id it had before, or leaves the id as it is. -/
theorem foldl_idAfter_cases (callback : List (Op E)) (r : TimerRef E) (id id' : ℕ) :
    callback.foldl (Op.idAfter r) id = callback.foldl (Op.idAfter r) id' ∨
      callback.foldl (Op.idAfter r) id = id ∧ callback.foldl (Op.idAfter r) id' = id' := by
  induction callback generalizing id id' with
  | nil => exact Or.inr ⟨rfl, rfl⟩
  | cons op ops ih =>
    have hone : op.idAfter r id = op.idAfter r id' ∨
        op.idAfter r id = id ∧ op.idAfter r id' = id' := by
      cases op with
      | schedule | scheduleWith | cancel | reschedule =>
        simp only [Op.idAfter]
        split_ifs
        · exact Or.inl rfl
        · exact Or.inr ⟨rfl, rfl⟩
      | cancelAll => exact Or.inl rfl
    rw [List.foldl_cons, List.foldl_cons]
    rcases hone with hsame | ⟨hid, hid'⟩
    · exact Or.inl (by rw [hsame])
    · rw [hid, hid']
      exact ih id id'

end Ids

/-! ### Runs -/

omit [DecidableEq E] [EventTypes E] in
instance (P : TimerRef E → Prop) [DecidablePred P] : (op : Op E) → Decidable (op.On P)
  | .schedule r _ | .scheduleWith r _ _ _ | .cancel r | .reschedule r _ =>
    inferInstanceAs (Decidable (P r))
  | .cancelAll => isFalse id

/-- What is assumed of the reactor and of the callbacks: a callback works on other timers than the
one that has fired. -/
def AssumedOthers (h : TimerHandler E) (now : ℤ) : ReactorEvent E → Prop
  | .perform op => h.Fresh op
  | .upcall n callback => n ∈ h.queue ∧ (∀ op ∈ callback, op.On (· ≠ n.ref)) ∧
      ∀ fired ∈ (h.dispatch n).timerFor n.ref,
        Along Fresh now ((h.dispatch n).calledBack n.ref fired) callback

instance (h : TimerHandler E) (now : ℤ) : (e : ReactorEvent E) → Decidable (h.AssumedOthers now e)
  | .perform op => inferInstanceAs (Decidable (h.Fresh op))
  | .upcall n callback => inferInstanceAs (Decidable
      (n ∈ h.queue ∧ (∀ op ∈ callback, op.On (· ≠ n.ref)) ∧
        ∀ fired ∈ (h.dispatch n).timerFor n.ref, _))

/-- The steps of a program whose callbacks work on other timers. -/
def Process.OthersStep (p : Process E) (l : ℤ × ReactorEvent E) (p' : Process E) : Prop :=
  ∃ h, p = .running h ∧ h.AssumedOthers l.1 l.2 ∧ p' = h.afterEvent l.1 l.2

/-- `tr` is a run of a program with a new handler, which ends in `p`. -/
def IsSiblingRun (tr : List (Transition (Process E) (ℤ × ReactorEvent E))) (p : Process E) : Prop :=
  IsRun Process.OthersStep (.running {}) tr p

/-- The step for an event, if it can be taken. -/
def Process.nextOthers? (p : Process E) (l : ℤ × ReactorEvent E) :
    Option ((ℤ × ReactorEvent E) × Process E) :=
  match p with
  | .running h => if h.AssumedOthers l.1 l.2 then some (l, h.afterEvent l.1 l.2) else none
  | .terminated => none

theorem Process.othersStep_of_nextOthers? (p : Process E) (l l' : ℤ × ReactorEvent E)
    (p' : Process E) (h : p.nextOthers? l = some (l', p')) : p.OthersStep l' p' := by
  cases p with
  | terminated => cases h
  | running handler =>
    obtain ⟨hassumed, rfl, rfl⟩ := of_guard_eq_some h
    exact ⟨handler, rfl, hassumed, rfl⟩

/-- After the upcall of a one-shot timer, the siblings that its callback has scheduled, and not
cancelled again, are active and registered under their keys. -/
def KeepsSiblings (t : Transition (Process E) (ℤ × ReactorEvent E)) : Prop :=
  ∀ n callback h', t.label.2 = .upcall n callback → t.target = .running h' → n.interval = 0 →
    ∀ r : TimerRef E, r.IsSibling n.ref → leftId callback r ≠ nullTimerId →
      (h'.getTimer r).active = true ∧
        h'.activeTimers.find? (h'.getTimer r).key = some (some r)

/-- The upcall of a timer reaches `any_timer_fired` with this timer. -/
def FindsTimer (t : Transition (Process E) (ℤ × ReactorEvent E)) : Prop :=
  ∀ h n callback, t.source = .running h → t.label.2 = .upcall n callback →
    (h.dispatch n).timerFor n.ref = some n.ref

/-- The callback of a one-shot timer leaves no sibling scheduled under the id of the timer. -/
def SparesId : ReactorEvent E → Prop
  | .perform _ => True
  | .upcall n callback => n.interval = 0 →
      ∀ r : TimerRef E, r.IsSibling n.ref → leftId callback r ≠ n.id

/-! ### The handler without the timer that has fired -/

section Cancel

variable {h : TimerHandler E} {r : TimerRef E}

omit [EventTypes E]

theorem getTimer_cancel_self : (h.cancel r).getTimer r =
    if (h.getTimer r).active then (h.getTimer r).deactivate else h.getTimer r := by
  rw [cancel]
  split_ifs
  · exact (getTimer_timerWontRun h r r).trans (if_pos rfl)
  · rfl

theorem queue_cancel : (h.cancel r).queue =
    if (h.getTimer r).active then h.queue.filter (·.id ≠ (h.getTimer r).id) else h.queue := by
  rw [cancel]
  split_ifs <;> rfl

theorem find?_cancel (k : String) : (h.cancel r).activeTimers.find? k =
    if (h.getTimer r).active ∧ k = (h.getTimer r).key then none
    else h.activeTimers.find? k := by
  rw [cancel]
  split_ifs with hactive herased hkept
  · exact (Table.find?_erase ..).trans (if_pos herased.2)
  · exact (Table.find?_erase ..).trans (if_neg fun hk => herased ⟨hactive, hk⟩)
  · exact absurd hkept.1 hactive
  · rfl

end Cancel

/-- The handler `g` is `h` without the timer `f`, and with any entry under the key. -/
structure AgreesBut (f : TimerRef E) (key : String) (h g : TimerHandler E) : Prop where
  fired : g.getTimer f = (h.getTimer f).deactivate
  timers : ∀ r, r ≠ f → g.getTimer r = h.getTimer r
  queue : g.queue = h.queue
  entries : ∀ k, k ≠ key → g.activeTimers.find? k = h.activeTimers.find? k

namespace AgreesBut

variable {f r : TimerRef E} {key : String} {h h' g : TimerHandler E} {now : ℤ} {id : ℕ}

omit [EventTypes E] in
/-- At first the handler is the one with the timer retired. -/
theorem retired (h : TimerHandler E) (f : TimerRef E) :
    AgreesBut f (h.getTimer f).key h (h.timerWontRun f) where
  fired := (getTimer_timerWontRun h f f).trans (if_pos rfl)
  timers r hne := (getTimer_timerWontRun h f r).trans (if_neg hne)
  queue := rfl
  entries _ hne := (Table.find?_erase ..).trans (if_neg hne)

theorem arm (ha : AgreesBut f key h g) (hne : r ≠ f) :
    AgreesBut f key (h.arm r now id) (g.arm r now id) := by
  have hget := ha.timers r hne
  refine ⟨?_, fun r' hr' => ?_, ?_, fun k hk => ?_⟩
  · rw [getTimer_arm, getTimer_arm, if_neg (Ne.symm hne), if_neg (Ne.symm hne), ha.fired]
  · rw [getTimer_arm, getTimer_arm, hget, ha.timers r' hr']
  · change _ :: g.queue = _ :: h.queue
    rw [hget, ha.queue]
  · change (g.activeTimers.set (r.makeKey id) _).find? k =
      (h.activeTimers.set (r.makeKey id) _).find? k
    rw [Table.find?_set, Table.find?_set, ha.entries k hk]

omit [EventTypes E] in
theorem configure (ha : AgreesBut f key h g) (hne : r ≠ f) (period delay : Duration) :
    AgreesBut f key (h.configure r period delay) (g.configure r period delay) := by
  refine ⟨?_, fun r' hr' => ?_, ha.queue, ha.entries⟩
  · rw [getTimer_configure, getTimer_configure, if_neg (Ne.symm hne), if_neg (Ne.symm hne),
      ha.fired]
  · rw [getTimer_configure, getTimer_configure, ha.timers r hne, ha.timers r' hr']

omit [EventTypes E] in
theorem cancel (ha : AgreesBut f key h g) (hne : r ≠ f) :
    AgreesBut f key (h.cancel r) (g.cancel r) := by
  have hget := ha.timers r hne
  refine ⟨?_, fun r' hr' => ?_, ?_, fun k hk => ?_⟩
  · rw [getTimer_cancel_of_ne (Ne.symm hne), getTimer_cancel_of_ne (Ne.symm hne), ha.fired]
  · by_cases heq : r' = r
    · rw [heq, getTimer_cancel_self, getTimer_cancel_self, hget]
    · rw [getTimer_cancel_of_ne heq, getTimer_cancel_of_ne heq, ha.timers r' hr']
  · rw [queue_cancel, queue_cancel, hget, ha.queue]
  · rw [find?_cancel, find?_cancel, hget, ha.entries k hk]

omit [EventTypes E] in
/-- The reactor returns the same ids. -/
theorem fresh (ha : AgreesBut f key h g) {op : Op E} (hop : op.On (· ≠ f)) (hfresh : h.Fresh op) :
    g.Fresh op := by
  cases op with
  | schedule | scheduleWith =>
    rw [Fresh, ha.queue]
    exact hfresh
  | reschedule r id =>
    rw [Fresh, (ha.cancel hop).queue]
    exact hfresh
  | cancel | cancelAll => trivial

/-- An operation on another timer does the same in both handlers. -/
theorem perform (ha : AgreesBut f key h g) {op : Op E} (hop : op.On (· ≠ f))
    (hok : h.perform now op = .ok h') :
    ∃ g', g.perform now op = .ok g' ∧ AgreesBut f key h' g' := by
  cases op with
  | schedule r id =>
    obtain ⟨hidle, rfl⟩ := schedule_eq_ok.mp hok
    rw [← ha.timers r hop] at hidle
    exact ⟨_, schedule_eq_ok.mpr ⟨hidle, rfl⟩, ha.arm hop⟩
  | scheduleWith r period delay id =>
    obtain ⟨hidle, rfl⟩ := scheduleWith_eq_ok.mp hok
    rw [← ha.timers r hop] at hidle
    exact ⟨_, scheduleWith_eq_ok.mpr ⟨hidle, rfl⟩, (ha.configure hop period delay).arm hop⟩
  | cancel r =>
    obtain rfl := Except.ok.inj hok
    exact ⟨_, rfl, ha.cancel hop⟩
  | reschedule r id =>
    obtain rfl := reschedule_eq_ok.mp hok
    exact ⟨_, reschedule_eq_ok.mpr rfl, { (ha.cancel hop).arm hop with }⟩
  | cancelAll => exact hop.elim

/-- A callback runs as if the timer that has fired were retired. -/
theorem anyTimerFired (ha : AgreesBut f key h g) (hr : RoutedBut g none) {callback : List (Op E)}
    (hop : ∀ op ∈ callback, op.On (· ≠ f)) (hfresh : Along Fresh now h callback) :
    ∃ g', AgreesBut f key (TimerHandler.anyTimerFired now h callback).1 g' ∧ RoutedBut g' none := by
  induction callback generalizing h g with
  | nil => exact ⟨g, ha, hr⟩
  | cons op ops ih =>
    have hother := hop op List.mem_cons_self
    rw [TimerHandler.anyTimerFired]
    cases hperform : h.perform now op with
    | error msg => exact ⟨g, ha, hr⟩
    | ok h₁ =>
      obtain ⟨g₁, hperform', ha₁⟩ := ha.perform hother hperform
      have hr₁ := hr.perform (ha.fresh hother hfresh.1) (fun f hf => by cases hf) hperform'
      exact ih ha₁ hr₁ (fun o ho => hop o (List.mem_cons_of_mem _ ho)) (hfresh.2 h₁ hperform)

omit [EventTypes E] in
/-- Once the timer that has fired is retired too, the handlers differ in the entry under the key
only. -/
theorem finishTimeout (ha : AgreesBut f key h g) (hperiod : (h.getTimer f).period = 0)
    (hkey : (h.getTimer f).key = key) :
    (∀ r, (h.finishTimeout f).getTimer r = g.getTimer r) ∧
      (h.finishTimeout f).queue = g.queue ∧
      ∀ k, (h.finishTimeout f).activeTimers.find? k =
        if k = key then none else g.activeTimers.find? k := by
  rw [TimerHandler.finishTimeout, if_pos hperiod]
  refine ⟨fun r => (getTimer_timerWontRun h f r).trans ?_, ha.queue.symm, fun k => ?_⟩
  · split_ifs with heq
    · rw [heq, ha.fired]
    · rw [ha.timers r heq]
  · refine (Table.find?_erase ..).trans ?_
    rw [hkey]
    split_ifs with heq
    · rfl
    · rw [ha.entries k heq]

end AgreesBut

/-! ### Upcalls -/

section Upcalls

variable {h h' g : TimerHandler E} {n : QueueNode E} {callback : List (Op E)} {now : ℤ}
  {firing : Option (TimerRef E)}

/-- The invariant looks at the timers, the queue and `active_timers_` only. -/
theorem RoutedBut.congr (hr : RoutedBut g firing) (hget : ∀ r, h.getTimer r = g.getTimer r)
    (hqueue : h.queue = g.queue)
    (hentries : ∀ k, h.activeTimers.find? k = g.activeTimers.find? k) : RoutedBut h firing := by
  constructor <;> simp -failIfUnchanged only [hget, hqueue, hentries]
  · exact hr.entries
  · exact hr.ownKey
  · exact hr.idle
  · exact hr.pending
  · exact hr.queued
  · exact hr.ids

/-- An upcall that finds a timer. -/
theorem afterEvent_upcall {fired : TimerRef E} (hfor : (h.dispatch n).timerFor n.ref = some fired) :
    h.afterEvent now (.upcall n callback) =
      match anyTimerFired now ((h.dispatch n).calledBack n.ref fired) callback with
      | (h', true) => .running (h'.finishTimeout fired)
      | (_, false) => .terminated := by
  rw [afterEvent, throws, handleTimeout]
  simp only [hfor]
  cases hrun : anyTimerFired now ((h.dispatch n).calledBack n.ref fired) callback with
  | mk h' returned => cases returned <;> rfl

/-- After an upcall the program is running if no timer is found, or if the callback of the one that
is found has returned. -/
theorem afterEvent_upcall_cases (hrunning : h.afterEvent now (.upcall n callback) = .running h') :
    ((h.dispatch n).timerFor n.ref = none ∧ h' = (h.dispatch n).lookedUp n.ref) ∨
      ∃ fired left, (h.dispatch n).timerFor n.ref = some fired ∧
        anyTimerFired now ((h.dispatch n).calledBack n.ref fired) callback = (left, true) ∧
        h' = left.finishTimeout fired := by
  cases hfor : (h.dispatch n).timerFor n.ref with
  | none =>
    rw [afterEvent, throws, handleTimeout, hfor] at hrunning
    exact Or.inl ⟨rfl, (Process.running.inj hrunning).symm⟩
  | some fired =>
    rw [afterEvent_upcall hfor] at hrunning
    split at hrunning
    · next left hreturns =>
      exact Or.inr ⟨fired, left, rfl, hreturns, (Process.running.inj hrunning).symm⟩
    · cases hrunning

theorem RoutedBut.findsTimer (hr : RoutedBut h none) (hn : n ∈ h.queue) :
    (h.dispatch n).timerFor n.ref = some n.ref :=
  (hr.dispatch hn).timerFor_eq (hr.queued n hn).1

/-- The callback of an upcall starts with all timers routed but the one that has fired. -/
theorem RoutedBut.calledBack (hr : RoutedBut h none) (hn : n ∈ h.queue) :
    RoutedBut ((h.dispatch n).calledBack n.ref n.ref) (h.firingOneShot n.ref) := by
  rw [TimerHandler.calledBack, lookedUp_of_timerFor (hr.findsTimer hn)]
  exact (hr.dispatch hn).markFired

/-- The callback of a one-shot timer ends as it would if the timer were retired. -/
theorem RoutedBut.exists_agreesBut (hr : RoutedBut h none)
    (hassumed : h.AssumedOthers now (.upcall n callback)) (hinterval : n.interval = 0) :
    ∃ g, AgreesBut n.ref (n.ref.makeKey n.id) (TimerHandler.anyTimerFired now
      ((h.dispatch n).calledBack n.ref n.ref) callback).1 g ∧ RoutedBut g none := by
  obtain ⟨hn, hop, hfresh⟩ := hassumed
  have hfor := hr.findsTimer hn
  obtain ⟨hactive, -, hid, hperiod⟩ := hr.queued n hn
  have hcalled := hr.calledBack hn
  rw [firingOneShot, if_pos (hperiod.symm.trans hinterval)] at hcalled
  have hretired := hcalled.retireFired (by rwa [getTimer_calledBack])
  have hkey : (((h.dispatch n).calledBack n.ref n.ref).getTimer n.ref).key =
      n.ref.makeKey n.id := by
    rw [getTimer_calledBack, hr.ownKey n.ref hactive, hid]
  rw [← hkey]
  exact (AgreesBut.retired _ _).anyTimerFired hretired hop (hfresh n.ref hfor)

section Returns

variable (hr : RoutedBut h none) (hassumed : h.AssumedOthers now (.upcall n callback))
  (hreturns : anyTimerFired now ((h.dispatch n).calledBack n.ref n.ref) callback = (h', true))
  {r : TimerRef E}

include hassumed hreturns

theorem id_of_returns : (h'.getTimer r).id = callback.foldl (Op.idAfter r) (h.getTimer r).id := by
  rw [id_anyTimerFired hassumed.2.1 hreturns, getTimer_calledBack]

/-- A timer that the callback leaves scheduled has the id that it is scheduled under. -/
theorem id_eq_leftId (hleft : leftId callback r ≠ nullTimerId) :
    (h'.getTimer r).id = leftId callback r := by
  rw [id_of_returns hassumed hreturns]
  exact (foldl_idAfter_cases callback r _ nullTimerId).resolve_right fun h => hleft h.2

/-- The timer that has fired is as it was. -/
theorem getTimer_of_returns : h'.getTimer n.ref = h.getTimer n.ref := by
  have hget := getTimer_anyTimerFired ((h.dispatch n).calledBack n.ref n.ref) now hassumed.2.1
  rwa [hreturns, getTimer_calledBack] at hget

include hr

/-- Another timer has the id of the one that has fired only if the callback leaves it so. -/
theorem leftId_eq_of_id_eq (hne : r ≠ n.ref) (hid : (h'.getTimer r).id = n.id) :
    leftId callback r = n.id := by
  rw [id_of_returns hassumed hreturns] at hid
  rcases foldl_idAfter_cases callback r (h.getTimer r).id nullTimerId with hleft | ⟨hsame, -⟩
  · exact hleft.symm.trans hid
  · obtain ⟨hactive, -, hnid, -⟩ := hr.queued n hassumed.1
    have hrid : (h.getTimer r).id = (h.getTimer n.ref).id := hsame.symm.trans (hid.trans hnid)
    rw [KeyedTimer.active, ← hrid] at hactive
    obtain ⟨m, hm, hmref, hmid⟩ := hr.pending r hactive (Option.some_ne_none r)
    have hmn := hr.eq_of_id hm hassumed.1 (hmid.trans (hrid.trans hnid.symm))
    exact absurd (hmref.symm.trans (congrArg QueueNode.ref hmn)) hne

/-- After the upcall of a periodic timer all timers are routed. -/
theorem routedBut_of_periodic (hinterval : n.interval ≠ 0) :
    RoutedBut (h'.finishTimeout n.ref) none := by
  obtain ⟨hactive, -, -, hperiod⟩ := hr.queued n hassumed.1
  have hget := getTimer_of_returns hassumed hreturns
  have hnone : ∀ g : TimerHandler E, g.getTimer n.ref = h.getTimer n.ref →
      g.firingOneShot n.ref = none := fun g hg => by
    rw [firingOneShot, hg, ← hperiod, if_neg hinterval]
  have hcalled := hr.calledBack hassumed.1
  rw [hnone h rfl] at hcalled
  have hran := hcalled.anyTimerFired (fun op _ f hf => by cases hf)
    (hassumed.2.2 n.ref (hr.findsTimer hassumed.1))
  rw [hreturns] at hran
  refine RoutedBut.finishTimeout ?_ (by rwa [hget])
  rwa [hnone h' hget]

/-- After the upcall of a one-shot timer the handler is one with all timers routed, but without an
entry under the key of the timer that has fired. -/
theorem exists_finished (hinterval : n.interval = 0) : ∃ g, RoutedBut g none ∧
    (g.getTimer n.ref).active = false ∧ (∀ r, r ≠ n.ref → g.getTimer r = h'.getTimer r) ∧
    (∀ r, (h'.finishTimeout n.ref).getTimer r = g.getTimer r) ∧
    (h'.finishTimeout n.ref).queue = g.queue ∧
    ∀ k, (h'.finishTimeout n.ref).activeTimers.find? k =
      if k = n.ref.makeKey n.id then none else g.activeTimers.find? k := by
  obtain ⟨hactive, -, hid, hperiod⟩ := hr.queued n hassumed.1
  have hfired := getTimer_of_returns hassumed hreturns
  obtain ⟨g, ha, hg⟩ := hr.exists_agreesBut hassumed hinterval
  rw [hreturns] at ha
  refine ⟨g, hg, by rw [ha.fired]; rfl, ha.timers, ha.finishTimeout ?_ ?_⟩
  · rw [hfired, ← hperiod, hinterval]
  · rw [hfired, hr.ownKey n.ref hactive, hid]

/-- After the upcall of a one-shot timer all timers are routed, if the callback spares its id. -/
theorem routedBut_of_sparesId (hinterval : n.interval = 0)
    (hspares : ∀ r : TimerRef E, r.IsSibling n.ref → leftId callback r ≠ n.id) :
    RoutedBut (h'.finishTimeout n.ref) none := by
  obtain ⟨g, hg, hidle, hothers, hget, hqueue, hentries⟩ :=
    exists_finished hr hassumed hreturns hinterval
  refine hg.congr hget hqueue fun k => ?_
  rw [hentries]
  split_ifs with hk
  · cases hv : g.activeTimers.find? k with
    | none => rfl
    | some v =>
      obtain ⟨r, -, hactive, hrkey⟩ := (hg.entries k v).mp hv
      have hne : r ≠ n.ref := by
        rintro rfl
        exact absurd (hidle.symm.trans hactive) Bool.false_ne_true
      rw [hg.ownKey r hactive, hk] at hrkey
      obtain ⟨hid, hname⟩ := TimerRef.makeKey_eq_iff.mp hrkey
      rw [hothers r hne] at hid
      exact absurd (leftId_eq_of_id_eq hr hassumed hreturns hne hid) (hspares r ⟨hne, hname⟩)
  · rfl

/-- A timer that the callback leaves scheduled is active when `handle_timeout` returns. -/
theorem active_of_leftId (hinterval : n.interval = 0) (hne : r ≠ n.ref)
    (hleft : leftId callback r ≠ nullTimerId) :
    ((h'.finishTimeout n.ref).getTimer r).active = true := by
  obtain ⟨g, -, -, hothers, hget, -, -⟩ := exists_finished hr hassumed hreturns hinterval
  rw [hget, hothers r hne, KeyedTimer.active, id_eq_leftId hassumed hreturns hleft]
  simpa using hleft

/-- A sibling that the callback leaves under the id of a one-shot timer loses its entry. -/
theorem find?_key_of_leftId (hinterval : n.interval = 0) (hsibling : r.IsSibling n.ref)
    (hnull : leftId callback r ≠ nullTimerId) (hleft : leftId callback r = n.id) :
    (h'.finishTimeout n.ref).activeTimers.find?
      ((h'.finishTimeout n.ref).getTimer r).key = none := by
  have hactive := active_of_leftId hr hassumed hreturns hinterval hsibling.1 hnull
  obtain ⟨g, hg, -, hothers, hget, -, hentries⟩ := exists_finished hr hassumed hreturns hinterval
  rw [hget] at hactive
  rw [hentries, if_pos]
  rw [hget, hg.ownKey r hactive, hothers r hsibling.1, id_eq_leftId hassumed hreturns hnull]
  exact TimerRef.makeKey_eq_iff.mpr ⟨hleft, hsibling.2⟩

end Returns

/-- An upcall whose callback returns keeps the siblings of its timer if and only if the callback
spares the id. -/
theorem keepsSiblings_iff_sparesId (hr : RoutedBut h none)
    (hassumed : h.AssumedOthers now (.upcall n callback))
    (hreturns : anyTimerFired now ((h.dispatch n).calledBack n.ref n.ref) callback = (h', true)) :
    KeepsSiblings ⟨.running h, (now, .upcall n callback), .running (h'.finishTimeout n.ref)⟩ ↔
      SparesId (.upcall n callback) := by
  constructor
  · intro hkeeps hinterval r hsibling hleft
    have hnull : leftId callback r ≠ nullTimerId := by
      obtain ⟨hactive, -, hid, -⟩ := hr.queued n hassumed.1
      rw [hleft, hid]
      simpa [KeyedTimer.active] using hactive
    have hentry := (hkeeps n callback _ rfl rfl hinterval r hsibling hnull).2
    rw [find?_key_of_leftId hr hassumed hreturns hinterval hsibling hnull hleft] at hentry
    cases hentry
  · rintro hspares n callback h'' ⟨⟩ ⟨⟩ hinterval r hsibling hnull
    have hactive := active_of_leftId hr hassumed hreturns hinterval hsibling.1 hnull
    have hrouted := routedBut_of_sparesId hr hassumed hreturns hinterval (hspares hinterval)
    exact ⟨hactive, hrouted.listed.found hactive⟩

/-- What a step does to the siblings of the timers that fire. -/
theorem RoutedBut.siblings_step (hr : RoutedBut h none) {l : ℤ × ReactorEvent E} {p : Process E}
    (hassumed : h.AssumedOthers l.1 l.2) (hp : p = h.afterEvent l.1 l.2) :
    (KeepsSiblings ⟨.running h, l, p⟩ ∧ FindsTimer ⟨.running h, l, p⟩ ↔
        (p ≠ .terminated → SparesId l.2)) ∧
      ((p ≠ .terminated → SparesId l.2) → ∀ h', p = .running h' → RoutedBut h' none) := by
  obtain ⟨now, event⟩ := l
  cases event with
  | perform op =>
    subst hp
    have hkeeps : KeepsSiblings ⟨.running h, (now, .perform op), h.afterEvent now (.perform op)⟩ :=
      fun n callback h' hlabel => by cases hlabel
    have hfinds : FindsTimer ⟨.running h, (now, .perform op), h.afterEvent now (.perform op)⟩ :=
      fun h' n callback _ hlabel => by cases hlabel
    refine ⟨iff_of_true ⟨hkeeps, hfinds⟩ fun _ => trivial, fun _ h' hh' => ?_⟩
    obtain rfl := Process.running.inj hh'
    exact act_perform_invariant (I := (RoutedBut · none)) hr
      fun h₁ hperform => hr.perform hassumed (fun f hf => by cases hf) hperform
  | upcall n callback =>
    have hfor := hr.findsTimer hassumed.1
    have hfinds : FindsTimer ⟨.running h, (now, .upcall n callback), p⟩ := by
      rintro h' n callback ⟨⟩ ⟨⟩
      exact hfor
    rw [afterEvent_upcall hfor] at hp
    rw [and_iff_left hfinds]
    split at hp
    · next h' hreturns =>
      subst hp
      rw [forall_prop_of_true (by simp)]
      refine ⟨keepsSiblings_iff_sparesId hr hassumed hreturns, fun hspares h'' hh'' => ?_⟩
      obtain rfl := Process.running.inj hh''
      by_cases hinterval : n.interval = 0
      · exact routedBut_of_sparesId hr hassumed hreturns hinterval (hspares hinterval)
      · exact routedBut_of_periodic hr hassumed hreturns hinterval
    · subst hp
      have hkeeps : KeepsSiblings ⟨.running h, (now, .upcall n callback), .terminated⟩ :=
        fun n callback h' _ htarget => by cases htarget
      exact ⟨iff_of_true hkeeps fun h => absurd rfl h, fun _ h' hh' => by cases hh'⟩

end Upcalls

/-- **Timers of one event type.** In a run whose callbacks work on other timers than the one that
has fired, every timer that the callback of a one-shot timer leaves scheduled, with an event type of
the same name, is active and registered under its key when `handle_timeout` returns, and every
upcall reaches its timer, if and only if no callback that returns leaves such a timer scheduled
under the id of the timer that has fired. -/
theorem keepsSiblings_iff {tr : List (Transition (Process E) (ℤ × ReactorEvent E))} {p : Process E}
    (hrun : IsSiblingRun tr p) : (∀ t ∈ tr, KeepsSiblings t ∧ FindsTimer t) ↔
      ∀ t ∈ tr, t.target ≠ .terminated → SparesId t.label.2 := by
  refine hrun.forall_mem_iff (I := fun p => ∀ h, p = .running h → RoutedBut h none) ?_ ?_
  · rintro h ⟨⟩
    exact .init
  · rintro p l p' hp ⟨h, rfl, hassumed, hp'⟩
    exact (hp h rfl).siblings_step hassumed hp'

/-- A timer of `ControllerSelector` with another name than that of its own ones. -/
def heartbeatOf (name : String) : TimerRef SelectorEvent := ⟨.missedHeartbeat, name⟩

/-- A missed heartbeat of one controller starts the wait for another one, under an id of its own or
under that of the timer that has fired; then the other timer fires. -/
def handOver (id : ℕ) : List (ℤ × ReactorEvent SelectorEvent) :=
  [(0, .perform (.scheduleWith (heartbeatOf "mc1") 0 (Sec 3) 1)),
    (Sec 3, .upcall ⟨1, heartbeatOf "mc1", Sec 3, 0⟩
      [.scheduleWith (heartbeatOf "mc2") 0 (Sec 3) id]),
    (Sec 6, .upcall ⟨id, heartbeatOf "mc2", Sec 6, 0⟩ [])]

/-- The reactor returns another id. -/
theorem keepsSiblings_of_new_id : ∃ (tr : List (Transition (Process SelectorEvent)
      (ℤ × ReactorEvent SelectorEvent))) (p : Process SelectorEvent),
    IsSiblingRun tr p ∧ tr.map (·.label) = handOver 2 ∧
      ∀ t ∈ tr, KeepsSiblings t ∧ FindsTimer t := by
  have hrun := isRun_of_follow Process.othersStep_of_nextOthers? (s := .running {}) (handOver 2) rfl
  have hspares : ∀ l ∈ handOver 2, SparesId l.2 := by
    simp only [handOver, List.forall_mem_cons]
    refine ⟨trivial, fun _ r _ => ?_, fun _ r _ => ?_, nofun⟩
    · rw [leftId, List.foldl_cons, List.foldl_nil, Op.idAfter]
      split_ifs <;> decide
    · change nullTimerId ≠ 2
      decide
  refine ⟨_, _, hrun, rfl, (keepsSiblings_iff hrun).mpr fun t ht _ => hspares t.label ?_⟩
  exact List.mem_map_of_mem ht

/-- The reactor returns the id of the timer that has fired: the new timer loses its entry. -/
theorem entry_lost_with_reused_id : ¬∀ (tr : List (Transition (Process SelectorEvent)
      (ℤ × ReactorEvent SelectorEvent))) (p : Process SelectorEvent),
    IsSiblingRun tr p → ∀ t ∈ tr, KeepsSiblings t ∧ FindsTimer t := by
  intro h
  have hrun := isRun_of_follow Process.othersStep_of_nextOthers? (s := .running {}) (handOver 1) rfl
  have hlast := (h _ _ hrun _ (List.mem_of_getLast? rfl)).2 _ _ _ rfl rfl
  exact absurd hlast (by decide)

end TimerHandler

end TacticalMicrogrid
