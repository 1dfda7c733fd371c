import TacticalMicrogrid.Common.TimerHandler.Soundness

/-!
# Keys made of recycled ids

The reactor may hand out the id of a one-shot timer again as soon as the upcall of that timer has
begun, while `active_timers_` still has its entry. The comment on `TimerKey` in
`common/TimerHandler.h` says why a key is therefore the id together with the name of the event
type. This module takes of the reactor only what that argument needs: an id it returns is no id of
a timer on its queue, a one-shot timer leaves the queue when its upcall begins and a periodic one
stays. An upcall is made at once, so that no upcall waits for `lock_`, and any timer on the queue
may get one, due or not.

A callback works on timers of other event types than the one that fired. An exception that a
callback lets out leaves `handle_timeout` and the event loop of the reactor; no caller of
`run_reactor_event_loop` catches it, so it ends the program.

## Main definitions

* `TimerHandler.dispatch`, `TimerHandler.ReactorEvent`, `TimerHandler.Process`.
* `TimerHandler.IsReactorRun`.
* `TimerHandler.Routed`: `active_timers_` lists the active timers, and each is on the queue.
* `TimerHandler.RoutedBut`: the invariant, while the upcall of a timer runs.

## Main results

* `TimerRef.makeKey_eq_iff`: a key determines the id and the name of the event type.
* `TimerHandler.routed_of_run`: between the operations of a run all timers are routed.
-/

namespace TacticalMicrogrid

open TransitionSystem

/-! ### Keys -/

private theorem underscore_notMem_toString (id : ℕ) : '_' ∉ (toString id).toList := by
  intro h
  rw [Nat.toString_eq_ofList_toDigits, String.toList_ofList] at h
  have hdigit := Nat.isDigit_of_mem_toDigits (b := 10) (by decide) (by decide) h
  exact absurd hdigit (by decide)

private theorem toString_inj {id id' : ℕ} (h : (toString id).toList = (toString id').toList) :
    id = id' := by
  have hvalue := congrArg (fun ds => Nat.ofDigitChars 10 ds 0) h
  simpa [Nat.toString_eq_ofList_toDigits] using hvalue

/-- Two texts with the same first occurrence of a separator. -/
private theorem append_cons_inj {α : Type} {a : α} {xs xs' ys ys' : List α} (hxs : a ∉ xs)
    (hxs' : a ∉ xs') (h : xs ++ a :: ys = xs' ++ a :: ys') : xs = xs' ∧ ys = ys' := by
  rcases List.append_eq_append_iff.mp h with ⟨as, has, hys⟩ | ⟨as, has, hys⟩
  · cases as with
    | nil => exact ⟨by simpa using has.symm, (List.cons.inj hys).2⟩
    | cons b as =>
      obtain ⟨rfl, -⟩ := List.cons.inj hys
      exact absurd (has ▸ List.mem_append_right _ List.mem_cons_self) hxs'
  · cases as with
    | nil => exact ⟨by simpa using has, (List.cons.inj hys).2.symm⟩
    | cons b as =>
      obtain ⟨rfl, -⟩ := List.cons.inj hys
      exact absurd (has ▸ List.mem_append_right _ List.mem_cons_self) hxs

/-- A key is the id and the name of the event type. -/
theorem TimerRef.makeKey_eq_iff {E : Type} [EventTypes E] {r r' : TimerRef E} {id id' : ℕ} :
    r.makeKey id = r'.makeKey id' ↔
      id = id' ∧ EventTypes.name r.eventType = EventTypes.name r'.eventType := by
  constructor
  · intro h
    have hchars := congrArg String.toList h
    simp only [makeKey, String.toList_append, List.append_assoc] at hchars
    obtain ⟨hid, hkey⟩ := append_cons_inj (a := '_') (underscore_notMem_toString id)
      (underscore_notMem_toString id') hchars
    exact ⟨toString_inj hid, String.toList_injective hkey⟩
  · rintro ⟨rfl, hkey⟩
    rw [makeKey, makeKey, hkey]

namespace TimerHandler

variable {E : Type} [DecidableEq E]

/-! ### The reactor makes an upcall -/

/-- The reactor makes the upcall of a timer on its queue: a one-shot timer leaves the queue, a
periodic one stays. When it is due again does not matter here. -/
def dispatch (h : TimerHandler E) (n : QueueNode E) : TimerHandler E :=
  { h with queue := if n.interval = 0 then h.queue.erase n else h.queue }

/-- The operation works on one timer, which is not of the event type. -/
def Op.OnOtherType (eventType : E) : Op E → Prop
  | .schedule r _ | .scheduleWith r _ _ _ | .cancel r | .reschedule r _ => r.eventType ≠ eventType
  | .cancelAll => False

instance (eventType : E) : (op : Op E) → Decidable (op.OnOtherType eventType)
  | .schedule r _ | .scheduleWith r _ _ _ | .cancel r | .reschedule r _ =>
    inferInstanceAs (Decidable (r.eventType ≠ eventType))
  | .cancelAll => isFalse id

/-- The operation works on one timer, of which something holds. -/
def Op.On (P : TimerRef E → Prop) : Op E → Prop
  | .schedule r _ | .scheduleWith r _ _ _ | .cancel r | .reschedule r _ => P r
  | .cancelAll => False

/-- What can happen while no upcall waits: an operation, or the upcall of a timer on the queue with
the operations of its callback. -/
inductive ReactorEvent (E : Type)
  | perform (op : Op E)
  | upcall (n : QueueNode E) (callback : List (Op E))
deriving DecidableEq

/-- A program with a handler, or one that an exception has ended. -/
inductive Process (E : Type) [DecidableEq E]
  | running (h : TimerHandler E)
  | terminated

variable [EventTypes E]

/-- An exception leaves the callback of `handle_timeout`. -/
def throws (h : TimerHandler E) (now : ℤ) (r : TimerRef E) (callback : List (Op E)) : Bool :=
  match h.timerFor r with
  | none => false
  | some fired => !(anyTimerFired now (h.calledBack r fired) callback).2

/-- The program after an event. -/
def afterEvent (h : TimerHandler E) (now : ℤ) : ReactorEvent E → Process E
  | .perform op => .running (h.act now (.perform op))
  | .upcall n callback =>
    if (h.dispatch n).throws now n.ref callback then .terminated
    else .running ((h.dispatch n).handleTimeout now n.ref callback)

/-- What is assumed of the reactor and of the callbacks. -/
def Assumed (h : TimerHandler E) (now : ℤ) : ReactorEvent E → Prop
  | .perform op => h.Fresh op
  | .upcall n callback => n ∈ h.queue ∧ (∀ op ∈ callback, op.OnOtherType n.ref.eventType) ∧
      ∀ fired ∈ (h.dispatch n).timerFor n.ref,
        Along Fresh now ((h.dispatch n).calledBack n.ref fired) callback

instance (h : TimerHandler E) (now : ℤ) : (e : ReactorEvent E) → Decidable (h.Assumed now e)
  | .perform op => inferInstanceAs (Decidable (h.Fresh op))
  | .upcall n callback => inferInstanceAs (Decidable
      (n ∈ h.queue ∧ (∀ op ∈ callback, op.OnOtherType n.ref.eventType) ∧
        ∀ fired ∈ (h.dispatch n).timerFor n.ref, _))

/-- The steps of a program: an event at a clock reading. -/
def Process.Step (p : Process E) (l : ℤ × ReactorEvent E) (p' : Process E) : Prop :=
  ∃ h, p = .running h ∧ h.Assumed l.1 l.2 ∧ p' = h.afterEvent l.1 l.2

/-- `tr` is a run of a program with a new handler, which ends in `p`. -/
def IsReactorRun (tr : List (Transition (Process E) (ℤ × ReactorEvent E))) (p : Process E) :
    Prop :=
  IsRun Process.Step (.running {}) tr p

/-- The step for an event, if it can be taken. -/
def Process.next? (p : Process E) (l : ℤ × ReactorEvent E) :
    Option ((ℤ × ReactorEvent E) × Process E) :=
  match p with
  | .running h => if h.Assumed l.1 l.2 then some (l, h.afterEvent l.1 l.2) else none
  | .terminated => none

theorem Process.step_of_next? (p : Process E) (l l' : ℤ × ReactorEvent E) (p' : Process E)
    (h : p.next? l = some (l', p')) : p.Step l' p' := by
  cases p with
  | terminated => cases h
  | running handler =>
    obtain ⟨hassumed, rfl, rfl⟩ := of_guard_eq_some h
    exact ⟨handler, rfl, hassumed, rfl⟩

/-! ### Routed timers -/

/-- `active_timers_` has one entry for each active timer, under the timer's own key, and no other;
and each active timer is on the queue of the reactor under its id. -/
structure Routed (h : TimerHandler E) : Prop where
  entries : ∀ key v, h.activeTimers.find? key = some v ↔
    ∃ r, v = some r ∧ (h.getTimer r).active = true ∧ (h.getTimer r).key = key
  ownKey : ∀ r, (h.getTimer r).active = true → (h.getTimer r).key = r.makeKey (h.getTimer r).id
  pending : ∀ r, (h.getTimer r).active = true →
    ∃ n ∈ h.queue, n.ref = r ∧ n.id = (h.getTimer r).id

/-- The invariant while the upcall of the one-shot timer `firing` runs, or between the operations
for `none`: only `firing` is active and not on the queue. -/
structure RoutedBut (h : TimerHandler E) (firing : Option (TimerRef E)) : Prop where
  entries : ∀ key v, h.activeTimers.find? key = some v ↔
    ∃ r, v = some r ∧ (h.getTimer r).active = true ∧ (h.getTimer r).key = key
  ownKey : ∀ r, (h.getTimer r).active = true → (h.getTimer r).key = r.makeKey (h.getTimer r).id
  idle : ∀ r, (h.getTimer r).active = false → (h.getTimer r).key = ""
  pending : ∀ r, (h.getTimer r).active = true → some r ≠ firing →
    ∃ n ∈ h.queue, n.ref = r ∧ n.id = (h.getTimer r).id
  queued : ∀ n ∈ h.queue, (h.getTimer n.ref).active = true ∧ some n.ref ≠ firing ∧
    n.id = (h.getTimer n.ref).id ∧ n.interval = (h.getTimer n.ref).period
  ids : (h.queue.map (·.id)).Nodup

theorem RoutedBut.routed {h : TimerHandler E} (hr : RoutedBut h none) : Routed h :=
  ⟨hr.entries, hr.ownKey, fun r hactive => hr.pending r hactive (Option.some_ne_none r)⟩

theorem RoutedBut.init : RoutedBut ({} : TimerHandler E) none where
  entries key v := by
    constructor
    · intro hv
      cases hv
    · rintro ⟨r, -, hactive, -⟩
      cases hactive
  ownKey r hactive := by cases hactive
  idle r _ := rfl
  pending r hactive := by cases hactive
  queued n hn := by cases hn
  ids := List.nodup_nil

/-! ### What an operation does -/

namespace RoutedBut

variable {h h' : TimerHandler E} {firing firing' : Option (TimerRef E)} {r : TimerRef E}
  {id : ℕ} {now : ℤ}

theorem listed (hr : RoutedBut h firing) : h.Listed := hr.entries

/-- A timer on the queue has the id of no other one. -/
theorem eq_of_id (hr : RoutedBut h firing) {m n : QueueNode E} (hm : m ∈ h.queue)
    (hn : n ∈ h.queue) (hid : m.id = n.id) : m = n :=
  List.inj_on_of_nodup_map hr.ids hm hn hid

/-- The queue holds an active timer at most once. -/
theorem eq_of_ref (hr : RoutedBut h firing) {m n : QueueNode E} (hm : m ∈ h.queue)
    (hn : n ∈ h.queue) (href : m.ref = n.ref) : m = n := by
  refine hr.eq_of_id hm hn ?_
  rw [(hr.queued m hm).2.2.1, (hr.queued n hn).2.2.1, href]

/-- An upcall finds its own timer. -/
theorem timerFor_eq (hr : RoutedBut h firing) (hactive : (h.getTimer r).active = true) :
    h.timerFor r = some r := by
  rw [timerFor, hr.listed.found hactive]
  rfl

/-- An active timer can be retired if it leaves the queue. -/
theorem retire (hr : RoutedBut h firing) (hactive : (h.getTimer r).active = true)
    (queue : List (QueueNode E)) (armed : Table (TimerRef E) ℤ) (hqueue : queue.Sublist h.queue)
    (hleft : ∀ n ∈ h.queue, n ∈ queue ↔ n.ref ≠ r)
    (hfiring : ∀ r', r' ≠ r → (some r' = firing' ↔ some r' = firing)) :
    RoutedBut { h.timerWontRun r with queue := queue, armed := armed } firing' := by
  have hget : ∀ r', ({ h.timerWontRun r with queue := queue, armed := armed } :
      TimerHandler E).getTimer r' =
        if r' = r then (h.getTimer r).deactivate else h.getTimer r' := getTimer_timerWontRun h r
  have hother : ∀ r', (if r' = r then (h.getTimer r).deactivate else h.getTimer r').active = true →
      r' ≠ r ∧ (h.getTimer r').active = true := by
    intro r' hr'
    split_ifs at hr' with heq
    · cases hr'
    · exact ⟨heq, hr'⟩
  have hne : ∀ n ∈ queue, n.ref ≠ r := fun n hn => (hleft n (hqueue.subset hn)).mp hn
  have hlisted : (h.timerWontRun r).Listed :=
    hr.listed.timerWontRun fun r' hactive' hkey => hr.listed.key_inj hactive' hactive hkey
  refine ⟨hlisted, ?_, ?_, ?_, ?_, ?_⟩ <;> simp -failIfUnchanged only [hget]
  · intro r' hactive'
    obtain ⟨hne', hactive'⟩ := hother r' hactive'
    rw [if_neg hne']
    exact hr.ownKey r' hactive'
  · intro r' hidle
    split_ifs at hidle ⊢ with heq
    · rfl
    · exact hr.idle r' hidle
  · intro r' hactive' hnot
    obtain ⟨hne', hactive'⟩ := hother r' hactive'
    obtain ⟨n, hn, rfl, hid⟩ := hr.pending r' hactive' (mt (hfiring r' hne').mpr hnot)
    rw [if_neg hne']
    exact ⟨n, (hleft n hn).mpr hne', rfl, hid⟩
  · intro n hn
    obtain ⟨hactive', hnot, hid, hinterval⟩ := hr.queued n (hqueue.subset hn)
    rw [if_neg (hne n hn)]
    exact ⟨hactive', mt (hfiring n.ref (hne n hn)).mp hnot, hid, hinterval⟩
  · exact hr.ids.sublist (hqueue.map _)

theorem cancel (hr : RoutedBut h firing) (hnot : some r ≠ firing) :
    RoutedBut (h.cancel r) firing := by
  rw [TimerHandler.cancel]
  split_ifs with hactive
  · obtain ⟨m, hm, hmref, hmid⟩ := hr.pending r hactive hnot
    refine hr.retire hactive _ _ List.filter_sublist (fun n hn => ?_) fun r' _ => Iff.rfl
    have hiff : n.id = (h.getTimer r).id ↔ n.ref = r := by
      constructor
      · intro hid
        rw [hr.eq_of_id hn hm (hid.trans hmid.symm), hmref]
      · intro href
        rw [(hr.queued n hn).2.2.1, href]
    change n ∈ h.queue.filter (·.id ≠ (h.getTimer r).id) ↔ _
    simp [hn, hiff]
  · exact hr

/-- An inactive timer can be scheduled under an id that no timer on the queue has. The timer
that fires may still have the id, but its event type has another name. -/
theorem arm (hr : RoutedBut h firing) (hidle : (h.getTimer r).active = false)
    (hid : id ≠ nullTimerId) (hfresh : ∀ n ∈ h.queue, n.id ≠ id)
    (htype : ∀ f ∈ firing, EventTypes.name r.eventType ≠ EventTypes.name f.eventType) :
    RoutedBut (h.arm r now id) firing := by
  have hself : (r.activate (h.getTimer r) id).active = true := by
    simpa [KeyedTimer.active, TimerRef.activate] using hid
  have hne : ∀ r', (h.getTimer r').active = true → r' ≠ r := by
    rintro r' hactive rfl
    exact Bool.false_ne_true (hidle.symm.trans hactive)
  have hfree : h.KeyFree r id := by
    intro r' _ hactive heq
    rw [hr.ownKey r' hactive] at heq
    obtain ⟨hideq, htypeeq⟩ := TimerRef.makeKey_eq_iff.mp heq
    by_cases hfires : some r' = firing
    · exact htype r' hfires.symm htypeeq.symm
    · obtain ⟨n, hn, -, hnid⟩ := hr.pending r' hactive hfires
      exact hfresh n hn (hnid.trans hideq)
  have hlisted : (h.arm r now id).Listed := hr.listed.arm hidle hid hfree
  refine ⟨hlisted, ?_, ?_, ?_, ?_, ?_⟩ <;> simp -failIfUnchanged only [getTimer_arm]
  · intro r' hactive
    split_ifs at hactive ⊢ with heq
    · rw [heq]
      rfl
    · exact hr.ownKey r' hactive
  · intro r' hidle'
    split_ifs at hidle' ⊢ with heq
    · exact absurd (hidle'.symm.trans hself) Bool.false_ne_true
    · exact hr.idle r' hidle'
  · intro r' hactive hnot
    split_ifs at hactive ⊢ with heq
    · exact ⟨_, List.mem_cons_self, heq.symm, rfl⟩
    · obtain ⟨n, hn, href, hnid⟩ := hr.pending r' hactive hnot
      exact ⟨n, List.mem_cons_of_mem _ hn, href, hnid⟩
  · intro n hn
    rcases List.mem_cons.mp hn with rfl | hn
    · rw [if_pos rfl]
      exact ⟨hself, fun heq => htype r heq.symm rfl, rfl, rfl⟩
    · rw [if_neg (hne n.ref (hr.queued n hn).1)]
      exact hr.queued n hn
  · refine List.nodup_cons.mpr ⟨fun hmem => ?_, hr.ids⟩
    obtain ⟨n, hn, hnid⟩ := List.mem_map.mp hmem
    exact hfresh n hn hnid

omit [EventTypes E] in
theorem active_configure {r' : TimerRef E} (period delay : Duration) :
    ((h.configure r period delay).getTimer r').active = (h.getTimer r').active := by
  rw [getTimer_configure]
  split_ifs with heq
  · rw [heq]
    rfl
  · rfl

/-- The period and the delay of an inactive timer can be changed. -/
theorem configure (hr : RoutedBut h firing) (hidle : (h.getTimer r).active = false)
    (period delay : Duration) : RoutedBut (h.configure r period delay) firing := by
  have hget : ∀ r', ((h.configure r period delay).getTimer r').active = (h.getTimer r').active ∧
      ((h.configure r period delay).getTimer r').key = (h.getTimer r').key ∧
      ((h.configure r period delay).getTimer r').id = (h.getTimer r').id := by
    intro r'
    rw [getTimer_configure]
    split_ifs with heq
    · rw [heq]
      exact ⟨rfl, rfl, rfl⟩
    · exact ⟨rfl, rfl, rfl⟩
  constructor <;> simp -failIfUnchanged only [hget]
  · exact hr.entries
  · exact hr.ownKey
  · exact hr.idle
  · exact hr.pending
  · intro n hn
    have hne : n.ref ≠ r := fun heq =>
      Bool.false_ne_true (hidle.symm.trans (heq ▸ (hr.queued n hn).1))
    rw [getTimer_configure, if_neg hne]
    exact hr.queued n hn
  · exact hr.ids

/-- After `cancel_all` no timer is active. -/
theorem cancelAll (hr : RoutedBut h none) (hok : h.cancelAll = .ok h') : RoutedBut h' none := by
  obtain ⟨h'', hok', hget, hqueue, -, heq⟩ := cancelAll_eq_ok_of
    (fun key v hv => let ⟨r, hv, _⟩ := (hr.entries key v).mp hv; ⟨r, hv⟩)
    (fun r hactive => ⟨_, (hr.entries _ _).mpr ⟨r, rfl, hactive, rfl⟩⟩) hr.idle
    fun n hn => ⟨(hr.queued n hn).1, (hr.queued n hn).2.2.1⟩
  obtain rfl := Except.ok.inj (hok.symm.trans hok')
  have hinactive : ∀ r, (h'.getTimer r).active = false := fun r => by
    rw [hget]
    rfl
  have hempty : h'.activeTimers = ∅ := congrArg TimerHandler.activeTimers heq
  constructor
  · intro key v
    rw [hempty, Table.find?_empty]
    constructor
    · intro hv
      cases hv
    · rintro ⟨r, -, hactive, -⟩
      exact absurd ((hinactive r).symm.trans hactive) Bool.false_ne_true
  · intro r hactive
    exact absurd ((hinactive r).symm.trans hactive) Bool.false_ne_true
  · intro r _
    rw [hget]
    rfl
  · intro r hactive
    exact absurd ((hinactive r).symm.trans hactive) Bool.false_ne_true
  · intro n hn
    rw [hqueue] at hn
    cases hn
  · rw [hqueue]
    exact List.nodup_nil

end RoutedBut

/-! ### Operations and callbacks -/

section Operations

variable {h h' : TimerHandler E} {firing : Option (TimerRef E)} {now : ℤ}

omit [DecidableEq E] [EventTypes E] in
theorem Op.On.imp {P Q : TimerRef E → Prop} {op : Op E} (hPQ : ∀ r, P r → Q r) (h : op.On P) :
    op.On Q := by
  cases op with
  | schedule | scheduleWith | cancel | reschedule => exact hPQ _ h
  | cancelAll => exact h

omit [DecidableEq E] [EventTypes E] in
theorem Op.onOtherType_iff {op : Op E} {eventType : E} :
    op.OnOtherType eventType ↔ op.On (·.eventType ≠ eventType) := by
  cases op <;> rfl

/-- An operation keeps the invariant: between the operations of a run any one, in a callback one on
a timer whose event type has another name than that of the timer that fires. -/
theorem RoutedBut.perform (hr : RoutedBut h firing) {op : Op E} (hfresh : h.Fresh op)
    (htype : ∀ f ∈ firing, op.On fun r => EventTypes.name r.eventType ≠ EventTypes.name f.eventType)
    (hok : h.perform now op = .ok h') : RoutedBut h' firing := by
  have hnot : ∀ r : TimerRef E, (∀ f ∈ firing, EventTypes.name r.eventType ≠
      EventTypes.name f.eventType) → some r ≠ firing := fun r hr heq => hr r heq.symm rfl
  cases op with
  | schedule r id =>
    obtain ⟨hidle, rfl⟩ := schedule_eq_ok.mp hok
    exact hr.arm hidle hfresh.1 hfresh.2 htype
  | scheduleWith r period delay id =>
    obtain ⟨hidle, rfl⟩ := scheduleWith_eq_ok.mp hok
    refine (hr.configure hidle period delay).arm ?_ hfresh.1 hfresh.2 htype
    rw [active_configure, hidle]
  | cancel r =>
    obtain rfl := Except.ok.inj hok
    exact hr.cancel (hnot r htype)
  | reschedule r id =>
    obtain rfl := reschedule_eq_ok.mp hok
    exact { (hr.cancel (hnot r htype)).arm active_getTimer_cancel hfresh.1 hfresh.2 htype with }
  | cancelAll =>
    cases firing with
    | none => exact hr.cancelAll hok
    | some f => exact (htype f rfl).elim

/-- An operation on another timer leaves a timer as it is. -/
theorem getTimer_perform {op : Op E} {r : TimerRef E} (hother : op.On (· ≠ r))
    (hok : h.perform now op = .ok h') : h'.getTimer r = h.getTimer r := by
  cases op with
  | schedule r' id =>
    obtain ⟨-, rfl⟩ := schedule_eq_ok.mp hok
    rw [getTimer_arm, if_neg (Ne.symm hother)]
  | scheduleWith r' period delay id =>
    obtain ⟨-, rfl⟩ := scheduleWith_eq_ok.mp hok
    rw [getTimer_arm, if_neg (Ne.symm hother), getTimer_configure, if_neg (Ne.symm hother)]
  | cancel r' =>
    obtain rfl := Except.ok.inj hok
    exact getTimer_cancel_of_ne (Ne.symm hother)
  | reschedule r' id =>
    obtain rfl := reschedule_eq_ok.mp hok
    rw [getTimer_mayFireFrom, getTimer_arm, if_neg (Ne.symm hother),
      getTimer_cancel_of_ne (Ne.symm hother)]
  | cancelAll => exact hother.elim

/-- A callback on other timers leaves a timer as it is. -/
theorem getTimer_anyTimerFired (h : TimerHandler E) (now : ℤ) {r : TimerRef E}
    {callback : List (Op E)} (hother : ∀ op ∈ callback, op.On (· ≠ r)) :
    (anyTimerFired now h callback).1.getTimer r = h.getTimer r :=
  anyTimerFired_invariant (I := fun g => g.getTimer r = h.getTimer r)
    (P := fun _ op => op.On (· ≠ r)) rfl (along_of_forall fun op hop _ => hother op hop)
    fun _ _ _ hg hop hperform => (getTimer_perform hop hperform).trans hg

/-- A callback keeps the invariant. -/
theorem RoutedBut.anyTimerFired (hr : RoutedBut h firing) {callback : List (Op E)}
    (htype : ∀ op ∈ callback, ∀ f ∈ firing,
      op.On fun r => EventTypes.name r.eventType ≠ EventTypes.name f.eventType)
    (hfresh : Along Fresh now h callback) :
    RoutedBut (anyTimerFired now h callback).1 firing :=
  anyTimerFired_invariant (I := (RoutedBut · firing)) hr
    (hfresh.and (along_of_forall fun op hop _ => htype op hop))
    fun _ _ _ hg hop hperform => hg.perform hop.1 hop.2 hperform

end Operations

/-! ### Upcalls -/

section Upcalls

variable {h : TimerHandler E} {firing : Option (TimerRef E)} {r : TimerRef E} {n : QueueNode E}
  {now : ℤ}

/-- The timer whose upcall runs, if it is a one-shot timer. -/
def firingOneShot (h : TimerHandler E) (r : TimerRef E) : Option (TimerRef E) :=
  if (h.getTimer r).period = 0 then some r else none

omit [EventTypes E] in
theorem eq_of_mem_firingOneShot {f : TimerRef E} (hf : f ∈ h.firingOneShot r) : f = r := by
  rw [firingOneShot] at hf
  split_ifs at hf
  · exact (Option.some.inj hf).symm
  · cases hf

/-- The reactor may make the upcall of any timer on its queue. -/
theorem RoutedBut.dispatch (hr : RoutedBut h none) (hn : n ∈ h.queue) :
    RoutedBut (h.dispatch n) (h.firingOneShot n.ref) := by
  obtain ⟨-, -, -, hinterval⟩ := hr.queued n hn
  have hnodup : h.queue.Nodup := hr.ids.of_map _
  have herase : ∀ m ∈ h.queue, m ∈ h.queue.erase n ↔ m.ref ≠ n.ref := by
    intro m hm
    rw [hnodup.mem_erase_iff]
    refine ⟨fun hmem href => hmem.1 (hr.eq_of_ref hm hn href), fun hne => ⟨fun h => ?_, hm⟩⟩
    exact hne (h ▸ rfl)
  rw [TimerHandler.dispatch, firingOneShot, ← hinterval]
  split_ifs with hzero
  · refine ⟨hr.entries, hr.ownKey, hr.idle, fun r' hactive hne => ?_, fun m hm => ?_,
      hr.ids.sublist (List.erase_sublist.map _)⟩
    · obtain ⟨m, hm, rfl, hmid⟩ := hr.pending r' hactive (Option.some_ne_none r')
      exact ⟨m, (herase m hm).mpr fun heq => hne (congrArg some heq), rfl, hmid⟩
    · have hmem := List.mem_of_mem_erase hm
      obtain ⟨hactive, -, hrest⟩ := hr.queued m hmem
      exact ⟨hactive, fun heq => (herase m hmem).mp hm (Option.some.inj heq), hrest⟩
  · exact { hr with }

theorem RoutedBut.markFired (hr : RoutedBut h firing) : RoutedBut (h.markFired r) firing := by
  rw [TimerHandler.markFired]
  split_ifs
  · exact ⟨hr.entries, hr.ownKey, hr.idle, hr.pending, hr.queued, hr.ids⟩
  · exact hr

/-- The one-shot timer that has fired can be retired. -/
theorem RoutedBut.retireFired (hr : RoutedBut h (some r)) (hactive : (h.getTimer r).active = true) :
    RoutedBut (h.timerWontRun r) none := by
  refine hr.retire hactive h.queue h.armed (List.Sublist.refl _) (fun n hn => ?_) fun r' hne => ?_
  · exact ⟨fun _ heq => (hr.queued n hn).2.1 (congrArg some heq), fun _ => hn⟩
  · exact iff_of_false (Option.some_ne_none r') fun heq => hne (Option.some.inj heq)

/-- `handle_timeout` retires the one-shot timer that has fired, and no other one. -/
theorem RoutedBut.finishTimeout (hr : RoutedBut h (h.firingOneShot r))
    (hactive : (h.getTimer r).active = true) : RoutedBut (h.finishTimeout r) none := by
  rw [TimerHandler.finishTimeout]
  rw [firingOneShot] at hr
  split_ifs at hr ⊢ with hperiod
  · exact { hr.retireFired hactive with }
  · exact { hr with }

omit [EventTypes E] in
/-- The callback of an upcall starts with the timers as they are. -/
theorem timers_calledBack {fired : TimerRef E} :
    ((h.dispatch n).calledBack r fired).timers = h.timers := by
  rw [calledBack, TimerHandler.markFired]
  split_ifs <;> rfl

omit [EventTypes E] in
theorem getTimer_calledBack {f fired : TimerRef E} :
    ((h.dispatch n).calledBack r fired).getTimer f = h.getTimer f := by
  rw [getTimer, timers_calledBack, getTimer]

/-- An upcall finds its own timer, and keeps the invariant if its callback returns. -/
theorem RoutedBut.upcall (hname : Function.Injective (EventTypes.name : E → String))
    (hr : RoutedBut h none) {callback : List (Op E)}
    (hassumed : h.Assumed now (.upcall n callback)) :
    (h.dispatch n).timerFor n.ref = some n.ref ∧
      ((h.dispatch n).throws now n.ref callback = false →
        RoutedBut ((h.dispatch n).handleTimeout now n.ref callback) none) := by
  obtain ⟨hn, htype, hfresh⟩ := hassumed
  have hdispatched := hr.dispatch hn
  have hactive : ((h.dispatch n).getTimer n.ref).active = true := (hr.queued n hn).1
  have hfor := hdispatched.timerFor_eq hactive
  refine ⟨hfor, fun hreturns => ?_⟩
  simp only [throws, hfor] at hreturns
  simp only [handleTimeout, hfor]
  have hcalled : RoutedBut ((h.dispatch n).calledBack n.ref n.ref) (h.firingOneShot n.ref) := by
    rw [calledBack, lookedUp_of_timerFor hfor]
    exact hdispatched.markFired
  have hother : ∀ op ∈ callback, op.On (·.eventType ≠ n.ref.eventType) :=
    fun op hop => Op.onOtherType_iff.mp (htype op hop)
  have hran := hcalled.anyTimerFired (fun op hop f hf => (hother op hop).imp fun r hne =>
    eq_of_mem_firingOneShot hf ▸ hname.ne hne) (hfresh n.ref hfor)
  have hget := getTimer_anyTimerFired ((h.dispatch n).calledBack n.ref n.ref) now
    fun op hop => (hother op hop).imp fun r hne heq => hne (congrArg TimerRef.eventType heq)
  split
  · next h' hrun =>
    rw [hrun] at hran hget
    have hget' : h'.getTimer n.ref = h.getTimer n.ref := hget.trans getTimer_calledBack
    refine RoutedBut.finishTimeout ?_ ?_
    · rwa [firingOneShot, hget']
    · rw [hget']
      exact hactive
  · next h' hrun =>
    rw [hrun] at hreturns
    cases hreturns

end Upcalls

/-! ### Runs -/

/-- The invariant holds between the operations of every run. -/
theorem IsReactorRun.routedBut (hname : Function.Injective (EventTypes.name : E → String))
    {tr : List (Transition (Process E) (ℤ × ReactorEvent E))} {p : Process E}
    (hrun : IsReactorRun tr p) : ∀ h, p = .running h → RoutedBut h none := by
  refine hrun.invariant (P := fun p => ∀ h, p = .running h → RoutedBut h none) ?_ ?_
  · rintro h ⟨⟩
    exact .init
  · rintro p ⟨now, event⟩ p' hp ⟨h, rfl, hassumed, rfl⟩ h' hp'
    have hr := hp h rfl
    cases event with
    | perform op =>
      obtain rfl := Process.running.inj hp'
      exact act_perform_invariant (I := (RoutedBut · none)) hr
        fun h₁ hperform => hr.perform hassumed (fun f hf => by cases hf) hperform
    | upcall n callback =>
      have hkept := (hr.upcall hname hassumed).2
      simp only [afterEvent] at hp'
      split_ifs at hp' with hthrows
      obtain rfl := Process.running.inj hp'
      exact hkept (Bool.eq_false_iff.mpr hthrows)

/-- **Recycled ids.** If the names of the event types differ, then between the operations of every
run `active_timers_` has exactly one entry for each active timer, under its own key, and no other,
each active timer is on the queue of the reactor under its id, and every upcall of the run has
found the timer it was made for. -/
theorem routed_of_run (hname : Function.Injective (EventTypes.name : E → String))
    {tr : List (Transition (Process E) (ℤ × ReactorEvent E))} {h : TimerHandler E}
    (hrun : IsReactorRun tr (.running h)) :
    h.Routed ∧ ∀ t ∈ tr, ∀ h' n callback, t.source = .running h' →
      t.label.2 = .upcall n callback → (h'.dispatch n).timerFor n.ref = some n.ref := by
  refine ⟨(hrun.routedBut hname h rfl).routed, ?_⟩
  rintro ⟨p, ⟨now, event⟩, p'⟩ ht h' n callback rfl rfl
  obtain ⟨pre, hbefore, h'', heq, hassumed, -⟩ := IsRun.of_mem hrun ht
  obtain rfl := Process.running.inj heq
  exact ((IsReactorRun.routedBut hname hbefore h' rfl).upcall hname hassumed).1

/-- The event types of `ControllerSelector`. -/
inductive SelectorEvent
  | newController
  | missedHeartbeat
  | lostController
  | noControllers
deriving DecidableEq

instance : EventTypes SelectorEvent where
  name
    | .newController => "NewController"
    | .missedHeartbeat => "MissedHeartbeat"
    | .lostController => "LostController"
    | .noControllers => "NoControllers"

theorem SelectorEvent.name_injective :
    Function.Injective (EventTypes.name : SelectorEvent → String) := by
  intro e e' h
  cases e <;> cases e' <;> first | rfl | exact absurd h (by decide)

/-- A missed heartbeat schedules a lost controller under its own id. -/
theorem routed_of_reused_id : ∃ (tr : List (Transition (Process SelectorEvent)
      (ℤ × ReactorEvent SelectorEvent))) (h : TimerHandler SelectorEvent),
    IsReactorRun tr (.running h) ∧
      (h.getTimer ⟨.lostController, ""⟩).key = "1_LostController" ∧
      (h.getTimer ⟨.missedHeartbeat, ""⟩).active = false ∧ h.Routed :=
  have hrun := isRun_of_follow (Process.step_of_next? (E := SelectorEvent))
    [(0, .perform (.scheduleWith ⟨.missedHeartbeat, ""⟩ 0 (Sec 3) 1)),
      (Sec 3, .upcall ⟨1, ⟨.missedHeartbeat, ""⟩, Sec 3, 0⟩
        [.scheduleWith ⟨.lostController, ""⟩ 0 (Sec 6) 1])] rfl
  ⟨_, _, hrun, by decide, by decide, (routed_of_run SelectorEvent.name_injective hrun).1⟩

end TimerHandler

end TacticalMicrogrid
