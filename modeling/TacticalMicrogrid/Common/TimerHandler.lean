import TacticalMicrogrid.Common.Timer
import TacticalMicrogrid.Library.Run
import TacticalMicrogrid.Library.Table

/-!
# Timers on a reactor

`common/TimerHandler.h`: a set of timers on the timer queue of an ACE reactor. The reactor gives
every scheduled timer an id and hands the address of the timer's key string back with the timeout;
`active_timers_` maps key strings to timers. The reactor may have taken an expired timer off its
queue, with the upcall waiting for `lock_`, when an operation runs. Every operation and every
`handle_timeout` is one step, since they hold `lock_`; the callback of a timeout runs under the
same lock and is a list of operations.

The argument of an event is left out. A duration, a `double` of the source in seconds, is here the
whole nanoseconds of it; `toTimeValue` truncates it to microseconds for the reactor, so the reactor
may get a shorter delay: 2.9 s is held as a little less, and becomes 2.899999 s. A period is handed
on as it is, since none is shorter than a microsecond. Of the reactor it is assumed that a timer
leaves its queue when it expires, unless it has a period; whether a periodic timer is put back, and
when it is due again, is left open.

The field `armed` is a history variable: it says from when on each scheduled timer may fire, and no
function of the program reads it. A timer may fire when the delay that the reactor has been given
has elapsed, but one that has been rescheduled only when its own delay has.

## Main definitions

* `toTimeValue`, `TimerRef`, `KeyedTimer`, `QueueNode`, `TimerHandler`.
* `TimerHandler.schedule`, `TimerHandler.cancel`, `TimerHandler.reschedule`,
  `TimerHandler.cancelAll`, `TimerHandler.handleTimeout`.
* `TimerHandler.Step`: the steps of a handler with its reactor. `TimerHandler.next?` computes one.

## Main results

* `TimerHandler.anyTimerFired_invariant`, `TimerHandler.foldl_of_returns`: a callback, from its
  operations.
* `TimerHandler.isHandlerRun_of_follow`: computed runs are runs.
-/

namespace TacticalMicrogrid

open TransitionSystem

/-! ### Durations for the reactor -/

/-- A microsecond. -/
def microsecond : Duration := 1000

/-- `to_time_value`: the whole microseconds of a duration, towards zero. -/
def toTimeValue (d : Duration) : Duration := d.tdiv microsecond * microsecond

/-- The reactor gets less than a microsecond too little. -/
theorem lt_toTimeValue_add (d : Duration) : d < toTimeValue d + microsecond :=
  calc
    d = d.tdiv microsecond * microsecond + d.tmod microsecond :=
      (Int.tdiv_mul_add_tmod d microsecond).symm
    _ < d.tdiv microsecond * microsecond + microsecond :=
      Int.add_lt_add_left (Int.tmod_lt_of_pos d (by decide)) _

/-- A delay is not shortened exactly if it is a whole number of microseconds. -/
theorem le_toTimeValue_iff {d : Duration} (h : 0 ≤ d) :
    d ≤ toTimeValue d ↔ microsecond ∣ d := by
  have hdiv := Int.tdiv_mul_add_tmod d microsecond
  have hmod := Int.tmod_nonneg microsecond h
  rw [toTimeValue, Int.dvd_iff_tmod_eq_zero]
  constructor
  · intro hle
    exact le_antisymm (Int.le_of_add_le_add_left (by rwa [hdiv, Int.add_zero])) hmod
  · intro hzero
    rw [hzero, Int.add_zero] at hdiv
    exact hdiv.ge

/-! ### Timers, keys and the reactor -/

/-- The event types of one handler, each with its `name()`. -/
class EventTypes (E : Type) where
  name : E → String

/-- What `get_timer` finds a timer by: its event type and its name. -/
structure TimerRef (E : Type) where
  eventType : E
  name : String := ""
deriving DecidableEq

/-- `Timer<EventType>` as the handler sees it. -/
structure KeyedTimer where
  id : ℕ := 0
  key : String := ""
  period : Duration := 0
  delay : Duration := 0
  exitAfter : Bool := false
deriving DecidableEq

/-- A timer on the queue of the reactor; its upcall gets the address of the key of `ref`. The
interval is the period that it has been scheduled with. -/
structure QueueNode (E : Type) where
  id : ℕ
  ref : TimerRef E
  due : ℤ
  interval : Duration
deriving DecidableEq

/-- `null_timer_id`. -/
def nullTimerId : ℕ := 0

namespace KeyedTimer

/-- `Timer::active`. -/
def active (t : KeyedTimer) : Bool := t.id != nullTimerId

/-- `Timer::deactivate`. -/
def deactivate (t : KeyedTimer) : KeyedTimer := { t with id := nullTimerId, key := "" }

end KeyedTimer

namespace TimerRef

variable {E : Type} [EventTypes E]

/-- The key that `Timer::activate` makes of an id. -/
def makeKey (r : TimerRef E) (id : ℕ) : String :=
  toString id ++ "_" ++ EventTypes.name r.eventType

/-- `Timer::activate`. -/
def activate (r : TimerRef E) (t : KeyedTimer) (id : ℕ) : KeyedTimer :=
  { t with id := id, key := r.makeKey id }

/-- `Timer::display_name`. -/
def displayName (r : TimerRef E) : String :=
  "Timer<\"" ++ EventTypes.name r.eventType ++ "\">" ++
    if r.name = "" then "" else "\"" ++ r.name ++ "\""

end TimerRef

/-- A `TimerHandler` with its part of the reactor: the queue, and the timers whose upcalls wait for
`lock_`. A null pointer in `active_timers_` is `none`. -/
structure TimerHandler (E : Type) [DecidableEq E] where
  timers : Table (TimerRef E) KeyedTimer := ∅
  activeTimers : Table String (Option (TimerRef E)) := ∅
  eventLoopEnded : Bool := false
  queue : List (QueueNode E) := []
  waiting : List (TimerRef E) := []
  armed : Table (TimerRef E) ℤ := ∅

namespace TimerHandler

variable {E : Type} [DecidableEq E]

/-! ### Operations -/

/-- `TimerHandler::get_timer`. -/
def getTimer (h : TimerHandler E) (r : TimerRef E) : KeyedTimer := (h.timers.find? r).getD {}

/-- `reactor_->cancel_timer`. -/
def cancelTimer (h : TimerHandler E) (id : ℕ) : TimerHandler E :=
  { h with queue := h.queue.filter (·.id ≠ id) }

/-- `TimerHandler::timer_wont_run`. -/
def timerWontRun (h : TimerHandler E) (r : TimerRef E) : TimerHandler E :=
  { h with
    timers := h.timers.set r (h.getTimer r).deactivate
    activeTimers := h.activeTimers.erase (h.getTimer r).key }

/-- `TimerHandler::cancel`. -/
def cancel (h : TimerHandler E) (r : TimerRef E) : TimerHandler E :=
  if (h.getTimer r).active then
    let h := h.cancelTimer (h.getTimer r).id
    { h.timerWontRun r with armed := h.armed.erase r }
  else h

/-- The body of the loop of `TimerHandler::cancel_all`, for the timer of an entry. -/
def cancelEntry (h : TimerHandler E) : Option (TimerRef E) → Except String (TimerHandler E)
  | none => throw "null timer"
  | some r =>
    let h := h.cancelTimer (h.getTimer r).id
    return { h with timers := h.timers.set r (h.getTimer r).deactivate }

/-- `TimerHandler::cancel_all`. -/
def cancelAll (h : TimerHandler E) : Except String (TimerHandler E) := do
  let h ← (h.activeTimers.entries.map (·.2)).foldlM cancelEntry h
  return { h with activeTimers := ∅, armed := ∅ }

variable [EventTypes E]

/-- `TimerHandler::assert_inactive`. -/
def assertInactive (h : TimerHandler E) (r : TimerRef E) : Except String Unit :=
  if (h.getTimer r).active then
    throw ("Can't schedule " ++ r.displayName ++ ", already active!")
  else pure ()

/-- The effect of `TimerHandler::schedule(timer)` on an inactive timer, when the reactor returns
an id. -/
def arm (h : TimerHandler E) (r : TimerRef E) (now : ℤ) (id : ℕ) : TimerHandler E :=
  let t := r.activate (h.getTimer r) id
  { h with
    timers := h.timers.set r t
    activeTimers := h.activeTimers.set t.key (some r)
    queue := ⟨id, r, now + toTimeValue t.delay, t.period⟩ :: h.queue
    armed := h.armed.set r (now + toTimeValue t.delay) }

/-- `TimerHandler::schedule(timer)`. -/
def schedule (h : TimerHandler E) (r : TimerRef E) (now : ℤ) (id : ℕ) :
    Except String (TimerHandler E) := do
  h.assertInactive r
  return h.arm r now id

/-- The timer with another period and delay. -/
def configure (h : TimerHandler E) (r : TimerRef E) (period delay : Duration) : TimerHandler E :=
  { h with timers := h.timers.set r { h.getTimer r with period := period, delay := delay } }

/-- `TimerHandler::schedule(name, arg, period, delay)`. -/
def scheduleWith (h : TimerHandler E) (r : TimerRef E) (period delay : Duration) (now : ℤ)
    (id : ℕ) : Except String (TimerHandler E) := do
  h.assertInactive r
  (h.configure r period delay).schedule r now id

omit [EventTypes E] in
/-- The timer may fire from a clock reading on. -/
def mayFireFrom (h : TimerHandler E) (r : TimerRef E) (start : ℤ) : TimerHandler E :=
  { h with armed := h.armed.set r start }

/-- `TimerHandler::reschedule`. -/
def reschedule (h : TimerHandler E) (r : TimerRef E) (now : ℤ) (id : ℕ) :
    Except String (TimerHandler E) := do
  let h ← (h.cancel r).schedule r now id
  return h.mayFireFrom r (now + (h.getTimer r).delay)

/-- An operation that any thread or callback may call, with the id that the reactor returns. -/
inductive Op (E : Type)
  | schedule (r : TimerRef E) (id : ℕ)
  | scheduleWith (r : TimerRef E) (period delay : Duration) (id : ℕ)
  | cancel (r : TimerRef E)
  | reschedule (r : TimerRef E) (id : ℕ)
  | cancelAll
deriving DecidableEq

/-- An operation at a clock reading. -/
def perform (h : TimerHandler E) (now : ℤ) : Op E → Except String (TimerHandler E)
  | .schedule r id => h.schedule r now id
  | .scheduleWith r period delay id => h.scheduleWith r period delay now id
  | .cancel r => return h.cancel r
  | .reschedule r id => h.reschedule r now id
  | .cancelAll => h.cancelAll

/-! ### Timeouts -/

/-- The timer that `active_timers_[key]` gives for the key of a timer; `none` is the null pointer,
which `operator[]` puts there if the key does not exist. -/
def timerFor (h : TimerHandler E) (r : TimerRef E) : Option (TimerRef E) :=
  (h.activeTimers.find? (h.getTimer r).key).join

/-- What `active_timers_[key]` leaves. -/
def lookedUp (h : TimerHandler E) (r : TimerRef E) : TimerHandler E :=
  { h with activeTimers := h.activeTimers.insertNew (h.getTimer r).key none }

/-- The timer has fired: if it is a one-shot timer, it may not fire again. -/
def markFired (h : TimerHandler E) (r : TimerRef E) : TimerHandler E :=
  if (h.getTimer r).period = 0 then { h with armed := h.armed.erase r } else h

/-- The operations of a callback in their order; the first one that throws ends it. The result
says whether the callback has returned. -/
def anyTimerFired (now : ℤ) : TimerHandler E → List (Op E) → TimerHandler E × Bool
  | h, [] => (h, true)
  | h, op :: ops =>
    match h.perform now op with
    | .ok h => anyTimerFired now h ops
    | .error _ => (h, false)

/-- What `handle_timeout` does after the callback has returned. -/
def finishTimeout (h : TimerHandler E) (r : TimerRef E) : TimerHandler E :=
  let h := if (h.getTimer r).period = 0 then h.timerWontRun r else h
  { h with eventLoopEnded := h.eventLoopEnded || (h.getTimer r).exitAfter }

omit [EventTypes E] in
/-- The handler as the callback finds it. -/
def calledBack (h : TimerHandler E) (r fired : TimerRef E) : TimerHandler E :=
  (h.lookedUp r).markFired fired

/-- `TimerHandler::handle_timeout` for the address of the key of a timer, with the operations of
the callback. With a null pointer no callback is run. -/
def handleTimeout (h : TimerHandler E) (now : ℤ) (r : TimerRef E) (callback : List (Op E)) :
    TimerHandler E :=
  match h.timerFor r with
  | none => h.lookedUp r
  | some fired =>
    match anyTimerFired now (h.calledBack r fired) callback with
    | (h, true) => h.finishTimeout fired
    | (h, false) => h

/-! ### Steps and runs -/

omit [EventTypes E] in
/-- The reactor takes an expired timer off its queue, and may put it back with another reading at
which it is due; its upcall waits. -/
def expire (h : TimerHandler E) (n : QueueNode E) (again : Option ℤ) : TimerHandler E :=
  { h with
    queue := (again.map fun due => { n with due }).toList ++ h.queue.erase n
    waiting := n.ref :: h.waiting }

/-- What can happen to a handler: an operation, a timer that expires, or an upcall that obtains
`lock_`, with the operations of its callback. -/
inductive Action (E : Type)
  | perform (op : Op E)
  | expire (n : QueueNode E) (again : Option ℤ)
  | upcall (r : TimerRef E) (callback : List (Op E))
deriving DecidableEq

/-- A step of a run. -/
structure Label (E : Type) where
  now : ℤ
  action : Action E
deriving DecidableEq

omit [EventTypes E] in
/-- The upcall of a timer obtains `lock_`. -/
def obtainLock (h : TimerHandler E) (r : TimerRef E) : TimerHandler E :=
  { h with waiting := h.waiting.erase r }

/-- The handler after an action. An operation that throws changes nothing. -/
def act (h : TimerHandler E) (now : ℤ) : Action E → TimerHandler E
  | .perform op =>
    match h.perform now op with
    | .ok h => h
    | .error _ => h
  | .expire n again => h.expire n again
  | .upcall r callback => (h.obtainLock r).handleTimeout now r callback

/-- A property of every operation of a list and the handler on which it is performed. -/
def Along (P : TimerHandler E → Op E → Prop) (now : ℤ) : TimerHandler E → List (Op E) → Prop
  | _, [] => True
  | h, op :: ops => P h op ∧ ∀ h', h.perform now op = .ok h' → Along P now h' ops

omit [EventTypes E] in
/-- The reactor returns an id that is not null and that no timer on its queue has. A timer that is
rescheduled has left the queue before. -/
def Fresh (h : TimerHandler E) : Op E → Prop
  | .schedule _ id | .scheduleWith _ _ _ id => id ≠ nullTimerId ∧ ∀ n ∈ h.queue, n.id ≠ id
  | .reschedule r id => id ≠ nullTimerId ∧ ∀ n ∈ (h.cancel r).queue, n.id ≠ id
  | .cancel _ | .cancelAll => True

omit [EventTypes E] in
/-- What the reactor does: ids are fresh, only timers that are due expire, only those with a period
are put back on the queue and are not due sooner than they were, and only upcalls of expired timers
are made. -/
def Admissible (h : TimerHandler E) (now : ℤ) : Action E → Prop
  | .perform op => h.Fresh op
  | .expire n again =>
    n ∈ h.queue ∧ n.due ≤ now ∧ ∀ due ∈ again, n.interval ≠ 0 ∧ n.due ≤ due
  | .upcall r callback => r ∈ h.waiting ∧
      ∀ fired ∈ h.timerFor r, Along Fresh now ((h.obtainLock r).calledBack r fired) callback

omit [EventTypes E] in
instance (h : TimerHandler E) : (op : Op E) → Decidable (h.Fresh op)
  | .schedule _ id | .scheduleWith _ _ _ id =>
    inferInstanceAs (Decidable (id ≠ nullTimerId ∧ ∀ n ∈ h.queue, n.id ≠ id))
  | .reschedule r id =>
    inferInstanceAs (Decidable (id ≠ nullTimerId ∧ ∀ n ∈ (h.cancel r).queue, n.id ≠ id))
  | .cancel _ | .cancelAll => isTrue trivial

instance decidableAlong (P : TimerHandler E → Op E → Prop) [∀ h op, Decidable (P h op)] (now : ℤ) :
    (h : TimerHandler E) → (ops : List (Op E)) → Decidable (Along P now h ops)
  | _, [] => isTrue trivial
  | h, op :: ops =>
    match hperform : h.perform now op with
    | .ok h' =>
      have := decidableAlong P now h' ops
      decidable_of_iff (P h op ∧ Along P now h' ops) (by simp [Along, hperform])
    | .error _ => decidable_of_iff (P h op) (by simp [Along, hperform])

instance (h : TimerHandler E) (now : ℤ) : (a : Action E) → Decidable (h.Admissible now a)
  | .perform op => inferInstanceAs (Decidable (h.Fresh op))
  | .expire n again => inferInstanceAs (Decidable (n ∈ h.queue ∧ n.due ≤ now ∧ ∀ due ∈ again, _))
  | .upcall r _ => inferInstanceAs (Decidable (r ∈ h.waiting ∧ ∀ fired ∈ h.timerFor r, _))

/-! ### What operations keep -/

section Keep

variable {h h' : TimerHandler E} {now : ℤ} {ops : List (Op E)} {P Q : TimerHandler E → Op E → Prop}
  {I : TimerHandler E → Prop}

theorem Along.and (hP : Along P now h ops) (hQ : Along Q now h ops) :
    Along (fun g op => P g op ∧ Q g op) now h ops := by
  induction ops generalizing h with
  | nil => trivial
  | cons op ops ih =>
    exact ⟨⟨hP.1, hQ.1⟩, fun h' hperform => ih (hP.2 h' hperform) (hQ.2 h' hperform)⟩

theorem along_of_forall (hP : ∀ op ∈ ops, ∀ g, P g op) : Along P now h ops := by
  induction ops generalizing h with
  | nil => trivial
  | cons op ops ih =>
    exact ⟨hP op List.mem_cons_self h,
      fun _ _ => ih fun op' hop' => hP op' (List.mem_cons_of_mem _ hop')⟩

/-- What the operations keep that meet a condition, a callback of such operations keeps. -/
theorem anyTimerFired_invariant (hI : I h) (hP : Along P now h ops)
    (hkeep : ∀ g op g', I g → P g op → g.perform now op = .ok g' → I g') :
    I (anyTimerFired now h ops).1 := by
  induction ops generalizing h with
  | nil => exact hI
  | cons op ops ih =>
    rw [anyTimerFired]
    cases hperform : h.perform now op with
    | error msg => exact hI
    | ok h₁ => exact ih (hkeep h op h₁ hI hP.1 hperform) (hP.2 h₁ hperform)

/-- A value that every operation changes in its own way, after a callback that has returned. -/
theorem foldl_of_returns {β : Type*} {f : TimerHandler E → β} {step : β → Op E → β}
    (hP : Along P now h ops)
    (hstep : ∀ g op g', P g op → g.perform now op = .ok g' → f g' = step (f g) op)
    (hreturns : anyTimerFired now h ops = (h', true)) : f h' = ops.foldl step (f h) := by
  induction ops generalizing h with
  | nil =>
    obtain ⟨rfl, -⟩ := Prod.mk.inj hreturns
    rfl
  | cons op ops ih =>
    rw [anyTimerFired] at hreturns
    split at hreturns
    · next h₁ hperform =>
      rw [ih (hP.2 h₁ hperform) hreturns, hstep h op h₁ hP.1 hperform, List.foldl_cons]
    · cases hreturns

/-- An operation between the upcalls changes nothing if it throws. -/
theorem act_perform_invariant {op : Op E} (hI : I h)
    (hkeep : ∀ h', h.perform now op = .ok h' → I h') : I (h.act now (.perform op)) := by
  rw [act]
  cases hperform : h.perform now op with
  | error msg => exact hI
  | ok h' => exact hkeep h' hperform

end Keep

/-- A handler and the last clock reading. -/
structure Config (E : Type) [DecidableEq E] where
  handler : TimerHandler E := {}
  clock : ℤ

/-- The steps of a handler. -/
def Step (c : Config E) (l : Label E) (c' : Config E) : Prop :=
  c.clock ≤ l.now ∧ c.handler.Admissible l.now l.action ∧
    c' = ⟨c.handler.act l.now l.action, l.now⟩

/-- The transitions of a run of a handler. -/
abbrev Trace (E : Type) [DecidableEq E] := List (Transition (Config E) (Label E))

/-- `tr` is a run of a new handler, which ends in `c`. -/
def IsHandlerRun (tr : Trace E) (c : Config E) : Prop :=
  ∃ clock, IsRun Step ⟨{}, clock⟩ tr c

/-- The step for a label, if it can be taken. -/
def next? (c : Config E) (l : Label E) : Option (Label E × Config E) :=
  if c.clock ≤ l.now ∧ c.handler.Admissible l.now l.action then
    some (l, ⟨c.handler.act l.now l.action, l.now⟩)
  else none

theorem step_of_next? (c : Config E) (l l' : Label E) (c' : Config E)
    (h : next? c l = some (l', c')) : Step c l' c' := by
  obtain ⟨henabled, rfl, rfl⟩ := of_guard_eq_some h
  exact ⟨henabled.1, henabled.2, rfl⟩

/-- The computed run along a list of labels is a run. -/
theorem isHandlerRun_of_follow (clock : ℤ) (ls : List (Label E)) {tr : Trace E} {c : Config E}
    (h : follow next? ⟨{}, clock⟩ ls = some (tr, c)) : IsHandlerRun tr c :=
  ⟨clock, isRun_of_follow step_of_next? ls h⟩

end TimerHandler

end TacticalMicrogrid
