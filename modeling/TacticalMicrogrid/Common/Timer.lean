import TacticalMicrogrid.DataModel

/-!
# Clock readings and timers

`common/TimerHandler.h` measures time with `std::chrono::system_clock` and holds a duration in
seconds as a `double`. A clock reading is here an integer number of nanoseconds since the epoch and
a duration is an exact integer number of nanoseconds. How a `TimePoint` stores a reading, and what
`now - t` gives, is left to the class `TimePoint`. `ExactTime` stores readings exactly and makes
`TimePoint::min()` infinitely old. `Int64` is the representation of the source, in which the age of
`TimePoint::min()` wraps around.

A `Timer` is what a user of `TimerHandler` sees of one: whether it is active, when it is due, and
the delay that its next `reschedule` uses again.

## Main definitions

* `Duration`, `Sec`, `TimePoint`, `ExactTime`.
* `Timer`, `Timer.active`, `Timer.schedule`, `Timer.scheduleOnce`, `Timer.cancel`,
  `Timer.reschedule`, `Timer.afterUpcall`.

## Main results

* `Timer.scheduleOnce_of_inactive`, `Timer.scheduleOnce_of_active`: scheduling throws exactly on
  an active timer.
* `Timer.reschedule_eq`: rescheduling never throws and uses the stored delay.
-/

namespace TacticalMicrogrid

/-! ### Time -/

/-- A duration in nanoseconds. -/
abbrev Duration := ℤ

/-- `Sec(n)`, a number of seconds. -/
def Sec (n : ℤ) : Duration := n * 1000000000

/-- How a `std::chrono::time_point` of the system clock is stored and subtracted. -/
class TimePoint (τ : Type) where
  /-- What `Clock::now()` returns at a clock reading. -/
  now : ℤ → τ
  /-- `TimePoint::min()`. -/
  min : τ
  /-- `Clock::now() - t` at a clock reading; `none` is an infinite age. -/
  age : ℤ → τ → Option Duration

/-- A time point without rounding or overflow; `none` is `TimePoint::min()`, before every
reading. -/
abbrev ExactTime := Option ℤ

instance : TimePoint ExactTime where
  now n := some n
  min := none
  age n t := t.map (n - ·)

/-- A time point as a signed 64-bit number of ticks, with wrap-around. -/
instance : TimePoint Int64 where
  now n := Int64.ofInt n
  min := Int64.minValue
  age n t := some (Int64.ofInt n - t).toInt

@[simp] theorem ExactTime.now_eq (n : ℤ) : (TimePoint.now n : ExactTime) = some n := rfl

@[simp] theorem ExactTime.min_eq : (TimePoint.min : ExactTime) = none := rfl

@[simp] theorem ExactTime.age_none (n : ℤ) : TimePoint.age n (none : ExactTime) = none := rfl

@[simp] theorem ExactTime.age_some (n t : ℤ) :
    TimePoint.age n (some t : ExactTime) = some (n - t) := rfl

/-! ### Timers -/

/-- The event types of a `TimerHandler`, each with the `name()` that its messages use. -/
class EventType (Arg : Type) where
  name : String

/-- A timer of one event type. `expiry` is the clock reading from which its timeout may be
delivered; an inactive timer has none. The period and the delay stay when a timer is cancelled. -/
structure Timer (Arg : Type) where
  arg : Arg
  period : Duration := 0
  delay : Duration := 0
  expiry : Option ℤ := none

namespace Timer

variable {Arg : Type}

/-- `Timer::active`. -/
def active (t : Timer Arg) : Bool := t.expiry.isSome

/-- `TimerHandler::cancel`. -/
def cancel (t : Timer Arg) : Timer Arg := { t with expiry := none }

/-- What `TimerHandler::handle_timeout` leaves of a timer after its upcall: a one-shot timer is
retired, a periodic one stays active. -/
def afterUpcall (t : Timer Arg) : Timer Arg :=
  if t.period = 0 then { t with expiry := none } else t

/-- The timer armed as a one-shot timer. -/
def armed (t : Timer Arg) (arg : Arg) (delay : Duration) (now : ℤ) : Timer Arg :=
  { t with arg := arg, period := 0, delay := delay, expiry := some (now + delay) }

/-- The timer armed again with the delay it has. -/
def rearmed (t : Timer Arg) (now : ℤ) : Timer Arg := { t with expiry := some (now + t.delay) }

theorem active_eq_false_iff {t : Timer Arg} : t.active = false ↔ t.expiry = none := by
  simp [active]

theorem active_iff {t : Timer Arg} : t.active = true ↔ ∃ d, t.expiry = some d := by
  simp [active, Option.isSome_iff_exists]

@[simp] theorem expiry_cancel (t : Timer Arg) : t.cancel.expiry = none := rfl
@[simp] theorem period_cancel (t : Timer Arg) : t.cancel.period = t.period := rfl
@[simp] theorem delay_cancel (t : Timer Arg) : t.cancel.delay = t.delay := rfl
@[simp] theorem active_cancel (t : Timer Arg) : t.cancel.active = false := rfl

section Armed

variable (t : Timer Arg) (arg : Arg) (delay : Duration) (now : ℤ)

@[simp] theorem expiry_armed : (t.armed arg delay now).expiry = some (now + delay) := rfl
@[simp] theorem period_armed : (t.armed arg delay now).period = 0 := rfl
@[simp] theorem delay_armed : (t.armed arg delay now).delay = delay := rfl
@[simp] theorem active_armed : (t.armed arg delay now).active = true := rfl

@[simp] theorem expiry_rearmed : (t.rearmed now).expiry = some (now + t.delay) := rfl
@[simp] theorem period_rearmed : (t.rearmed now).period = t.period := rfl
@[simp] theorem delay_rearmed : (t.rearmed now).delay = t.delay := rfl
@[simp] theorem active_rearmed : (t.rearmed now).active = true := rfl

end Armed

theorem afterUpcall_of_period {t : Timer Arg} (h : t.period = 0) : t.afterUpcall = t.cancel := by
  rw [afterUpcall, if_pos h, cancel]

/-! ### Scheduling -/

variable [EventType Arg]

/-- `Timer::display_name` of the timer with the empty name. -/
def displayName (_ : Timer Arg) : String := "Timer<\"" ++ EventType.name Arg ++ "\">"

/-- `TimerHandler::assert_inactive`. -/
def assertInactive (t : Timer Arg) : Except String Unit :=
  if t.active then throw ("Can't schedule " ++ t.displayName ++ ", already active!") else pure ()

/-- `TimerHandler::schedule(timer)` at a clock reading. -/
def schedule (t : Timer Arg) (now : ℤ) : Except String (Timer Arg) := do
  t.assertInactive
  return t.rearmed now

/-- `TimerHandler::schedule_once(arg, delay)` at a clock reading. -/
def scheduleOnce (t : Timer Arg) (arg : Arg) (delay : Duration) (now : ℤ) :
    Except String (Timer Arg) := do
  t.assertInactive
  { t with arg := arg, period := 0, delay := delay }.schedule now

/-- `TimerHandler::reschedule` at a clock reading: the timer keeps the delay it has. -/
def reschedule (t : Timer Arg) (now : ℤ) : Except String (Timer Arg) :=
  t.cancel.schedule now

theorem assertInactive_of_inactive {t : Timer Arg} (h : t.active = false) :
    t.assertInactive = .ok () := by
  rw [assertInactive, h]
  rfl

theorem schedule_of_inactive {t : Timer Arg} (h : t.active = false) (now : ℤ) :
    t.schedule now = .ok (t.rearmed now) := by
  rw [schedule, assertInactive_of_inactive h]
  rfl

theorem scheduleOnce_of_inactive {t : Timer Arg} (h : t.active = false) (arg : Arg)
    (delay : Duration) (now : ℤ) : t.scheduleOnce arg delay now = .ok (t.armed arg delay now) := by
  rw [scheduleOnce, assertInactive_of_inactive h]
  exact schedule_of_inactive (t := { t with arg := arg, period := 0, delay := delay }) h now

theorem scheduleOnce_of_active {t : Timer Arg} (h : t.active = true) (arg : Arg)
    (delay : Duration) (now : ℤ) : t.scheduleOnce arg delay now =
      .error ("Can't schedule " ++ t.displayName ++ ", already active!") := by
  rw [scheduleOnce, assertInactive, h]
  rfl

@[simp] theorem reschedule_eq (t : Timer Arg) (now : ℤ) :
    t.reschedule now = .ok (t.rearmed now) :=
  schedule_of_inactive (t := t.cancel) rfl now

end Timer

end TacticalMicrogrid
