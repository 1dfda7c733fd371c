import TacticalMicrogrid.Common.TimerHandler.Soundness
import Mathlib.Logic.Function.Basic

/-!
# The timers that a handler shows

A user of a handler, such as the controller selector, sees `Timer`s: active or not, with a period,
a delay and an expiry. In the runs of careful actions the handler with its keys, its table of
active timers and its reactor behaves as such timers do: every operation throws or acts as it does
on them, and every upcall is that of an active timer that is due, or will be in less than a
microsecond.

## Main definitions

* `TimerHandler.Op.onTimers`, `TimerHandler.Action.onTimers`: operations and actions on timers.
* `TimerHandler.Shows`: a timer of a handler is as its user sees it.

## Main results

* `TimerHandler.Shows.act`: every careful action keeps the timers as their users see them.
* `TimerHandler.shows_of_run`: so does every run of careful actions.
* `TimerHandler.due_of_upcall`: an upcall is that of an active timer that is due.
-/

namespace TacticalMicrogrid

open TransitionSystem

namespace TimerHandler

variable {E : Type} [DecidableEq E]

/-! ### Operations and actions on timers -/

/-- The timers of a handler as its users see them, without the arguments of their events. -/
abbrev Timers (E : Type) := TimerRef E → Timer Unit

/-- The operation schedules an active timer. -/
def Op.throws (ts : Timers E) : Op E → Bool
  | .schedule r _ | .scheduleWith r _ _ _ => (ts r).active
  | .cancel _ | .reschedule _ _ | .cancelAll => false

/-- What an operation that does not throw does to the timers. -/
def Op.onTimers (now : ℤ) (ts : Timers E) : Op E → Timers E
  | .schedule r _ | .reschedule r _ => Function.update ts r ((ts r).rearmed now)
  | .scheduleWith r period delay _ =>
    Function.update ts r (({ ts r with period := period, delay := delay }).rearmed now)
  | .cancel r => Function.update ts r (ts r).cancel
  | .cancelAll => fun r => (ts r).cancel

/-- What the operations of a callback do to the timers, up to the first one that throws. -/
def callbackOnTimers (now : ℤ) : Timers E → List (Op E) → Timers E × Bool
  | ts, [] => (ts, true)
  | ts, op :: ops =>
    if op.throws ts then (ts, false) else callbackOnTimers now (op.onTimers now ts) ops

/-- What an action does to the timers. -/
def Action.onTimers (now : ℤ) (ts : Timers E) : Action E → Timers E
  | .perform op => if op.throws ts then ts else op.onTimers now ts
  | .expire .. => ts
  | .upcall r callback =>
    match callbackOnTimers now ts callback with
    | (ts, true) => Function.update ts r (ts r).afterUpcall
    | (ts, false) => ts

/-- A timer of the handler is as its user sees it, but may fire up to a microsecond before its
expiry; the expiry of a periodic timer, and of one whose callback is running, does not matter. -/
structure Shows (h : TimerHandler E) (r : TimerRef E) (t : Timer Unit) : Prop where
  active : t.active = (h.getTimer r).active
  period : t.period = (h.getTimer r).period
  delay : t.delay = (h.getTimer r).delay
  expiry : t.period = 0 → ∀ d ∈ h.armed.find? r, ∃ e ∈ t.expiry, e < d + microsecond

/-! ### Operations -/

section Operations

variable {h h' : TimerHandler E} {ts : Timers E} {r r' : TimerRef E} {id : ℕ} {now : ℤ}

/-- What is shown of a timer depends on this timer only. -/
theorem Shows.congr {t : Timer Unit} (hs : Shows h r t) (hget : h'.getTimer r = h.getTimer r)
    (harmed : h'.armed.find? r = h.armed.find? r) : Shows h' r t :=
  ⟨hget ▸ hs.active, hget ▸ hs.period, hget ▸ hs.delay, harmed ▸ hs.expiry⟩

/-- A cancelled timer. -/
theorem Shows.cancel (hs : Shows h r (ts r)) (hactive : ScheduledActive h) :
    Shows (h.cancel r) r (ts r).cancel := by
  rw [TimerHandler.cancel]
  split_ifs with hr
  · have hget := (getTimer_timerWontRun (h.cancelTimer (h.getTimer r).id) r r).trans (if_pos rfl)
    refine ⟨?_, hs.period.trans ?_, hs.delay.trans ?_, fun _ d hd => ?_⟩
    · exact (congrArg KeyedTimer.active hget).symm
    · exact (congrArg KeyedTimer.period hget).symm
    · exact (congrArg KeyedTimer.delay hget).symm
    · change (h.armed.erase r).find? r = some d at hd
      rw [Table.find?_erase, if_pos rfl] at hd
      cases hd
  · refine ⟨(Bool.eq_false_iff.mpr hr).symm, hs.period, hs.delay, fun _ d hd => ?_⟩
    exact absurd (hactive r d hd) hr

theorem find?_armed_cancel_of_ne (hne : r' ≠ r) :
    (h.cancel r).armed.find? r' = h.armed.find? r' := by
  rw [TimerHandler.cancel]
  split_ifs
  · exact (Table.find?_erase h.armed r r').trans (if_neg hne)
  · rfl

/-- A timer that is scheduled again, and may fire from its expiry on. -/
theorem Shows.mayFireFrom {t : Timer Unit} (hs : Shows h r (t.rearmed now)) :
    Shows (h.mayFireFrom r (now + t.delay)) r (t.rearmed now) := by
  refine { hs with expiry := fun _ d hd => ⟨_, Timer.expiry_rearmed .., ?_⟩ }
  change (h.armed.set r (now + t.delay)).find? r = some d at hd
  rw [Table.find?_set_self] at hd
  obtain rfl := Option.some.inj hd
  exact Int.lt_add_of_pos_right _ (by decide)

variable [EventTypes E]

/-- An inactive timer that is scheduled. -/
theorem Shows.arm {t : Timer Unit} (hs : Shows h r t) (hid : id ≠ nullTimerId) :
    Shows (h.arm r now id) r (t.rearmed now) := by
  have hget := (getTimer_arm h r r id now).trans (if_pos rfl)
  refine ⟨?_, ?_, ?_, fun _ d hd => ?_⟩
  · rw [hget]
    simpa [KeyedTimer.active, TimerRef.activate] using hid
  · rw [hget]
    exact hs.period
  · rw [hget]
    exact hs.delay
  · change (h.armed.set r (now + toTimeValue (h.getTimer r).delay)).find? r = some d at hd
    rw [Table.find?_set_self] at hd
    obtain rfl := Option.some.inj hd
    refine ⟨_, Timer.expiry_rearmed .., ?_⟩
    rw [hs.delay, add_assoc]
    exact Int.add_lt_add_left (lt_toTimeValue_add _) now

theorem find?_armed_arm_of_ne (hne : r' ≠ r) :
    (h.arm r now id).armed.find? r' = h.armed.find? r' :=
  Table.find?_set_of_ne h.armed _ hne

/-- An operation throws exactly if it schedules an active timer. -/
theorem throws_iff (hc : Consistent h now) (hs : ∀ r, Shows h r (ts r)) {op : Op E} :
    op.throws ts = false ↔ ∃ h', h.perform now op = .ok h' := by
  cases op with
  | schedule r id =>
    simp only [Op.throws, perform, schedule_eq_ok, (hs r).active, exists_and_left, exists_eq,
      and_true]
  | scheduleWith r period delay id =>
    simp only [Op.throws, perform, scheduleWith_eq_ok, (hs r).active, exists_and_left, exists_eq,
      and_true]
  | cancel r => exact iff_of_true rfl ⟨_, rfl⟩
  | reschedule r id =>
    exact iff_of_true rfl ⟨_, reschedule_eq_ok.mpr rfl⟩
  | cancelAll =>
    obtain ⟨h', hok, -⟩ := hc.cancelAll_eq_ok
    exact iff_of_true rfl ⟨h', hok⟩

theorem throws_of_error (hc : Consistent h now) (hs : ∀ r, Shows h r (ts r)) {op : Op E}
    {msg : String} (herror : h.perform now op = .error msg) : op.throws ts = true := by
  rw [← Bool.not_eq_false, throws_iff hc hs]
  rintro ⟨h', hok⟩
  rw [herror] at hok
  cases hok

/-- An operation that does not throw does to the handler what it does to the timers. -/
theorem Shows.perform (hc : Consistent h now) (hs : ∀ r, Shows h r (ts r)) {op : Op E}
    (hfresh : h.Fresh op) (hok : h.perform now op = .ok h') (r' : TimerRef E) :
    Shows h' r' (op.onTimers now ts r') := by
  cases op with
  | schedule r id =>
    obtain ⟨-, rfl⟩ := schedule_eq_ok.mp hok
    by_cases hne : r' = r
    · rw [hne, Op.onTimers, Function.update_self]
      exact (hs r).arm hfresh.1
    · rw [Op.onTimers, Function.update_of_ne hne]
      exact (hs r').congr ((getTimer_arm ..).trans (if_neg hne)) (find?_armed_arm_of_ne hne)
  | scheduleWith r period delay id =>
    obtain ⟨hidle, rfl⟩ := scheduleWith_eq_ok.mp hok
    by_cases hne : r' = r
    · rw [hne, Op.onTimers, Function.update_self]
      have hget := (getTimer_configure h r r period delay).trans (if_pos rfl)
      refine Shows.arm ⟨?_, ?_, ?_, fun _ d hd => ?_⟩ hfresh.1
      · rw [hget]
        exact (hs r).active
      · rw [hget]
      · rw [hget]
      · exact absurd ((hc.scheduled r d hd).symm.trans hidle) Bool.true_eq_false_eq_False
    · rw [Op.onTimers, Function.update_of_ne hne]
      refine (hs r').congr ?_ (find?_armed_arm_of_ne hne)
      exact (getTimer_arm ..).trans ((if_neg hne).trans
        ((getTimer_configure ..).trans (if_neg hne)))
  | cancel r =>
    obtain rfl := Except.ok.inj hok
    by_cases hne : r' = r
    · rw [hne, Op.onTimers, Function.update_self]
      exact (hs r).cancel hc.scheduled
    · rw [Op.onTimers, Function.update_of_ne hne]
      exact (hs r').congr (getTimer_cancel_of_ne hne) (find?_armed_cancel_of_ne hne)
  | reschedule r id =>
    obtain rfl := reschedule_eq_ok.mp hok
    by_cases hne : r' = r
    · rw [hne, Op.onTimers, Function.update_self, ← (hs r).delay]
      exact (((hs r).cancel hc.scheduled).arm hfresh.1).mayFireFrom
    · rw [Op.onTimers, Function.update_of_ne hne]
      refine (hs r').congr ?_ ((Table.find?_set_of_ne _ _ hne).trans
        ((find?_armed_arm_of_ne hne).trans (find?_armed_cancel_of_ne hne)))
      exact (getTimer_arm _ _ _ id now).trans ((if_neg hne).trans (getTimer_cancel_of_ne hne))
  | cancelAll =>
    obtain ⟨h'', hok', hget, -, -, heq⟩ := hc.cancelAll_eq_ok
    obtain rfl := Except.ok.inj (hok.symm.trans hok')
    refine ⟨?_, ?_, ?_, fun _ d hd => ?_⟩
    · rw [hget]
      rfl
    · rw [hget]
      exact (hs r').period
    · rw [hget]
      exact (hs r').delay
    · rw [heq] at hd
      simp at hd

end Operations

/-! ### Actions -/

section Actions

variable {h : TimerHandler E} {ts : Timers E} {r r' : TimerRef E} {now : ℤ}

/-- A timer that has fired is active until its callback has returned. -/
theorem Shows.markFired {t : Timer Unit} (hs : Shows h r' t) : Shows (h.markFired r) r' t := by
  rw [TimerHandler.markFired]
  split_ifs with hperiod
  · refine ⟨hs.active, hs.period, hs.delay, fun hzero d hd => hs.expiry hzero d ?_⟩
    change (h.armed.erase r).find? r' = some d at hd
    rw [Table.find?_erase] at hd
    split_ifs at hd
    exact hd
  · exact hs

/-- `handle_timeout` retires a one-shot timer, and leaves a periodic one active. -/
theorem Shows.finishTimeout (hs : ∀ r, Shows h r (ts r))
    (hr : (h.getTimer r).period = 0 → h.armed.find? r = none) (r' : TimerRef E) :
    Shows (h.finishTimeout r) r' (Function.update ts r (ts r).afterUpcall r') := by
  rw [TimerHandler.finishTimeout]
  split_ifs with hperiod
  · have hget := getTimer_timerWontRun h r r'
    by_cases hne : r' = r
    · rw [hne, Function.update_self, Timer.afterUpcall_of_period ((hs r).period.trans hperiod)]
      rw [hne, if_pos rfl] at hget
      refine ⟨(congrArg KeyedTimer.active hget).symm, (hs r).period.trans ?_,
        (hs r).delay.trans ?_, fun _ d hd => ?_⟩
      · exact (congrArg KeyedTimer.period hget).symm
      · exact (congrArg KeyedTimer.delay hget).symm
      · cases (hr hperiod).symm.trans hd
    · rw [Function.update_of_ne hne]
      exact (hs r').congr (hget.trans (if_neg hne)) rfl
  · by_cases hne : r' = r
    · have hperiod : (ts r).period ≠ 0 := fun hzero => hperiod ((hs r).period.symm.trans hzero)
      rw [hne, Function.update_self, Timer.afterUpcall, if_neg hperiod]
      exact ⟨(hs r).active, (hs r).period, (hs r).delay, fun hzero => absurd hzero hperiod⟩
    · rw [Function.update_of_ne hne]
      exact (hs r').congr rfl rfl

variable [EventTypes E]

/-- The operations of a callback. -/
theorem Shows.anyTimerFired {callback : List (Op E)} (hc : Consistent h now)
    (hs : ∀ r, Shows h r (ts r)) (hfresh : Along Fresh now h callback)
    (hcareful : Along Careful now h callback) :
    (∀ r, Shows (anyTimerFired now h callback).1 r ((callbackOnTimers now ts callback).1 r)) ∧
      (callbackOnTimers now ts callback).2 = (TimerHandler.anyTimerFired now h callback).2 := by
  induction callback generalizing h ts with
  | nil => exact ⟨hs, rfl⟩
  | cons op ops ih =>
    rw [TimerHandler.anyTimerFired, callbackOnTimers]
    cases hperform : h.perform now op with
    | error msg =>
      rw [if_pos (throws_of_error hc hs hperform)]
      exact ⟨hs, rfl⟩
    | ok h' =>
      have hthrows := (throws_iff hc hs).mpr ⟨h', hperform⟩
      rw [hthrows, if_neg Bool.false_ne_true]
      exact ih (hc.perform hfresh.1 hcareful.1 hperform) (.perform hc hs hfresh.1 hperform)
        (hfresh.2 h' hperform) (hcareful.2 h' hperform)

/-- **One careful action.** It does to the handler what it does to the timers. -/
theorem Shows.act (hc : Consistent h now) (hs : ∀ r, Shows h r (ts r)) {a : Action E}
    (hadm : h.Admissible now a) (hcareful : h.CarefulAction now a) (r' : TimerRef E) :
    Shows (h.act now a) r' (a.onTimers now ts r') := by
  cases a with
  | perform op =>
    rw [TimerHandler.act, Action.onTimers]
    cases hperform : h.perform now op with
    | error msg =>
      rw [if_pos (throws_of_error hc hs hperform)]
      exact hs r'
    | ok h' =>
      have hthrows := (throws_iff hc hs).mpr ⟨h', hperform⟩
      rw [hthrows, if_neg Bool.false_ne_true]
      exact .perform hc hs hadm hperform r'
  | expire n again => exact (hs r').congr rfl rfl
  | upcall r callback =>
    have hfor : (h.obtainLock r).timerFor r = some r := hc.timerFor_of_waiting hadm.1
    have hcalled : Consistent ((h.obtainLock r).calledBack r r) now := by
      rw [calledBack, lookedUp_of_timerFor hfor]
      exact (hc.obtainLock r).markFired (hc.notMem_pending_obtainLock hadm.1)
    have hshows : ∀ r', Shows ((h.obtainLock r).calledBack r r) r' (ts r') := fun r' => by
      have hlocked : Shows (h.obtainLock r) r' (ts r') := (hs r').congr rfl rfl
      rw [calledBack, lookedUp_of_timerFor hfor]
      exact hlocked.markFired
    obtain ⟨hran, hboth⟩ := Shows.anyTimerFired hcalled hshows (hadm.2 r hfor) (hcareful r hfor).1
    have hreturned := (hcareful r hfor).2
    simp only [TimerHandler.act, handleTimeout, hfor, Action.onTimers]
    cases hrun : TimerHandler.anyTimerFired now ((h.obtainLock r).calledBack r r) callback with
    | mk h' returned =>
      cases htimers : callbackOnTimers now ts callback with
      | mk ts' returned' =>
        rw [hrun, htimers] at hran hboth
        rw [hrun] at hreturned
        obtain rfl : returned' = returned := hboth
        cases returned' with
        | true => exact Shows.finishTimeout hran (hreturned rfl) r'
        | false => exact hran r'

end Actions

/-! ### Runs -/

section Runs

variable [EventTypes E] {tr : Trace E} {c : Config E}

/-- The timers after the actions of a run. -/
def timersAfter (tr : Trace E) : Timers E :=
  tr.foldl (fun ts t => t.label.action.onTimers t.label.now ts) fun _ => { arg := () }

/-- **Runs of careful actions.** A handler does what its timers do. -/
theorem shows_of_run (h : IsHandlerRun tr c)
    (hcareful : ∀ t ∈ tr, t.source.handler.CarefulAction t.label.now t.label.action)
    (r : TimerRef E) : Shows c.handler r (timersAfter tr r) := by
  revert r hcareful
  obtain ⟨clock, hrun⟩ := h
  refine hrun.traceInvariant (P := fun tr c =>
    (∀ t ∈ tr, t.source.handler.CarefulAction t.label.now t.label.action) →
      ∀ r, Shows c.handler r (timersAfter tr r))
    (fun _ r => ⟨rfl, rfl, rfl, fun _ d hd => by simp at hd⟩) ?_
  rintro tr c l c' hrun hs ⟨hclock, hadm, rfl⟩ hcareful r
  have hbefore := fun t ht => hcareful t (List.mem_append_left _ ht)
  have hc : Consistent c.handler c.clock := IsHandlerRun.consistent ⟨clock, hrun⟩ hbefore
  have hact := Shows.act (hc.mono hclock) (hs hbefore) hadm
    (hcareful _ (List.mem_append_right _ List.mem_cons_self)) r
  rwa [timersAfter, List.foldl_append]

/-- The upcall of a one-shot timer that obtains `lock_` in a run of careful actions is that of a
scheduled timer that is due, or will be in less than a microsecond. -/
theorem due_of_upcall (h : IsHandlerRun tr c)
    (hcareful : ∀ t ∈ tr, t.source.handler.CarefulAction t.label.now t.label.action)
    {r : TimerRef E} (hr : r ∈ c.handler.waiting) (hperiod : (timersAfter tr r).period = 0) :
    ∃ e ∈ (timersAfter tr r).expiry, e < c.clock + microsecond := by
  obtain ⟨d, hd, hdue⟩ := (h.consistent hcareful).waits r hr
  obtain ⟨e, he, hlt⟩ := (shows_of_run h hcareful r).expiry hperiod d hd
  exact ⟨e, he, hlt.trans_le (Int.add_le_add_right hdue microsecond)⟩

end Runs

end TimerHandler

end TacticalMicrogrid
