import TacticalMicrogrid.Common.TimerHandler

/-!
# Upcalls that wait for the lock

`handle_timeout` looks its timer up by the key string as it is when the upcall obtains `lock_`. So
a timer whose upcall waits must not be cancelled or scheduled again, since that clears or rewrites
the string; two active timers must not have one key, which the reactor can bring about by using an
id again; and a callback must not leave its own one-shot timer scheduled, since `handle_timeout`
retires it. A timer that is rescheduled must have a delay that `toTimeValue` does not shorten, or it
may fire too soon. In the runs that keep to this, every upcall finds a scheduled timer that is due,
and every scheduled timer is active.

## Main definitions

* `TimerHandler.FiresSoundly`, `TimerHandler.ScheduledActive`.
* `TimerHandler.Careful`, `TimerHandler.CarefulAction`: the condition on a step.
* `TimerHandler.Listed`: `active_timers_` lists the active timers.
* `TimerHandler.Consistent`: the invariant.

## Main results

* `TimerHandler.fires_soundly_of_run`: the upcalls and timers of a run that meets the condition.
* `TimerHandler.null_timer_after_cancel`: a run in which an upcall finds a null pointer.
-/

namespace TacticalMicrogrid

open TransitionSystem

namespace TimerHandler

variable {E : Type} [DecidableEq E]

/-! ### What is to hold -/

/-- If the action is an upcall, it finds a timer, and this timer is scheduled and due. -/
def FiresSoundly (h : TimerHandler E) (now : ℤ) : Action E → Prop
  | .upcall r _ => ∃ fired, h.timerFor r = some fired ∧ ∃ d ∈ h.armed.find? fired, d ≤ now
  | .perform _ | .expire .. => True

/-- Every timer that was scheduled and has neither fired nor been cancelled is active. -/
def ScheduledActive (h : TimerHandler E) : Prop :=
  ∀ r d, h.armed.find? r = some d → (h.getTimer r).active = true

/-- The upcall of the timer does not wait, unless the timer is inactive. -/
def NotWaiting (h : TimerHandler E) (r : TimerRef E) : Prop :=
  (h.getTimer r).active = true → r ∉ h.waiting

instance (h : TimerHandler E) (now : ℤ) : (a : Action E) → Decidable (h.FiresSoundly now a)
  | .upcall r _ => decidable_of_iff (∃ fired ∈ h.timerFor r, ∃ d ∈ h.armed.find? fired, d ≤ now)
      (by simp [FiresSoundly])
  | .perform _ | .expire .. => isTrue trivial

instance (h : TimerHandler E) (r : TimerRef E) : Decidable (h.NotWaiting r) :=
  inferInstanceAs (Decidable (_ → _))

section

variable [EventTypes E]

/-- No other active timer has the key that an id makes for a timer. -/
def KeyFree (h : TimerHandler E) (r : TimerRef E) (id : ℕ) : Prop :=
  ∀ r', r' ≠ r → (h.getTimer r').active = true → (h.getTimer r').key ≠ r.makeKey id

instance (h : TimerHandler E) (r : TimerRef E) (id : ℕ) : Decidable (h.KeyFree r id) :=
  decidable_of_iff (∀ entry ∈ h.timers.entries, entry.1 ≠ r → entry.2.active = true →
    entry.2.key ≠ r.makeKey id) <| by
      constructor
      · intro hfree r' hne hactive
        cases hr' : h.timers.find? r' with
        | none => simp [getTimer, hr', KeyedTimer.active, nullTimerId] at hactive
        | some t =>
          have hget : h.getTimer r' = t := by rw [getTimer, hr', Option.getD_some]
          rw [hget] at hactive ⊢
          exact hfree ⟨r', t⟩ (Table.mem_entries_iff.mpr hr') hne hactive
      · rintro hfree ⟨r', t⟩ hmem hne hactive
        have hget : h.getTimer r' = t := by
          rw [getTimer, Table.mem_entries_iff.mp hmem, Option.getD_some]
        rw [← hget] at hactive ⊢
        exact hfree r' hne hactive

/-- The operation takes no key from a waiting upcall and gives no key twice, and a reschedule gives
the reactor the whole delay. -/
def Careful (h : TimerHandler E) : Op E → Prop
  | .schedule r id | .scheduleWith r _ _ id => h.KeyFree r id
  | .cancel r => h.NotWaiting r
  | .reschedule r id =>
    h.NotWaiting r ∧ h.KeyFree r id ∧ (h.getTimer r).delay ≤ toTimeValue (h.getTimer r).delay
  | .cancelAll => ∀ r ∈ h.waiting, (h.getTimer r).active = false

/-- All operations of the action are careful, and a callback that returns does not leave the timer
it is called for scheduled as a one-shot timer. -/
def CarefulAction (h : TimerHandler E) (now : ℤ) : Action E → Prop
  | .perform op => h.Careful op
  | .expire .. => True
  | .upcall r callback => ∀ fired ∈ h.timerFor r,
      let called := (h.obtainLock r).calledBack r fired
      let (h', returned) := anyTimerFired now called callback
      Along Careful now called callback ∧
        (returned = true → (h'.getTimer fired).period = 0 → h'.armed.find? fired = none)

instance (h : TimerHandler E) : (op : Op E) → Decidable (h.Careful op)
  | .schedule r id | .scheduleWith r _ _ id => inferInstanceAs (Decidable (h.KeyFree r id))
  | .cancel r => inferInstanceAs (Decidable (h.NotWaiting r))
  | .reschedule r id => inferInstanceAs (Decidable (h.NotWaiting r ∧ h.KeyFree r id ∧ _ ≤ _))
  | .cancelAll => inferInstanceAs (Decidable (∀ r ∈ h.waiting, _))

instance (h : TimerHandler E) (now : ℤ) : (a : Action E) → Decidable (h.CarefulAction now a)
  | .perform op => inferInstanceAs (Decidable (h.Careful op))
  | .expire .. => isTrue trivial
  | .upcall r callback => inferInstanceAs (Decidable (∀ fired ∈ h.timerFor r,
      Along Careful now ((h.obtainLock r).calledBack r fired) callback ∧ _))

end

/-! ### The invariant -/

/-- The timers on the queue of the reactor and those whose upcalls wait. -/
def pending (h : TimerHandler E) : List (TimerRef E) := h.queue.map (·.ref) ++ h.waiting

/-- `active_timers_` maps the keys of the active timers to them; every pending timer is scheduled,
and due when it expires; a one-shot timer is pending at most once. -/
structure Consistent (h : TimerHandler E) (now : ℤ) : Prop where
  found : ∀ r, (h.getTimer r).active = true →
    h.activeTimers.find? (h.getTimer r).key = some (some r)
  entry : ∀ key v, h.activeTimers.find? key = some v →
    ∃ r, v = some r ∧ (h.getTimer r).active = true ∧ (h.getTimer r).key = key
  idle : ∀ r, (h.getTimer r).active = false → (h.getTimer r).key = ""
  busy : ∀ r, (h.getTimer r).active = true → (h.getTimer r).key ≠ ""
  queued : ∀ n ∈ h.queue, n.id = (h.getTimer n.ref).id ∧
    n.interval = (h.getTimer n.ref).period ∧ ∃ d ∈ h.armed.find? n.ref, d ≤ n.due
  waits : ∀ r ∈ h.waiting, ∃ d ∈ h.armed.find? r, d ≤ now
  once : ∀ r, (h.getTimer r).period = 0 → h.pending.count r ≤ 1
  scheduled : h.ScheduledActive

/-! ### The timers after an operation -/

section GetTimer

variable (h : TimerHandler E) (r r' : TimerRef E) (id : ℕ) (now : ℤ)

theorem getD_find?_set (t : KeyedTimer) :
    ((h.timers.set r t).find? r').getD {} = if r' = r then t else h.getTimer r' := by
  rw [Table.find?_set]
  split_ifs <;> rfl

@[simp] theorem getTimer_timerWontRun : (h.timerWontRun r).getTimer r' =
    if r' = r then (h.getTimer r).deactivate else h.getTimer r' := getD_find?_set ..

theorem getTimer_arm [EventTypes E] : (h.arm r now id).getTimer r' =
    if r' = r then r.activate (h.getTimer r) id else h.getTimer r' := getD_find?_set ..

@[simp] theorem getTimer_mayFireFrom (start : ℤ) :
    (h.mayFireFrom r start).getTimer r' = h.getTimer r' := rfl

theorem getTimer_configure (period delay : Duration) :
    (h.configure r period delay).getTimer r' =
      if r' = r then { h.getTimer r with period := period, delay := delay } else h.getTimer r' :=
  getD_find?_set ..

end GetTimer

/-! ### The timers of `active_timers_` -/

/-- `active_timers_` has one entry for each active timer, under its key, and no other. -/
def Listed (h : TimerHandler E) : Prop :=
  ∀ key v, h.activeTimers.find? key = some v ↔
    ∃ r, v = some r ∧ (h.getTimer r).active = true ∧ (h.getTimer r).key = key

namespace Listed

variable {h : TimerHandler E} {r r' : TimerRef E} {id : ℕ} {now : ℤ}

theorem found (hl : h.Listed) (hactive : (h.getTimer r).active = true) :
    h.activeTimers.find? (h.getTimer r).key = some (some r) :=
  (hl _ _).mpr ⟨r, rfl, hactive, rfl⟩

/-- Only one timer has the key of an active timer. -/
theorem key_inj (hl : h.Listed) (hactive : (h.getTimer r).active = true)
    (hactive' : (h.getTimer r').active = true)
    (hkey : (h.getTimer r).key = (h.getTimer r').key) : r = r' := by
  have hfound := hl.found hactive
  rw [hkey, hl.found hactive'] at hfound
  exact (Option.some.inj (Option.some.inj hfound)).symm

/-- `timer_wont_run` removes the entry of a timer, if no other active timer has its key. -/
theorem timerWontRun (hl : h.Listed) (hown : ∀ r', (h.getTimer r').active = true →
    (h.getTimer r').key = (h.getTimer r).key → r' = r) : (h.timerWontRun r).Listed := by
  intro key v
  simp only [getTimer_timerWontRun]
  change (h.activeTimers.erase (h.getTimer r).key).find? key = some v ↔ _
  rw [Table.find?_erase]
  constructor
  · intro hv
    split_ifs at hv with hkey
    obtain ⟨r', rfl, hactive, rfl⟩ := (hl key v).mp hv
    have hne : r' ≠ r := fun heq => hkey (heq ▸ rfl)
    exact ⟨r', rfl, by rwa [if_neg hne], by rw [if_neg hne]⟩
  · rintro ⟨r', rfl, hactive, hkey⟩
    split_ifs at hactive hkey with heq
    · cases hactive
    · rw [if_neg fun h => heq (hown r' hactive (hkey.trans h))]
      exact (hl key _).mpr ⟨r', rfl, hactive, hkey⟩

/-- An inactive timer is listed when it is scheduled, and no other one is lost if the key is
free. -/
theorem arm [EventTypes E] (hl : h.Listed) (hidle : (h.getTimer r).active = false)
    (hid : id ≠ nullTimerId) (hfree : h.KeyFree r id) : (h.arm r now id).Listed := by
  have hself : (r.activate (h.getTimer r) id).active = true := by
    simpa [KeyedTimer.active, TimerRef.activate] using hid
  intro key v
  simp only [getTimer_arm]
  change (h.activeTimers.set (r.makeKey id) (some r)).find? key = some v ↔ _
  rw [Table.find?_set]
  constructor
  · intro hv
    split_ifs at hv with heq
    · obtain rfl := Option.some.inj hv
      exact ⟨r, rfl, by rwa [if_pos rfl], by rw [if_pos rfl, heq]; rfl⟩
    · obtain ⟨r', rfl, hactive, rfl⟩ := (hl key v).mp hv
      have hne : r' ≠ r := fun heq => Bool.false_ne_true (hidle.symm.trans (heq ▸ hactive))
      exact ⟨r', rfl, by rwa [if_neg hne], by rw [if_neg hne]⟩
  · rintro ⟨r', rfl, hactive, hkey⟩
    split_ifs at hactive hkey with heq
    · have hown : key = r.makeKey id := hkey.symm
      rw [if_pos hown, heq]
    · rw [if_neg fun h => hfree r' heq hactive (hkey.trans h)]
      exact (hl key _).mpr ⟨r', rfl, hactive, hkey⟩

end Listed

namespace Consistent

variable {h : TimerHandler E} {r r' : TimerRef E} {id : ℕ} {now now' : ℤ}

theorem mono (hc : Consistent h now) (hnow : now ≤ now') : Consistent h now' :=
  { hc with
    waits := fun r hr =>
      let ⟨d, hd, hle⟩ := hc.waits r hr
      ⟨d, hd, hle.trans hnow⟩ }

/-- A pending timer is scheduled. -/
theorem armed_of_pending (hc : Consistent h now) (hr : r ∈ h.pending) :
    ∃ d, h.armed.find? r = some d := by
  rcases List.mem_append.mp hr with hr | hr
  · obtain ⟨n, hn, rfl⟩ := List.mem_map.mp hr
    obtain ⟨d, hd, -⟩ := (hc.queued n hn).2.2
    exact ⟨d, hd⟩
  · obtain ⟨d, hd, -⟩ := hc.waits r hr
    exact ⟨d, hd⟩

theorem active_of_pending (hc : Consistent h now) (hr : r ∈ h.pending) :
    (h.getTimer r).active = true :=
  let ⟨d, hd⟩ := hc.armed_of_pending hr
  hc.scheduled r d hd

theorem listed (hc : Consistent h now) : h.Listed := by
  intro key v
  constructor
  · exact hc.entry key v
  · rintro ⟨r, rfl, hactive, rfl⟩
    exact hc.found r hactive

/-- Only one timer has the key of a timer. -/
theorem key_inj (hc : Consistent h now) (hr : (h.getTimer r).active = true)
    (hkey : (h.getTimer r).key = (h.getTimer r').key) : r = r' := by
  cases hr' : (h.getTimer r').active with
  | false => exact absurd (hkey.trans (hc.idle r' hr')) (hc.busy r hr)
  | true => exact hc.listed.key_inj hr hr' hkey

/-- A timer that is neither queued nor waited for can be retired. -/
theorem retire (hc : Consistent h now) (queue : List (QueueNode E))
    (armed : Table (TimerRef E) ℤ) (hqueue : queue.Sublist h.queue) (hr : ∀ n ∈ queue, n.ref ≠ r)
    (hwaiting : r ∉ h.waiting)
    (harmed : ∀ r', armed.find? r' = if r' = r then none else h.armed.find? r') :
    Consistent { h.timerWontRun r with queue := queue, armed := armed } now := by
  have hget : ∀ r', ({ h.timerWontRun r with queue := queue, armed := armed } :
      TimerHandler E).getTimer r' =
        if r' = r then (h.getTimer r).deactivate else h.getTimer r' := getTimer_timerWontRun h r
  have hactive : ∀ r', (if r' = r then (h.getTimer r).deactivate else h.getTimer r').active = true →
      r' ≠ r ∧ (h.getTimer r').active = true := by
    intro r' hr'
    split_ifs at hr' with heq
    · cases hr'
    · exact ⟨heq, hr'⟩
  have hlisted : (h.timerWontRun r).Listed :=
    hc.listed.timerWontRun fun r' hr' hkey => hc.key_inj hr' hkey
  refine ⟨fun r' hr' => hlisted.found hr', fun key v => (hlisted key v).mp, ?_, ?_, ?_, ?_, ?_, ?_⟩
    <;> simp only [ScheduledActive, hget]
  · intro r' hr'
    split_ifs at hr' ⊢ with heq
    · rfl
    · exact hc.idle r' hr'
  · intro r' hr'
    obtain ⟨hne, hactive'⟩ := hactive r' hr'
    rw [if_neg hne]
    exact hc.busy r' hactive'
  · intro n hn
    rw [if_neg (hr n hn), harmed, if_neg (hr n hn)]
    exact hc.queued n (hqueue.subset hn)
  · intro r' hr'
    have hne : r' ≠ r := fun heq => hwaiting (heq ▸ hr')
    rw [harmed, if_neg hne]
    exact hc.waits r' hr'
  · intro r' hperiod
    have hperiod' : (h.getTimer r').period = 0 := by
      split_ifs at hperiod with heq
      · rwa [heq]
      · exact hperiod
    exact (((hqueue.map _).append_right _).count_le r').trans (hc.once r' hperiod')
  · intro r' d hd
    rw [harmed] at hd
    split_ifs at hd ⊢ with heq
    exact hc.scheduled r' d hd

/-- An inactive timer can be scheduled under a free key. -/
theorem arm [EventTypes E] (hc : Consistent h now) (hidle : (h.getTimer r).active = false)
    (hid : id ≠ nullTimerId) (hfree : h.KeyFree r id) : Consistent (h.arm r now id) now := by
  have hnot : r ∉ h.pending := fun hr =>
    Bool.false_ne_true (hidle.symm.trans (hc.active_of_pending hr))
  have hself : (r.activate (h.getTimer r) id).active = true := by
    simpa [KeyedTimer.active, TimerRef.activate] using hid
  have hlisted : (h.arm r now id).Listed := hc.listed.arm hidle hid hfree
  refine ⟨fun r' hr' => hlisted.found hr', fun key v => (hlisted key v).mp, ?_, ?_, ?_, ?_, ?_, ?_⟩
    <;> simp -failIfUnchanged only [ScheduledActive, getTimer_arm]
  · intro r' hr'
    split_ifs at hr' ⊢ with heq
    · exact absurd (hr'.symm.trans hself) Bool.false_ne_true
    · exact hc.idle r' hr'
  · intro r' hr'
    split_ifs at hr' ⊢ with heq
    · simp [TimerRef.activate, TimerRef.makeKey]
    · exact hc.busy r' hr'
  · intro n hn
    change n ∈ _ :: h.queue at hn
    change _ ∧ _ ∧ ∃ d ∈ (h.armed.set r _).find? n.ref, _
    rcases List.mem_cons.mp hn with rfl | hn
    · exact ⟨by rw [if_pos rfl]; rfl, by rw [if_pos rfl], _, Table.find?_set_self .., le_rfl⟩
    · have hne : n.ref ≠ r := fun heq =>
        hnot (heq ▸ List.mem_append_left _ (List.mem_map_of_mem hn))
      rw [if_neg hne, Table.find?_set_of_ne _ _ hne]
      exact hc.queued n hn
  · intro r' hr'
    change r' ∈ h.waiting at hr'
    have hne : r' ≠ r := fun heq => hnot (heq ▸ List.mem_append_right _ hr')
    change ∃ d ∈ (h.armed.set r _).find? r', _
    rw [Table.find?_set_of_ne _ _ hne]
    exact hc.waits r' hr'
  · intro r' hperiod
    change (r :: h.pending).count r' ≤ 1
    by_cases heq : r' = r
    · rw [heq, List.count_cons_self, List.count_eq_zero.mpr hnot]
    · rw [List.count_cons_of_ne (Ne.symm heq)]
      rw [if_neg heq] at hperiod
      exact hc.once r' hperiod
  · intro r' d hd
    change (h.armed.set r _).find? r' = _ at hd
    rw [Table.find?_set] at hd
    split_ifs at hd ⊢ with heq
    · exact hself
    · exact hc.scheduled r' d hd

/-- The period and the delay of an inactive timer can be changed. -/
theorem configure (hc : Consistent h now) (hidle : (h.getTimer r).active = false)
    (period delay : Duration) : Consistent (h.configure r period delay) now := by
  have hnot : r ∉ h.pending := fun hr =>
    Bool.false_ne_true (hidle.symm.trans (hc.active_of_pending hr))
  have hactive : ∀ r', ((h.configure r period delay).getTimer r').active =
      (h.getTimer r').active := by
    intro r'
    rw [getTimer_configure]
    split_ifs with heq
    · rw [heq]
      rfl
    · rfl
  have hkey : ∀ r', ((h.configure r period delay).getTimer r').key = (h.getTimer r').key := by
    intro r'
    rw [getTimer_configure]
    split_ifs with heq
    · rw [heq]
    · rfl
  constructor <;> simp -failIfUnchanged only [ScheduledActive, hactive, hkey]
  · exact hc.found
  · exact hc.entry
  · exact hc.idle
  · exact hc.busy
  · intro n hn
    have hne : n.ref ≠ r := fun heq =>
      hnot (heq ▸ List.mem_append_left _ (List.mem_map_of_mem hn))
    rw [getTimer_configure, if_neg hne]
    exact hc.queued n hn
  · exact hc.waits
  · intro r' hperiod
    by_cases heq : r' = r
    · exact (List.count_eq_zero.mpr (heq ▸ hnot)).le.trans zero_le_one
    · rw [getTimer_configure, if_neg heq] at hperiod
      exact hc.once r' hperiod
  · exact hc.scheduled

/-- A timer on the queue may be said to fire no later than it is due there. -/
theorem mayFireFrom (hc : Consistent h now) {start : ℤ} (hactive : (h.getTimer r).active = true)
    (hwaiting : r ∉ h.waiting) (hstart : ∀ n ∈ h.queue, n.ref = r → start ≤ n.due) :
    Consistent (h.mayFireFrom r start) now := by
  refine { hc with queued := ?_, waits := ?_, scheduled := ?_ }
  · intro n hn
    change _ ∧ _ ∧ ∃ d ∈ (h.armed.set r start).find? n.ref, _
    by_cases heq : n.ref = r
    · rw [heq, Table.find?_set_self]
      obtain ⟨hid, hinterval, -⟩ := hc.queued n hn
      exact ⟨heq ▸ hid, heq ▸ hinterval, start, rfl, hstart n hn heq⟩
    · rw [Table.find?_set_of_ne _ _ heq]
      exact hc.queued n hn
  · intro r' hr'
    have hne : r' ≠ r := fun heq => hwaiting (heq ▸ hr')
    change ∃ d ∈ (h.armed.set r start).find? r', _
    rw [Table.find?_set_of_ne _ _ hne]
    exact hc.waits r' hr'
  · intro r' d hd
    change (h.armed.set r start).find? r' = some d at hd
    by_cases heq : r' = r
    · exact heq ▸ hactive
    · rw [Table.find?_set_of_ne _ _ heq] at hd
      exact hc.scheduled r' d hd

/-- A timer on the queue that is due can expire. -/
theorem expire (hc : Consistent h now) {n : QueueNode E} {again : Option ℤ} (hn : n ∈ h.queue)
    (hdue : n.due ≤ now) (hagain : ∀ due ∈ again, n.interval ≠ 0 ∧ n.due ≤ due) :
    Consistent (h.expire n again) now := by
  obtain ⟨hid, hinterval, d, hd, hle⟩ := hc.queued n hn
  refine ⟨hc.found, hc.entry, hc.idle, hc.busy, ?_, ?_, ?_, hc.scheduled⟩
  · intro m hm
    rcases List.mem_append.mp hm with hm | hm
    · obtain ⟨due, hdue', rfl⟩ := Option.map_eq_some_iff.mp (Option.mem_toList.mp hm)
      exact ⟨hid, hinterval, d, hd, hle.trans (hagain due hdue').2⟩
    · exact hc.queued m (List.mem_of_mem_erase hm)
  · intro r' hr'
    rcases List.mem_cons.mp hr' with rfl | hr'
    · exact ⟨d, hd, hle.trans hdue⟩
    · exact hc.waits r' hr'
  · intro r' hperiod
    change (h.getTimer r').period = 0 at hperiod
    have hperm : h.pending.Perm (n.ref :: ((h.queue.erase n).map (·.ref) ++ h.waiting)) :=
      ((List.perm_cons_erase hn).map _).append_right _
    refine le_trans (le_of_eq ?_) (hc.once r' hperiod)
    rw [hperm.count_eq, pending, TimerHandler.expire]
    cases again with
    | none => simp only [Option.map_none, Option.toList_none, List.nil_append,
        List.perm_middle.count_eq]
    | some due =>
      have hne : n.ref ≠ r' := fun heq => (hagain due rfl).1 (by rw [hinterval, heq, hperiod])
      simp only [Option.map_some, Option.toList_some, List.cons_append, List.nil_append,
        List.map_cons, List.count_cons_of_ne hne, List.perm_middle.count_eq]

/-- An upcall obtains the lock. -/
theorem obtainLock (hc : Consistent h now) (r : TimerRef E) : Consistent (h.obtainLock r) now :=
  { hc with
    waits := fun r' hr' => hc.waits r' (List.mem_of_mem_erase hr')
    once := fun r' hperiod =>
      ((List.erase_sublist.append_left _).count_le r').trans (hc.once r' hperiod) }

/-- A one-shot timer whose upcall has obtained the lock is not pending any more. -/
theorem notMem_pending_obtainLock (hc : Consistent h now) (hr : r ∈ h.waiting)
    (hperiod : (h.getTimer r).period = 0) : r ∉ (h.obtainLock r).pending := by
  have honce := hc.once r hperiod
  have hperm : h.pending.Perm (r :: (h.obtainLock r).pending) :=
    ((List.perm_cons_erase hr).append_left _).trans List.perm_middle
  rw [hperm.count_eq, List.count_cons_self] at honce
  exact List.count_eq_zero.mp (by omega)

/-- A timer that has fired may not fire again if it is a one-shot timer. -/
theorem markFired (hc : Consistent h now)
    (hr : (h.getTimer r).period = 0 → r ∉ h.pending) : Consistent (h.markFired r) now := by
  rw [TimerHandler.markFired]
  split_ifs with hperiod
  · have hnot := hr hperiod
    have harmed : ∀ r', r' ≠ r → (h.armed.erase r).find? r' = h.armed.find? r' := fun r' hne => by
      rw [Table.find?_erase, if_neg hne]
    refine { hc with queued := ?_, waits := ?_, scheduled := ?_ }
    · intro n hn
      have hne : n.ref ≠ r := fun heq =>
        hnot (heq ▸ List.mem_append_left _ (List.mem_map_of_mem hn))
      change _ ∧ _ ∧ ∃ d ∈ (h.armed.erase r).find? n.ref, _
      rw [harmed _ hne]
      exact hc.queued n hn
    · intro r' hr'
      have hne : r' ≠ r := fun heq => hnot (heq ▸ List.mem_append_right _ hr')
      change ∃ d ∈ (h.armed.erase r).find? r', _
      rw [harmed _ hne]
      exact hc.waits r' hr'
    · intro r' d hd
      change (h.armed.erase r).find? r' = some d at hd
      rw [Table.find?_erase] at hd
      split_ifs at hd
      exact hc.scheduled r' d hd
  · exact hc

theorem cancel (hc : Consistent h now) (hr : h.NotWaiting r) : Consistent (h.cancel r) now := by
  rw [TimerHandler.cancel]
  split_ifs with hactive
  · refine hc.retire _ _ (List.filter_sublist ..) (fun n hn heq => ?_) (hr hactive)
      (Table.find?_erase h.armed r)
    obtain ⟨hmem, hid⟩ := List.mem_filter.mp hn
    rw [(hc.queued n hmem).1, heq] at hid
    simp at hid
  · exact hc

end Consistent

/-! ### Operations -/

section Operations

variable {h h' : TimerHandler E} {r : TimerRef E} {id : ℕ} {now : ℤ}

/-- The loop of `cancel_all` takes the timers off the queue and deactivates them. -/
theorem foldlM_cancelEntry (l : List (TimerRef E)) (h : TimerHandler E)
    (hid : ∀ n ∈ h.queue, n.ref ∈ l → n.id = (h.getTimer n.ref).id) :
    ∃ h', (l.map some).foldlM cancelEntry h = .ok h' ∧
      (∀ n ∈ h'.queue, n ∈ h.queue ∧ n.ref ∉ l) ∧ h'.waiting = h.waiting ∧
      ∀ r, h'.getTimer r = if r ∈ l then (h.getTimer r).deactivate else h.getTimer r := by
  induction l generalizing h with
  | nil => exact ⟨h, rfl, by simp, rfl, by simp⟩
  | cons r l ih =>
    let h₁ : TimerHandler E := { h.cancelTimer (h.getTimer r).id with
      timers := h.timers.set r (h.getTimer r).deactivate }
    have hget : ∀ r', h₁.getTimer r' =
        if r' = r then (h.getTimer r).deactivate else h.getTimer r' := getTimer_timerWontRun h r
    have hqueue : ∀ n ∈ h₁.queue, n ∈ h.queue ∧ n.ref ≠ r := by
      intro n hn
      obtain ⟨hmem, hne⟩ := List.mem_filter.mp hn
      refine ⟨hmem, fun heq => ?_⟩
      rw [hid n hmem (heq ▸ List.mem_cons_self), heq] at hne
      simp at hne
    obtain ⟨h', hok, hqueue', hwaiting, hget'⟩ := ih h₁ fun n hn hl => by
      obtain ⟨hmem, hne⟩ := hqueue n hn
      rw [hget, if_neg hne]
      exact hid n hmem (List.mem_cons_of_mem _ hl)
    refine ⟨h', hok, fun n hn => ?_, hwaiting, fun r' => ?_⟩
    · obtain ⟨hn₁, hnotMem⟩ := hqueue' n hn
      obtain ⟨hmem, hne⟩ := hqueue n hn₁
      exact ⟨hmem, List.not_mem_cons_of_ne_of_not_mem hne hnotMem⟩
    · rw [hget', hget]
      by_cases heq : r' = r <;> by_cases hl : r' ∈ l <;> simp [heq, hl, KeyedTimer.deactivate]

private theorem exists_map_some {α : Type} {l : List (Option α)} (h : ∀ v ∈ l, ∃ a, v = some a) :
    ∃ l' : List α, l = l'.map some := by
  induction l with
  | nil => exact ⟨[], rfl⟩
  | cons v l ih =>
    obtain ⟨a, rfl⟩ := h v List.mem_cons_self
    obtain ⟨l', rfl⟩ := ih fun w hw => h w (List.mem_cons_of_mem _ hw)
    exact ⟨a :: l', rfl⟩

/-- A handler without an active timer. -/
theorem Consistent.of_idle (hinactive : ∀ r, (h.getTimer r).active = false)
    (hkey : ∀ r, (h.getTimer r).key = "") (hpending : h.pending = []) :
    Consistent { h with activeTimers := ∅, armed := ∅ } now where
  found r hr := absurd ((hinactive r).symm.trans hr) Bool.false_ne_true
  entry key v hv := by simp at hv
  idle r _ := hkey r
  busy r hr := absurd ((hinactive r).symm.trans hr) Bool.false_ne_true
  queued n hn := by
    have hmem : n.ref ∈ h.pending := List.mem_append_left _ (List.mem_map_of_mem hn)
    simp [hpending] at hmem
  waits r hr := by
    have hmem : r ∈ h.pending := List.mem_append_right _ hr
    simp [hpending] at hmem
  once r _ := by
    change h.pending.count r ≤ 1
    simp [hpending]
  scheduled r d hd := by simp at hd

theorem deactivate_of_inactive {t : KeyedTimer} (hactive : t.active = false) (hkey : t.key = "") :
    t.deactivate = t := by
  have hid : t.id = nullTimerId := by simpa [KeyedTimer.active] using hactive
  rw [KeyedTimer.deactivate, ← hid, ← hkey]

/-- If `active_timers_` lists the active timers and the queue holds active timers under their ids
only, `cancel_all` finds no null pointer; it deactivates every timer and empties the queue. -/
theorem cancelAll_eq_ok_of (hentry : ∀ key v, h.activeTimers.find? key = some v → ∃ r, v = some r)
    (hfound : ∀ r, (h.getTimer r).active = true → ∃ key, h.activeTimers.find? key = some (some r))
    (hidle : ∀ r, (h.getTimer r).active = false → (h.getTimer r).key = "")
    (hqueued : ∀ n ∈ h.queue, (h.getTimer n.ref).active = true ∧ n.id = (h.getTimer n.ref).id) :
    ∃ h', h.cancelAll = .ok h' ∧
      (∀ r, h'.getTimer r = (h.getTimer r).deactivate) ∧ h'.queue = [] ∧ h'.waiting = h.waiting ∧
        h' = { h' with activeTimers := ∅, armed := ∅ } := by
  obtain ⟨l, hl⟩ : ∃ l : List (TimerRef E), h.activeTimers.entries.map (·.2) = l.map some := by
    refine exists_map_some fun v hv => ?_
    obtain ⟨⟨key, w⟩, hmem, rfl⟩ := List.mem_map.mp hv
    exact hentry key w (Table.mem_entries_iff.mp hmem)
  have hmem : ∀ r, (h.getTimer r).active = true → r ∈ l := by
    intro r hactive
    obtain ⟨key, hkey⟩ := hfound r hactive
    have hentry : some r ∈ h.activeTimers.entries.map (·.2) :=
      List.mem_map.mpr ⟨⟨key, some r⟩, Table.mem_entries_iff.mpr hkey, rfl⟩
    simpa [hl] using hentry
  obtain ⟨h₁, hloop, hqueue, hwaiting, hget⟩ := foldlM_cancelEntry l h
    fun n hn _ => (hqueued n hn).2
  refine ⟨{ h₁ with activeTimers := ∅, armed := ∅ }, ?_, fun r => (hget r).trans ?_,
    List.eq_nil_iff_forall_not_mem.mpr fun n hn => ?_, hwaiting, rfl⟩
  · rw [TimerHandler.cancelAll, hl, hloop]
    rfl
  · split_ifs with hr
    · rfl
    · have hactive := Bool.eq_false_iff.mpr (mt (hmem r) hr)
      exact (deactivate_of_inactive hactive (hidle r hactive)).symm
  · obtain ⟨hn, hnotMem⟩ := hqueue n hn
    exact hnotMem (hmem _ (hqueued n hn).1)

/-- `cancel_all` finds no null pointer; it deactivates every timer and takes every active one off
the queue. -/
theorem Consistent.cancelAll_eq_ok (hc : Consistent h now) : ∃ h', h.cancelAll = .ok h' ∧
    (∀ r, h'.getTimer r = (h.getTimer r).deactivate) ∧ h'.queue = [] ∧ h'.waiting = h.waiting ∧
      h' = { h' with activeTimers := ∅, armed := ∅ } := by
  refine cancelAll_eq_ok_of (fun key v hv => ?_) (fun r hr => ⟨_, hc.found r hr⟩) hc.idle
    fun n hn => ⟨?_, (hc.queued n hn).1⟩
  · obtain ⟨r, rfl, -⟩ := hc.entry key v hv
    exact ⟨r, rfl⟩
  · exact hc.active_of_pending (List.mem_append_left _ (List.mem_map_of_mem hn))

/-- `cancel_all` may run while no upcall of an active timer waits. -/
theorem Consistent.cancelAll (hc : Consistent h now)
    (hr : ∀ r ∈ h.waiting, (h.getTimer r).active = false) (hok : h.cancelAll = .ok h') :
    Consistent h' now := by
  obtain ⟨h'', hok', hget, hqueue, hwaiting, heq⟩ := hc.cancelAll_eq_ok
  obtain rfl := Except.ok.inj (hok.symm.trans hok')
  have hpending : h'.pending = [] := by
    rw [List.eq_nil_iff_forall_not_mem]
    intro r hmem
    rw [pending, hqueue, hwaiting, List.map_nil, List.nil_append] at hmem
    have hactive := hc.active_of_pending (List.mem_append_right _ hmem)
    exact Bool.false_ne_true ((hr r hmem).symm.trans hactive)
  rw [heq]
  exact .of_idle (fun r => by rw [hget]; rfl) (fun r => by rw [hget]; rfl) hpending

theorem active_getTimer_cancel : ((h.cancel r).getTimer r).active = false := by
  rw [cancel]
  split_ifs with hactive
  · exact congrArg KeyedTimer.active ((getTimer_timerWontRun
      (h.cancelTimer (h.getTimer r).id) r r).trans (if_pos rfl))
  · exact Bool.eq_false_iff.mpr hactive

theorem delay_getTimer_cancel : ((h.cancel r).getTimer r).delay = (h.getTimer r).delay := by
  rw [cancel]
  split_ifs
  · have hget := getTimer_timerWontRun (h.cancelTimer (h.getTimer r).id) r r
    rw [if_pos rfl] at hget
    exact (congrArg KeyedTimer.delay hget :)
  · rfl

theorem getTimer_cancel_of_ne {r' : TimerRef E} (hne : r' ≠ r) :
    (h.cancel r).getTimer r' = h.getTimer r' := by
  rw [cancel]
  split_ifs
  · exact (getTimer_timerWontRun h r r').trans (if_neg hne)
  · rfl

variable [EventTypes E]

theorem schedule_eq_ok : h.schedule r now id = .ok h' ↔
    (h.getTimer r).active = false ∧ h' = h.arm r now id := by
  rw [schedule, assertInactive]
  cases hactive : (h.getTimer r).active with
  | true => simp [throw, throwThe, MonadExceptOf.throw, bind, Except.bind]
  | false =>
    simp only [true_and]
    exact ⟨fun h => (Except.ok.inj h).symm, fun h => h ▸ rfl⟩

theorem scheduleWith_eq_ok {period delay : Duration} :
    h.scheduleWith r period delay now id = .ok h' ↔
      (h.getTimer r).active = false ∧ h' = (h.configure r period delay).arm r now id := by
  have hget : ((h.configure r period delay).getTimer r).active = (h.getTimer r).active := by
    rw [getTimer_configure, if_pos rfl]
    rfl
  rw [scheduleWith, assertInactive]
  cases hactive : (h.getTimer r).active with
  | true => simp [throw, throwThe, MonadExceptOf.throw, bind, Except.bind]
  | false =>
    change (h.configure r period delay).schedule r now id = .ok h' ↔ _
    rw [schedule_eq_ok, hget, hactive]

/-- A timer that is rescheduled is cancelled first, so `schedule` does not throw. -/
theorem reschedule_eq_ok : h.reschedule r now id = .ok h' ↔
    h' = ((h.cancel r).arm r now id).mayFireFrom r (now + (h.getTimer r).delay) := by
  have hschedule : (h.cancel r).schedule r now id = .ok ((h.cancel r).arm r now id) :=
    schedule_eq_ok.mpr ⟨active_getTimer_cancel, rfl⟩
  have hdelay : (((h.cancel r).arm r now id).getTimer r).delay = (h.getTimer r).delay := by
    rw [getTimer_arm, if_pos rfl]
    exact delay_getTimer_cancel
  rw [reschedule, hschedule, ← hdelay]
  exact ⟨fun h => (Except.ok.inj h).symm, fun h => h ▸ rfl⟩

/-- A careful operation keeps the invariant. -/
theorem Consistent.perform (hc : Consistent h now) {op : Op E} (hfresh : h.Fresh op)
    (hcareful : h.Careful op) (hok : h.perform now op = .ok h') : Consistent h' now := by
  cases op with
  | schedule r id =>
    obtain ⟨hidle, rfl⟩ := schedule_eq_ok.mp hok
    exact hc.arm hidle hfresh.1 hcareful
  | scheduleWith r period delay id =>
    obtain ⟨hidle, rfl⟩ := scheduleWith_eq_ok.mp hok
    have hget : ∀ r', r' ≠ r → (h.configure r period delay).getTimer r' = h.getTimer r' :=
      fun r' hne => by rw [getTimer_configure, if_neg hne]
    refine (hc.configure hidle period delay).arm ?_ hfresh.1 ?_
    · rw [getTimer_configure, if_pos rfl]
      exact hidle
    · intro r' hne
      rw [hget r' hne]
      exact hcareful r' hne
  | cancel r =>
    obtain rfl := Except.ok.inj hok
    exact hc.cancel hcareful
  | reschedule r id =>
    obtain rfl := reschedule_eq_ok.mp hok
    obtain ⟨hnot, hfree, hdelay⟩ := hcareful
    have hcancelled := hc.cancel hnot
    have hidle : ((h.cancel r).getTimer r).active = false := active_getTimer_cancel
    have hunqueued : r ∉ (h.cancel r).pending := fun hr =>
      Bool.false_ne_true (hidle.symm.trans (hcancelled.active_of_pending hr))
    have harmed := hcancelled.arm hidle hfresh.1 fun r' hne => by
      rw [getTimer_cancel_of_ne hne]
      exact hfree r' hne
    refine harmed.mayFireFrom (harmed.scheduled r _ (Table.find?_set_self ..))
      (fun hr => hunqueued (List.mem_append_right _ hr)) ?_
    intro n hn href
    rcases List.mem_cons.mp hn with rfl | hn
    · change _ ≤ now + toTimeValue ((h.cancel r).getTimer r).delay
      rw [delay_getTimer_cancel]
      exact Int.add_le_add_left hdelay now
    · exact absurd (List.mem_append_left _ (List.mem_map.mpr ⟨n, hn, href⟩)) hunqueued
  | cancelAll => exact hc.cancelAll hcareful hok

end Operations

/-! ### Upcalls -/

section Upcalls

variable {h : TimerHandler E} {r fired : TimerRef E} {now : ℤ}

/-- A waiting upcall finds its own timer. -/
theorem Consistent.timerFor_of_waiting (hc : Consistent h now) (hr : r ∈ h.waiting) :
    h.timerFor r = some r := by
  rw [timerFor, hc.found r (hc.active_of_pending (List.mem_append_right _ hr))]
  rfl

/-- Looking up a timer that is there changes nothing. -/
theorem lookedUp_of_timerFor (hr : h.timerFor r = some fired) : h.lookedUp r = h := by
  rw [timerFor, Option.join_eq_some_iff] at hr
  rw [lookedUp, Table.insertNew, hr]

/-- `handle_timeout` may retire a timer that is not scheduled. -/
theorem Consistent.finishTimeout (hc : Consistent h now)
    (hr : (h.getTimer r).period = 0 → h.armed.find? r = none) :
    Consistent (h.finishTimeout r) now := by
  rw [TimerHandler.finishTimeout]
  split_ifs with hperiod
  · have hnot : r ∉ h.pending := fun hmem => by
      obtain ⟨d, hd⟩ := hc.armed_of_pending hmem
      rw [hr hperiod] at hd
      cases hd
    have hretired := hc.retire h.queue h.armed (List.Sublist.refl _)
      (fun n hn heq => hnot (List.mem_append_left _ (List.mem_map.mpr ⟨n, hn, heq⟩)))
      (fun hmem => hnot (List.mem_append_right _ hmem))
      fun r' => by split_ifs with heq <;> simp [heq, hr hperiod]
    exact { hretired with }
  · exact { hc with }

variable [EventTypes E]

/-- The careful operations of a callback keep the invariant. -/
theorem Consistent.anyTimerFired (hc : Consistent h now) {callback : List (Op E)}
    (hfresh : Along Fresh now h callback) (hcareful : Along Careful now h callback) :
    Consistent (anyTimerFired now h callback).1 now :=
  anyTimerFired_invariant (I := (Consistent · now)) hc (hfresh.and hcareful)
    fun _ _ _ hg hop hperform => hg.perform hop.1 hop.2 hperform

/-- A careful action keeps the invariant. -/
theorem Consistent.act (hc : Consistent h now) {a : Action E} (hadm : h.Admissible now a)
    (hcareful : h.CarefulAction now a) : Consistent (h.act now a) now := by
  cases a with
  | perform op =>
    exact act_perform_invariant (I := (Consistent · now)) hc
      fun h' hperform => hc.perform hadm hcareful hperform
  | expire n again => exact hc.expire hadm.1 hadm.2.1 hadm.2.2
  | upcall r callback =>
    have hfor : (h.obtainLock r).timerFor r = some r := hc.timerFor_of_waiting hadm.1
    have hlocked := hc.obtainLock r
    have hcalled : Consistent ((h.obtainLock r).calledBack r r) now := by
      rw [calledBack, lookedUp_of_timerFor hfor]
      exact hlocked.markFired (hc.notMem_pending_obtainLock hadm.1)
    have hran := hcalled.anyTimerFired (hadm.2 r hfor) (hcareful r hfor).1
    have hreturned := (hcareful r hfor).2
    simp only [TimerHandler.act, handleTimeout, hfor]
    split
    · next h' hrun =>
      rw [hrun] at hran hreturned
      exact hran.finishTimeout (hreturned rfl)
    · next h' hrun =>
      rw [hrun] at hran
      exact hran

/-- An upcall of a consistent handler finds its own timer, scheduled and due. -/
theorem Consistent.firesSoundly (hc : Consistent h now) {a : Action E}
    (hadm : h.Admissible now a) : h.FiresSoundly now a := by
  cases a with
  | perform | expire => trivial
  | upcall r callback => exact ⟨r, hc.timerFor_of_waiting hadm.1, hc.waits r hadm.1⟩

end Upcalls

/-! ### Runs -/

section Runs

variable [EventTypes E]

omit [EventTypes E] in
theorem Consistent.init (clock : ℤ) : Consistent ({} : TimerHandler E) clock :=
  .of_idle (h := {}) (fun _ => rfl) (fun _ => rfl) rfl

/-- The invariant holds after every run of careful actions. -/
theorem IsHandlerRun.consistent {tr : Trace E} {c : Config E} (h : IsHandlerRun tr c)
    (hcareful : ∀ t ∈ tr, t.source.handler.CarefulAction t.label.now t.label.action) :
    Consistent c.handler c.clock := by
  obtain ⟨clock, hrun⟩ := h
  refine hrun.invariant_of_forall (P := fun c => Consistent c.handler c.clock)
    (C := fun c l => c.handler.CarefulAction l.now l.action) hcareful (.init clock) ?_
  rintro c l c' hc hstep ⟨hclock, hadm, rfl⟩
  exact (hc.mono hclock).act hadm hstep

/-- **Upcalls and operations.** In every run of careful actions every upcall that obtains `lock_`
finds a timer, and this timer has been scheduled, not cancelled since, and is due, a rescheduled one
after its whole delay; and after the run every timer that was scheduled and has neither fired nor
been cancelled is active. -/
theorem fires_soundly_of_run {tr : Trace E} {c : Config E} (h : IsHandlerRun tr c)
    (hcareful : ∀ t ∈ tr, t.source.handler.CarefulAction t.label.now t.label.action) :
    (∀ t ∈ tr, t.source.handler.FiresSoundly t.label.now t.label.action) ∧
      c.handler.ScheduledActive := by
  refine ⟨fun t ht => ?_, (h.consistent hcareful).scheduled⟩
  obtain ⟨pre, hpre⟩ := exists_prefix_snoc_of_mem ht
  obtain ⟨clock, hrun⟩ := h
  obtain ⟨hbefore, hclock, hadm, -⟩ := hrun.of_prefix_snoc hpre
  have hpre' : pre <+: tr := (List.prefix_append pre [t]).trans hpre
  have hc : Consistent t.source.handler t.source.clock :=
    IsHandlerRun.consistent ⟨clock, hbefore⟩ fun u hu => hcareful u (hpre'.subset hu)
  exact (hc.mono hclock).firesSoundly hadm

end Runs

/-- The event types of `Handshaking`. -/
inductive HandshakingEvent
  | heartbeatEvent
deriving DecidableEq

instance : EventTypes HandshakingEvent := ⟨fun _ => "tms::Heartbeat"⟩

/-- A timer that fires, and whose callback schedules another one. -/
theorem fires_soundly_of_callback : ∃ (tr : Trace HandshakingEvent) (c : Config HandshakingEvent),
    IsHandlerRun tr c ∧ c.handler.waiting = [] ∧
      c.handler.armed.find? ⟨.heartbeatEvent, "b"⟩ = some (Sec 10) ∧
      (∀ t ∈ tr, t.source.handler.FiresSoundly t.label.now t.label.action) ∧
      c.handler.ScheduledActive :=
  have hrun := isHandlerRun_of_follow 0
    [⟨0, .perform (.scheduleWith ⟨.heartbeatEvent, "a"⟩ 0 (Sec 3) 1)⟩,
      ⟨Sec 3, .expire ⟨1, ⟨.heartbeatEvent, "a"⟩, Sec 3, 0⟩ none⟩,
      ⟨Sec 4, .upcall ⟨.heartbeatEvent, "a"⟩
        [.scheduleWith ⟨.heartbeatEvent, "b"⟩ 0 (Sec 6) 2]⟩] rfl
  ⟨_, _, hrun, by decide, by decide, fires_soundly_of_run hrun (by decide)⟩

/-- Cancelled while its upcall waits, a timer leaves the upcall a null pointer; scheduled again, it
fires before its new delay has elapsed. -/
theorem null_timer_after_cancel :
    (∃ (tr : Trace HandshakingEvent) (c : Config HandshakingEvent), IsHandlerRun tr c ∧
      ∃ t ∈ tr, ¬t.source.handler.FiresSoundly t.label.now t.label.action ∧
        t.source.handler.timerFor ⟨.heartbeatEvent, ""⟩ = none) ∧
    ∃ (tr : Trace HandshakingEvent) (c : Config HandshakingEvent), IsHandlerRun tr c ∧
      ∃ t ∈ tr, ¬t.source.handler.FiresSoundly t.label.now t.label.action ∧
        t.source.handler.timerFor ⟨.heartbeatEvent, ""⟩ = some ⟨.heartbeatEvent, ""⟩ :=
  have hcancel := isHandlerRun_of_follow 0
    [⟨0, .perform (.scheduleWith ⟨.heartbeatEvent, ""⟩ 0 (Sec 3) 1)⟩,
      ⟨Sec 3, .expire ⟨1, ⟨.heartbeatEvent, ""⟩, Sec 3, 0⟩ none⟩,
      ⟨Sec 3, .perform (.cancel ⟨.heartbeatEvent, ""⟩)⟩,
      ⟨Sec 3, .upcall ⟨.heartbeatEvent, ""⟩ []⟩] rfl
  have hreschedule := isHandlerRun_of_follow 0
    [⟨0, .perform (.scheduleWith ⟨.heartbeatEvent, ""⟩ 0 (Sec 3) 1)⟩,
      ⟨Sec 3, .expire ⟨1, ⟨.heartbeatEvent, ""⟩, Sec 3, 0⟩ none⟩,
      ⟨Sec 3, .perform (.reschedule ⟨.heartbeatEvent, ""⟩ 2)⟩,
      ⟨Sec 3, .upcall ⟨.heartbeatEvent, ""⟩ []⟩] rfl
  ⟨⟨_, _, hcancel, by decide⟩, ⟨_, _, hreschedule, by decide⟩⟩

end TimerHandler

end TacticalMicrogrid
