import TacticalMicrogrid.Common.TimerHandler.Siblings

/-!
# Timers that their own callbacks schedule again

The callback of a one-shot timer may schedule this timer again: `reschedule`, or `cancel` and then
`schedule`. When the callback has returned, `handle_timeout` looks at the period of the timer only.
If the period is still zero, `timer_wont_run` erases the entry of the new arming and clears the id
and the key, while the reactor has the timer on its queue; the next timeout gets the address of an
empty key.

The reactor is that of `TacticalMicrogrid.Common.TimerHandler.KeyReuse`. A callback works on any
timers, its own one included.

## Main definitions

* `TimerHandler.leftPeriod`: the period with which a callback leaves a timer.
* `TimerHandler.LeavesAlone`: an operation that leaves the arming of a timer alone.
* `TimerHandler.KeepsArming`: a callback leaves the last arming of a timer alone.
* `TimerHandler.IsFreshRun`.
* `TimerHandler.Rearmed`: a timer is active, registered and on the queue.
* `TimerHandler.FiresNext`, `TimerHandler.KeepsRearmed`: its next timeout finds it, and an upcall
  whose callback schedules its own timer leaves it so.
* `TimerHandler.OwnKeys`: the keys of the timers of a run.

## Main results

* `TimerHandler.Rearmed.run`: a timer that is left alone stays registered and on the queue.
* `TimerHandler.KeepsArming.rearmed`, `TimerHandler.keepsArming_of_pending`: how a callback leaves a
  timer that it schedules.
* `TimerHandler.retired_finishTimeout`: a one-shot timer that its callback schedules again is lost.
* `TimerHandler.keepsRearmed_iff`: when a timer that its callback schedules again will fire again.
-/

namespace TacticalMicrogrid

open TransitionSystem

namespace TimerHandler

variable {E : Type} [DecidableEq E]

/-! ### Operations on a timer and on others -/

/-- The period of a timer after an operation. -/
def Op.periodAfter (r : TimerRef E) (period : Duration) : Op E → Duration
  | .scheduleWith r' period' _ _ => if r = r' then period' else period
  | .schedule _ _ | .cancel _ | .reschedule _ _ | .cancelAll => period

/-- The period with which a callback leaves a timer. -/
def leftPeriod (callback : List (Op E)) (r : TimerRef E) (period : Duration) : Duration :=
  callback.foldl (Op.periodAfter r) period

/-- The operation schedules the timer. -/
def Op.Arms (f : TimerRef E) : Op E → Prop
  | .schedule r _ | .scheduleWith r _ _ _ | .reschedule r _ => r = f
  | .cancel _ | .cancelAll => False

/-- The operation does not work on the timer, and cancels no other active timer that has its id. -/
def LeavesAlone (f : TimerRef E) (h : TimerHandler E) : Op E → Prop
  | .schedule r _ | .scheduleWith r _ _ _ => r ≠ f
  | .cancel r | .reschedule r _ =>
    r ≠ f ∧ ((h.getTimer r).active = true → (h.getTimer r).id ≠ (h.getTimer f).id)
  | .cancelAll => False

variable [EventTypes E]

/-- The callback schedules the timer, and leaves it alone from then on. -/
def KeepsArming (h : TimerHandler E) (now : ℤ) (f : TimerRef E) (callback : List (Op E)) : Prop :=
  ∃ pre op post, callback = pre ++ op :: post ∧ op.Arms f ∧
    Along (LeavesAlone f) now (anyTimerFired now h (pre ++ [op])).1 post

/-! ### Runs -/

/-- What is assumed of the reactor; a callback may do anything. -/
def AssumedFresh (h : TimerHandler E) (now : ℤ) : ReactorEvent E → Prop
  | .perform op => h.Fresh op
  | .upcall n callback => n ∈ h.queue ∧ ∀ fired ∈ (h.dispatch n).timerFor n.ref,
      Along Fresh now ((h.dispatch n).calledBack n.ref fired) callback

instance (h : TimerHandler E) (now : ℤ) : (e : ReactorEvent E) → Decidable (h.AssumedFresh now e)
  | .perform op => inferInstanceAs (Decidable (h.Fresh op))
  | .upcall n _ => inferInstanceAs (Decidable
      (n ∈ h.queue ∧ ∀ fired ∈ (h.dispatch n).timerFor n.ref, _))

/-- The steps of a program with any callbacks. -/
def Process.FreshStep (p : Process E) (l : ℤ × ReactorEvent E) (p' : Process E) : Prop :=
  ∃ h, p = .running h ∧ h.AssumedFresh l.1 l.2 ∧ p' = h.afterEvent l.1 l.2

/-- `tr` is a run of a program with a new handler, which ends in `p`. -/
def IsFreshRun (tr : List (Transition (Process E) (ℤ × ReactorEvent E))) (p : Process E) : Prop :=
  IsRun Process.FreshStep (.running {}) tr p

/-- The step for an event, if it can be taken. -/
def Process.nextFresh? (p : Process E) (l : ℤ × ReactorEvent E) :
    Option ((ℤ × ReactorEvent E) × Process E) :=
  match p with
  | .running h => if h.AssumedFresh l.1 l.2 then some (l, h.afterEvent l.1 l.2) else none
  | .terminated => none

theorem Process.freshStep_of_nextFresh? (p : Process E) (l l' : ℤ × ReactorEvent E)
    (p' : Process E) (h : p.nextFresh? l = some (l', p')) : p.FreshStep l' p' := by
  cases p with
  | terminated => cases h
  | running handler =>
    obtain ⟨hassumed, rfl, rfl⟩ := of_guard_eq_some h
    exact ⟨handler, rfl, hassumed, rfl⟩

/-! ### Timers that stay registered -/

omit [EventTypes E] in
/-- The timer is active, registered in `active_timers_` under its key, and on the queue of the
reactor under its id. -/
structure Rearmed (h : TimerHandler E) (f : TimerRef E) : Prop where
  active : (h.getTimer f).active = true
  registered : h.activeTimers.find? (h.getTimer f).key = some (some f)
  pending : ∃ n ∈ h.queue, n.ref = f ∧ n.id = (h.getTimer f).id

/-- The event leaves the arming of the timer alone: it is not the timeout of the timer, no operation
touches the arming, and neither does the retirement of another timer that has fired. -/
def EventLeavesAlone (f : TimerRef E) (h : TimerHandler E) (now : ℤ) : ReactorEvent E → Prop
  | .perform op => LeavesAlone f h op
  | .upcall n callback => n.ref ≠ f ∧ ∀ fired ∈ (h.dispatch n).timerFor n.ref,
      Along (LeavesAlone f) now ((h.dispatch n).calledBack n.ref fired)
        (callback ++ [.cancel fired])

/-- The next timeout of the timer finds it, whatever happens until then that leaves it alone. -/
def FiresNext (h : TimerHandler E) (f : TimerRef E) : Prop :=
  ∀ (rest : List (Transition (Process E) (ℤ × ReactorEvent E))) (h' : TimerHandler E),
    IsRun Process.FreshStep (.running h) rest (.running h') →
    (∀ t ∈ rest, ∀ g, t.source = .running g → EventLeavesAlone f g t.label.1 t.label.2) →
    ∀ n ∈ h'.queue, n.ref = f → (h'.dispatch n).timerFor n.ref = some f

/-- If the callback of a one-shot timer schedules this timer again, and does not cancel it
afterwards, then it is registered and on the queue when `handle_timeout` returns, its next timeout
finds it, and the clean-up has removed nothing of what the callback has left. -/
def KeepsRearmed (t : Transition (Process E) (ℤ × ReactorEvent E)) : Prop :=
  ∀ h n callback fired h', t.source = .running h → t.label.2 = .upcall n callback →
    (h.dispatch n).timerFor n.ref = some fired → (h.getTimer fired).period = 0 →
    leftId callback fired ≠ nullTimerId → t.target = .running h' →
      h'.Rearmed fired ∧ h'.FiresNext fired ∧
        ∀ left, anyTimerFired t.label.1 ((h.dispatch n).calledBack n.ref fired) callback =
          (left, true) → h'.timers = left.timers ∧ h'.activeTimers = left.activeTimers ∧
            h'.queue = left.queue

/-- A callback that schedules its own one-shot timer again, and returns, leaves this timer with
another period than zero, and leaves its last arming alone. -/
def RearmsPeriodic (t : Transition (Process E) (ℤ × ReactorEvent E)) : Prop :=
  ∀ h n callback fired, t.source = .running h → t.label.2 = .upcall n callback →
    (h.dispatch n).timerFor n.ref = some fired → (h.getTimer fired).period = 0 →
    leftId callback fired ≠ nullTimerId → t.target ≠ .terminated →
      leftPeriod callback fired 0 ≠ 0 ∧
        KeepsArming ((h.dispatch n).calledBack n.ref fired) t.label.1 fired callback

/-! ### Callbacks in two parts -/

section Append

variable {h g : TimerHandler E} {now : ℤ} {xs ys : List (Op E)}

/-- The first operations of a callback that returns have returned. -/
theorem exists_of_anyTimerFired_append (hall : anyTimerFired now h (xs ++ ys) = (g, true)) :
    ∃ m, anyTimerFired now h xs = (m, true) ∧ anyTimerFired now m ys = (g, true) := by
  induction xs generalizing h with
  | nil => exact ⟨h, rfl, hall⟩
  | cons op ops ih =>
    rw [List.cons_append, anyTimerFired] at hall
    rw [anyTimerFired]
    split at hall
    · exact ih hall
    · cases hall

theorem anyTimerFired_singleton {op : Op E} :
    anyTimerFired now h [op] = (g, true) ↔ h.perform now op = .ok g := by
  rw [anyTimerFired]
  cases h.perform now op with
  | error msg => simp
  | ok g' => simp [anyTimerFired]

/-- What holds along a callback holds along its parts. -/
theorem along_append_iff {P : TimerHandler E → Op E → Prop}
    (hxs : anyTimerFired now h xs = (g, true)) :
    Along P now h (xs ++ ys) ↔ Along P now h xs ∧ Along P now g ys := by
  induction xs generalizing h with
  | nil =>
    obtain ⟨rfl, -⟩ := Prod.mk.inj hxs
    exact (and_iff_right trivial).symm
  | cons op ops ih =>
    rw [anyTimerFired] at hxs
    rw [List.cons_append, Along, Along, and_assoc]
    refine and_congr_right fun _ => ?_
    split at hxs
    · next h' hperform =>
      simp only [hperform, Except.ok.injEq, forall_eq']
      exact ih hxs
    · cases hxs

end Append

/-! ### Periods and keys -/

section Timers

variable {h h' : TimerHandler E} {r : TimerRef E} {now : ℤ} {callback : List (Op E)}

omit [EventTypes E] in
/-- The loop of `cancel_all` leaves a timer as it is, or deactivates it. -/
theorem getTimer_foldlM_cancelEntry (l : List (Option (TimerRef E)))
    (hl : l.foldlM cancelEntry h = .ok h') (r : TimerRef E) :
    h'.getTimer r = h.getTimer r ∨ h'.getTimer r = (h.getTimer r).deactivate := by
  induction l generalizing h with
  | nil =>
    obtain rfl := Except.ok.inj hl
    exact Or.inl rfl
  | cons v l ih =>
    cases v with
    | none => cases hl
    | some r' =>
      let h₁ : TimerHandler E := { h.cancelTimer (h.getTimer r').id with
        timers := h.timers.set r' (h.getTimer r').deactivate }
      have hget : h₁.getTimer r = if r = r' then (h.getTimer r').deactivate else h.getTimer r :=
        getTimer_timerWontRun h r' r
      have hrest := ih (h := h₁) hl
      rw [hget] at hrest
      split_ifs at hrest with heq
      · rw [← heq] at hrest
        exact Or.inr (hrest.elim id id)
      · exact hrest

omit [EventTypes E] in
/-- `cancel_all` leaves a timer as it is, or deactivates it. -/
theorem getTimer_cancelAll (hok : h.cancelAll = .ok h') (r : TimerRef E) :
    h'.getTimer r = h.getTimer r ∨ h'.getTimer r = (h.getTimer r).deactivate := by
  rw [cancelAll] at hok
  cases hloop : (h.activeTimers.entries.map (·.2)).foldlM cancelEntry h with
  | error msg =>
    rw [hloop] at hok
    cases hok
  | ok g =>
    rw [hloop] at hok
    obtain rfl := Except.ok.inj hok
    exact getTimer_foldlM_cancelEntry _ hloop r

theorem period_perform {op : Op E} (hok : h.perform now op = .ok h') :
    (h'.getTimer r).period = op.periodAfter r (h.getTimer r).period := by
  have harm : ∀ (g : TimerHandler E) (r' : TimerRef E) (id : ℕ),
      ((g.arm r' now id).getTimer r).period = (g.getTimer r).period := by
    intro g r' id
    rw [getTimer_arm]
    split_ifs with heq
    · rw [heq]
      rfl
    · rfl
  have hcancel : ∀ r', ((h.cancel r').getTimer r).period = (h.getTimer r).period := by
    intro r'
    by_cases heq : r = r'
    · rw [heq, getTimer_cancel_self]
      split_ifs <;> rfl
    · rw [getTimer_cancel_of_ne heq]
  cases op with
  | schedule r' id =>
    obtain ⟨-, rfl⟩ := schedule_eq_ok.mp hok
    exact harm h r' id
  | scheduleWith r' period delay id =>
    obtain ⟨-, rfl⟩ := scheduleWith_eq_ok.mp hok
    rw [harm, Op.periodAfter, getTimer_configure]
    split_ifs <;> rfl
  | cancel r' =>
    obtain rfl := Except.ok.inj hok
    exact hcancel r'
  | reschedule r' id =>
    obtain rfl := reschedule_eq_ok.mp hok
    exact (harm _ r' id).trans (hcancel r')
  | cancelAll =>
    rcases getTimer_cancelAll hok r with hget | hget
    · rw [hget]
      rfl
    · rw [hget]
      rfl

/-- The period of a timer after a callback that has returned. -/
theorem period_anyTimerFired (hreturns : anyTimerFired now h callback = (h', true)) :
    (h'.getTimer r).period = leftPeriod callback r (h.getTimer r).period :=
  foldl_of_returns (f := fun g => (g.getTimer r).period) (P := fun _ _ => True)
    (along_of_forall fun _ _ _ => trivial) (fun _ _ _ _ hperform => period_perform hperform)
    hreturns

end Timers

omit [DecidableEq E] in
/-- An active timer has the key made of its id, an inactive one has none. -/
def HasOwnKey (r : TimerRef E) (t : KeyedTimer) : Prop :=
  t.key = if t.active then r.makeKey t.id else ""

/-- All timers have keys of their own. -/
def OwnKeys (h : TimerHandler E) : Prop := ∀ r, HasOwnKey r (h.getTimer r)

namespace OwnKeys

variable {h h' : TimerHandler E} {r f : TimerRef E} {id : ℕ} {now : ℤ}

theorem init : OwnKeys ({} : TimerHandler E) := fun _ => rfl

/-- The keys look at the timers only. -/
theorem congr (hk : h.OwnKeys) (htimers : h'.timers = h.timers) : h'.OwnKeys := by
  intro r
  rw [getTimer, htimers]
  exact hk r

/-- Only an active timer has the key of an active timer, and its id then. -/
theorem key_ne (hk : h.OwnKeys) (hf : (h.getTimer f).active = true)
    (hid : (h.getTimer r).active = true → (h.getTimer r).id ≠ (h.getTimer f).id) :
    (h.getTimer f).key ≠ (h.getTimer r).key := by
  rw [hk f, hk r, if_pos hf]
  split_ifs with hactive
  · exact fun heq => hid hactive (TimerRef.makeKey_eq_iff.mp heq).1.symm
  · simp [TimerRef.makeKey]

theorem timerWontRun (hk : h.OwnKeys) : (h.timerWontRun r).OwnKeys := by
  intro r'
  rw [getTimer_timerWontRun]
  split_ifs with heq
  · rfl
  · exact hk r'

theorem cancel (hk : h.OwnKeys) : (h.cancel r).OwnKeys := by
  rw [TimerHandler.cancel]
  split_ifs
  · exact hk.timerWontRun.congr (h := h.timerWontRun r) rfl
  · exact hk

theorem arm (hk : h.OwnKeys) (hid : id ≠ nullTimerId) : (h.arm r now id).OwnKeys := by
  intro r'
  rw [getTimer_arm]
  split_ifs with heq
  · have hactive : (r.activate (h.getTimer r) id).active = true := by
      simpa [KeyedTimer.active, TimerRef.activate] using hid
    rw [heq, HasOwnKey, if_pos hactive]
    rfl
  · exact hk r'

theorem configure (hk : h.OwnKeys) (period delay : Duration) :
    (h.configure r period delay).OwnKeys := by
  intro r'
  rw [getTimer_configure]
  split_ifs with heq
  · rw [heq]
    exact hk r
  · exact hk r'

theorem perform (hk : h.OwnKeys) {op : Op E} (hfresh : h.Fresh op)
    (hok : h.perform now op = .ok h') : h'.OwnKeys := by
  cases op with
  | schedule r id =>
    obtain ⟨-, rfl⟩ := schedule_eq_ok.mp hok
    exact hk.arm hfresh.1
  | scheduleWith r period delay id =>
    obtain ⟨-, rfl⟩ := scheduleWith_eq_ok.mp hok
    exact (hk.configure period delay).arm hfresh.1
  | cancel r =>
    obtain rfl := Except.ok.inj hok
    exact hk.cancel
  | reschedule r id =>
    obtain rfl := reschedule_eq_ok.mp hok
    have harmed : ((h.cancel r).arm r now id).OwnKeys := hk.cancel.arm hfresh.1
    exact harmed
  | cancelAll =>
    intro r
    rcases getTimer_cancelAll hok r with hget | hget
    · rw [hget]
      exact hk r
    · rw [hget]
      rfl

theorem anyTimerFired (hk : h.OwnKeys) {callback : List (Op E)}
    (hfresh : Along Fresh now h callback) :
    (TimerHandler.anyTimerFired now h callback).1.OwnKeys :=
  anyTimerFired_invariant hk hfresh fun _ _ _ hg hop hperform => hg.perform hop hperform

theorem finishTimeout (hk : h.OwnKeys) : (h.finishTimeout f).OwnKeys := by
  rw [TimerHandler.finishTimeout]
  split_ifs
  · exact hk.timerWontRun.congr (h := h.timerWontRun f) rfl
  · exact hk.congr rfl

/-- Every event keeps the keys. -/
theorem afterEvent (hk : h.OwnKeys) {event : ReactorEvent E} (hassumed : h.AssumedFresh now event)
    (hrunning : h.afterEvent now event = .running h') : h'.OwnKeys := by
  cases event with
  | perform op =>
    obtain rfl := Process.running.inj hrunning
    exact act_perform_invariant hk fun h₁ hperform => hk.perform hassumed hperform
  | upcall n callback =>
    obtain ⟨-, rfl⟩ | ⟨fired, left, hfor, hreturns, rfl⟩ := afterEvent_upcall_cases hrunning
    · exact hk.congr rfl
    · have hleft := (hk.congr timers_calledBack).anyTimerFired (hassumed.2 fired hfor)
      rw [hreturns] at hleft
      exact hleft.finishTimeout

end OwnKeys

/-! ### What leaves a timer registered -/

namespace Rearmed

variable {h h' : TimerHandler E} {r f : TimerRef E} {id : ℕ} {now : ℤ}

omit [EventTypes E] in
/-- Whether a timer is registered depends on this timer, on `active_timers_` and on the queue. -/
theorem congr (ha : h.Rearmed f) (hget : h'.getTimer f = h.getTimer f)
    (hentries : h'.activeTimers.find? (h.getTimer f).key =
      h.activeTimers.find? (h.getTimer f).key)
    (hqueue : ∀ n ∈ h.queue, n.ref = f → n.id = (h.getTimer f).id →
      ∃ m ∈ h'.queue, m.ref = f ∧ m.id = n.id) : h'.Rearmed f := by
  obtain ⟨hactive, hentry, n, hn, href, hid⟩ := ha
  refine ⟨?_, ?_, ?_⟩
  · rw [hget]
    exact hactive
  · rw [hget, hentries]
    exact hentry
  · obtain ⟨m, hm, hmref, hmid⟩ := hqueue n hn href hid
    rw [hget]
    exact ⟨m, hm, hmref, hmid.trans hid⟩

omit [EventTypes E] in
theorem timerFor_eq (ha : h.Rearmed f) : h.timerFor f = some f := by
  rw [timerFor, ha.registered]
  rfl

/-- A timer that is scheduled. -/
theorem of_arm (hid : id ≠ nullTimerId) : (h.arm f now id).Rearmed f := by
  have hget : (h.arm f now id).getTimer f = f.activate (h.getTimer f) id :=
    (getTimer_arm ..).trans (if_pos rfl)
  refine ⟨?_, ?_, ?_⟩
  · rw [hget]
    simpa [KeyedTimer.active, TimerRef.activate] using hid
  · rw [hget]
    exact Table.find?_set_self ..
  · rw [hget]
    exact ⟨_, List.mem_cons_self, rfl, rfl⟩

/-- Another timer is scheduled, under an id that no timer on the queue has. -/
theorem arm (ha : h.Rearmed f) (hk : h.OwnKeys) (hne : r ≠ f) (hfresh : ∀ n ∈ h.queue, n.id ≠ id) :
    (h.arm r now id).Rearmed f := by
  have hkey : (h.getTimer f).key ≠ r.makeKey id := by
    obtain ⟨n, hn, -, hid⟩ := ha.pending
    rw [hk f, if_pos ha.active]
    exact fun heq => hfresh n hn (hid.trans (TimerRef.makeKey_eq_iff.mp heq).1)
  refine ha.congr ((getTimer_arm ..).trans (if_neg hne.symm)) ?_ fun n hn href _ => ?_
  · exact Table.find?_set_of_ne _ _ hkey
  · exact ⟨n, List.mem_cons_of_mem _ hn, href, rfl⟩

omit [EventTypes E] in
theorem configure (ha : h.Rearmed f) (hne : r ≠ f) (period delay : Duration) :
    (h.configure r period delay).Rearmed f :=
  ha.congr ((getTimer_configure ..).trans (if_neg hne.symm)) rfl
    fun n hn href _ => ⟨n, hn, href, rfl⟩

/-- Another timer is cancelled, which does not have the id. -/
theorem cancel (ha : h.Rearmed f) (hk : h.OwnKeys) (hne : r ≠ f)
    (hid : (h.getTimer r).active = true → (h.getTimer r).id ≠ (h.getTimer f).id) :
    (h.cancel r).Rearmed f := by
  refine ha.congr (getTimer_cancel_of_ne hne.symm) ?_ fun n hn href hnid => ?_
  · rw [find?_cancel, if_neg fun hr => hk.key_ne ha.active hid hr.2]
  · refine ⟨n, ?_, href, rfl⟩
    rw [queue_cancel]
    split_ifs with hactive
    · simpa [hn, hnid] using (hid hactive).symm
    · exact hn

/-- Another timer is retired, which does not have the id. -/
theorem timerWontRun (ha : h.Rearmed f) (hk : h.OwnKeys) (hne : r ≠ f)
    (hid : (h.getTimer r).active = true → (h.getTimer r).id ≠ (h.getTimer f).id) :
    (h.timerWontRun r).Rearmed f := by
  refine ha.congr ((getTimer_timerWontRun ..).trans (if_neg hne.symm)) ?_
    fun n hn href _ => ⟨n, hn, href, rfl⟩
  exact (Table.find?_erase ..).trans (if_neg (hk.key_ne ha.active hid))

/-- An operation that leaves the timer alone. -/
theorem perform (ha : h.Rearmed f) (hk : h.OwnKeys) {op : Op E} (hfresh : h.Fresh op)
    (halone : LeavesAlone f h op) (hok : h.perform now op = .ok h') : h'.Rearmed f := by
  cases op with
  | schedule r id =>
    obtain ⟨-, rfl⟩ := schedule_eq_ok.mp hok
    exact ha.arm hk halone hfresh.2
  | scheduleWith r period delay id =>
    obtain ⟨-, rfl⟩ := scheduleWith_eq_ok.mp hok
    exact (ha.configure halone period delay).arm (hk.configure period delay) halone hfresh.2
  | cancel r =>
    obtain rfl := Except.ok.inj hok
    exact ha.cancel hk halone.1 halone.2
  | reschedule r id =>
    obtain rfl := reschedule_eq_ok.mp hok
    exact { (ha.cancel hk halone.1 halone.2).arm hk.cancel halone.1 hfresh.2 with }
  | cancelAll => exact halone.elim

/-- A callback that leaves the timer alone. -/
theorem anyTimerFired (ha : h.Rearmed f) (hk : h.OwnKeys) {callback : List (Op E)}
    (hfresh : Along Fresh now h callback) (halone : Along (LeavesAlone f) now h callback) :
    (TimerHandler.anyTimerFired now h callback).1.Rearmed f :=
  (anyTimerFired_invariant (I := fun g => g.Rearmed f ∧ g.OwnKeys) ⟨ha, hk⟩ (hfresh.and halone)
    fun _ _ _ hg hop hperform =>
      ⟨hg.1.perform hg.2 hop.1 hop.2 hperform, hg.2.perform hop.1 hperform⟩).1

omit [EventTypes E] in
/-- The reactor makes the upcall of another timer. -/
theorem dispatch (ha : h.Rearmed f) {n : QueueNode E} (hne : n.ref ≠ f) :
    (h.dispatch n).Rearmed f := by
  refine ha.congr rfl rfl fun m hm href _ => ⟨m, ?_, href, rfl⟩
  rw [TimerHandler.dispatch]
  split_ifs
  · exact (List.mem_erase_of_ne fun heq : m = n => hne (heq ▸ href)).mpr hm
  · exact hm

omit [EventTypes E] in
/-- A timer is looked up. -/
theorem lookedUp (ha : h.Rearmed f) : (h.lookedUp r).Rearmed f := by
  refine ha.congr rfl ?_ fun n hn href _ => ⟨n, hn, href, rfl⟩
  rw [TimerHandler.lookedUp, Table.find?_insertNew]
  split_ifs with hkey
  · rw [← hkey, ha.registered]
    rfl
  · rfl

omit [EventTypes E] in
theorem markFired (ha : h.Rearmed f) : (h.markFired r).Rearmed f := by
  rw [TimerHandler.markFired]
  split_ifs
  · exact ha.congr rfl rfl fun n hn href _ => ⟨n, hn, href, rfl⟩
  · exact ha

/-- Another timer is retired after its callback, or stays. -/
theorem finishTimeout (ha : h.Rearmed f) (hk : h.OwnKeys) (hne : r ≠ f)
    (hid : (h.getTimer r).active = true → (h.getTimer r).id ≠ (h.getTimer f).id) :
    (h.finishTimeout r).Rearmed f := by
  rw [TimerHandler.finishTimeout]
  split_ifs
  · exact (ha.timerWontRun hk hne hid).congr rfl rfl fun n hn href _ => ⟨n, hn, href, rfl⟩
  · exact ha.congr rfl rfl fun n hn href _ => ⟨n, hn, href, rfl⟩

/-- An event that leaves the timer alone. -/
theorem afterEvent (ha : h.Rearmed f) (hk : h.OwnKeys) {event : ReactorEvent E}
    (hassumed : h.AssumedFresh now event) (halone : EventLeavesAlone f h now event)
    (hrunning : h.afterEvent now event = .running h') : h'.Rearmed f := by
  cases event with
  | perform op =>
    obtain rfl := Process.running.inj hrunning
    exact act_perform_invariant (I := (·.Rearmed f)) ha
      fun h₁ hperform => ha.perform hk hassumed halone hperform
  | upcall n callback =>
    obtain ⟨hne, halone⟩ := halone
    obtain ⟨-, rfl⟩ | ⟨fired, left, hfor, hreturns, rfl⟩ := afterEvent_upcall_cases hrunning
    · exact (ha.dispatch hne).lookedUp
    · have hcalled : ((h.dispatch n).calledBack n.ref fired).Rearmed f :=
        (ha.dispatch hne).lookedUp.markFired
      have hkeys : ((h.dispatch n).calledBack n.ref fired).OwnKeys := hk.congr timers_calledBack
      have hfresh := hassumed.2 fired hfor
      obtain ⟨hcallback, hcleanUp⟩ := (along_append_iff hreturns).mp (halone fired hfor)
      have hleft := hcalled.anyTimerFired hkeys hfresh hcallback
      have hkeys' := hkeys.anyTimerFired hfresh
      rw [hreturns] at hleft hkeys'
      exact hleft.finishTimeout hkeys' hcleanUp.1.1 hcleanUp.1.2

/-- A timer that is left alone stays registered and on the queue. -/
theorem run {rest : List (Transition (Process E) (ℤ × ReactorEvent E))}
    (ha : h.Rearmed f) (hk : h.OwnKeys)
    (hrun : IsRun Process.FreshStep (.running h) rest (.running h'))
    (halone : ∀ t ∈ rest, ∀ g, t.source = .running g →
      EventLeavesAlone f g t.label.1 t.label.2) : h'.Rearmed f := by
  have hkept := hrun.invariant_of_forall
    (P := fun p => ∀ g, p = .running g → g.Rearmed f ∧ g.OwnKeys)
    (C := fun p l => ∀ g, p = .running g → EventLeavesAlone f g l.1 l.2) halone ?_ ?_
  · exact (hkept h' rfl).1
  · rintro g ⟨⟩
    exact ⟨ha, hk⟩
  · rintro p l p' hp hleaves ⟨g, rfl, hassumed, rfl⟩ g' hg'
    obtain ⟨hag, hkg⟩ := hp g rfl
    exact ⟨hag.afterEvent hkg hassumed (hleaves g rfl) hg', hkg.afterEvent hassumed hg'⟩

end Rearmed

/-! ### What a callback leaves of its own timer -/

section Callback

variable {h h' left : TimerHandler E} {r f : TimerRef E} {now : ℤ} {callback : List (Op E)}

omit [DecidableEq E] [EventTypes E] in
/-- An operation that leaves a timer with an id schedules it, or works on another timer. -/
theorem Op.arms_or_on [DecidableEq E] {op : Op E} {id : ℕ}
    (hid : op.idAfter f id ≠ nullTimerId) :
    op.Arms f ∨ op.On (· ≠ f) ∧ op.idAfter f id = id := by
  cases op with
  | schedule r | scheduleWith r | reschedule r =>
    by_cases heq : r = f
    · exact Or.inl heq
    · exact Or.inr ⟨heq, if_neg (Ne.symm heq)⟩
  | cancel r =>
    by_cases heq : r = f
    · exact absurd (if_pos heq.symm) hid
    · exact Or.inr ⟨heq, if_neg (Ne.symm heq)⟩
  | cancelAll => exact absurd rfl hid

theorem Rearmed.of_arms {op : Op E} (hfresh : h.Fresh op) (harms : op.Arms f)
    (hok : h.perform now op = .ok h') : h'.Rearmed f := by
  cases op with
  | schedule r id =>
    obtain ⟨-, rfl⟩ := schedule_eq_ok.mp hok
    obtain rfl := harms
    exact .of_arm hfresh.1
  | scheduleWith r period delay id =>
    obtain ⟨-, rfl⟩ := scheduleWith_eq_ok.mp hok
    obtain rfl := harms
    exact .of_arm hfresh.1
  | reschedule r id =>
    obtain rfl := reschedule_eq_ok.mp hok
    obtain rfl := harms
    exact { Rearmed.of_arm hfresh.1 with }
  | cancel | cancelAll => exact harms.elim

omit [EventTypes E] in
/-- A timer that is on the queue after another one has been cancelled was there before, and does not
have the id of the other one. -/
theorem of_mem_queue_cancel {n : QueueNode E} (hn : n ∈ (h.cancel r).queue) :
    n ∈ h.queue ∧ ((h.getTimer r).active = true → (h.getTimer r).id ≠ n.id) := by
  rw [queue_cancel] at hn
  split_ifs at hn with hactive
  · obtain ⟨hn, hid⟩ := List.mem_filter.mp hn
    exact ⟨hn, fun _ heq => by simp [heq] at hid⟩
  · exact ⟨hn, fun h => absurd h hactive⟩

/-- A timer on the queue after another one has been scheduled was there before. -/
theorem of_mem_queue_arm {n : QueueNode E} {id : ℕ} (hn : n ∈ (h.arm r now id).queue)
    (hne : r ≠ n.ref) : n ∈ h.queue := by
  rcases List.mem_cons.mp hn with rfl | hn
  · exact absurd rfl hne
  · exact hn

/-- An operation on another timer that leaves a timer on the queue has left it alone. -/
theorem leavesAlone_of_pending {op : Op E} (hother : op.On (· ≠ f))
    (hok : h.perform now op = .ok h')
    (hpending : ∃ n ∈ h'.queue, n.ref = f ∧ n.id = (h'.getTimer f).id) :
    LeavesAlone f h op ∧ ∃ n ∈ h.queue, n.ref = f ∧ n.id = (h.getTimer f).id := by
  obtain ⟨n, hn, rfl, hid⟩ := hpending
  rw [getTimer_perform hother hok] at hid
  cases op with
  | schedule r id =>
    obtain ⟨-, rfl⟩ := schedule_eq_ok.mp hok
    exact ⟨hother, n, of_mem_queue_arm hn hother, rfl, hid⟩
  | scheduleWith r period delay id =>
    obtain ⟨-, rfl⟩ := scheduleWith_eq_ok.mp hok
    have hmem := of_mem_queue_arm (h := h.configure r period delay) hn hother
    exact ⟨hother, n, hmem, rfl, hid⟩
  | cancel r =>
    obtain rfl := Except.ok.inj hok
    obtain ⟨hmem, hne⟩ := of_mem_queue_cancel hn
    exact ⟨⟨hother, hid ▸ hne⟩, n, hmem, rfl, hid⟩
  | reschedule r id =>
    obtain rfl := reschedule_eq_ok.mp hok
    obtain ⟨hmem, hne⟩ := of_mem_queue_cancel (of_mem_queue_arm hn hother)
    exact ⟨⟨hother, hid ▸ hne⟩, n, hmem, rfl, hid⟩
  | cancelAll => exact hother.elim

/-- A callback that leaves its timer on the queue under its id has scheduled it and left it alone
from then on. The induction is on the callback from its last operation. -/
theorem keepsArming_of_pending (hreturns : anyTimerFired now h callback = (left, true))
    (hid : leftId callback f ≠ nullTimerId)
    (hpending : ∃ n ∈ left.queue, n.ref = f ∧ n.id = (left.getTimer f).id) :
    KeepsArming h now f callback := by
  induction callback using List.reverseRecOn generalizing left with
  | nil => exact absurd rfl hid
  | append_singleton ops op ih =>
    obtain ⟨before, hbefore, hlast⟩ := exists_of_anyTimerFired_append hreturns
    have hperform := anyTimerFired_singleton.mp hlast
    rw [leftId, List.foldl_append, List.foldl_cons, List.foldl_nil] at hid
    rcases op.arms_or_on hid with harms | ⟨hother, hsame⟩
    · exact ⟨ops, op, [], rfl, harms, trivial⟩
    · rw [hsame] at hid
      obtain ⟨halone, hpending⟩ := leavesAlone_of_pending hother hperform hpending
      obtain ⟨pre, op', post, rfl, harms, hpost⟩ := ih hbefore hid hpending
      refine ⟨pre, op', post ++ [op], by simp, harms, ?_⟩
      rw [List.append_cons] at hbefore
      obtain ⟨armed, harmed, hrest⟩ := exists_of_anyTimerFired_append hbefore
      rw [harmed] at hpost ⊢
      exact (along_append_iff hrest).mpr ⟨hpost, halone, fun _ _ => trivial⟩

/-- A timer that the callback schedules last, and leaves alone from then on, is registered and on
the queue when the callback returns. -/
theorem KeepsArming.rearmed (hkeeps : KeepsArming h now f callback) (hk : h.OwnKeys)
    (hfresh : Along Fresh now h callback)
    (hreturns : anyTimerFired now h callback = (left, true)) : left.Rearmed f := by
  obtain ⟨pre, op, post, rfl, harms, hpost⟩ := hkeeps
  rw [List.append_cons] at hreturns hfresh
  obtain ⟨armed, harmed, hrest⟩ := exists_of_anyTimerFired_append hreturns
  obtain ⟨hfirst, hfresh⟩ := (along_append_iff harmed).mp hfresh
  obtain ⟨before, hbefore, hlast⟩ := exists_of_anyTimerFired_append harmed
  obtain ⟨-, hop, -⟩ := (along_append_iff hbefore).mp hfirst
  have hkeys := hk.anyTimerFired hfirst
  rw [harmed] at hpost hkeys
  have hleft := (Rearmed.of_arms hop harms (anyTimerFired_singleton.mp hlast)).anyTimerFired
    hkeys hfresh hpost
  rwa [hrest] at hleft

end Callback

/-! ### Upcalls -/

section Upcalls

variable {h left : TimerHandler E} {f : TimerRef E} {now : ℤ} {callback : List (Op E)}

/-- The next timeout of a registered timer finds it. -/
theorem Rearmed.firesNext (ha : h.Rearmed f) (hk : h.OwnKeys) : h.FiresNext f := by
  intro rest h' hrun halone n _ href
  obtain rfl := href
  exact (ha.run hk hrun halone).timerFor_eq

omit [EventTypes E] in
/-- `handle_timeout` retires a timer whose period is zero, whether or not its callback has scheduled
it again: the reactor still has it on its queue. -/
theorem retired_finishTimeout (hperiod : (left.getTimer f).period = 0) :
    (left.finishTimeout f).getTimer f = (left.getTimer f).deactivate ∧
      (left.finishTimeout f).queue = left.queue := by
  rw [finishTimeout, if_pos hperiod]
  exact ⟨(getTimer_timerWontRun left f f).trans (if_pos rfl), rfl⟩

omit [EventTypes E] in
/-- `handle_timeout` leaves a timer with another period as its callback has left it. -/
theorem finishTimeout_of_period (hperiod : (left.getTimer f).period ≠ 0) :
    left.finishTimeout f = { left with
      eventLoopEnded := left.eventLoopEnded || (left.getTimer f).exitAfter } := by
  rw [finishTimeout, if_neg hperiod]

/-- When `handle_timeout` returns, a one-shot timer that its callback has scheduled is registered
and on the queue, its next timeout finds it and the clean-up has removed nothing, if and only if it
has another period than zero and was left alone. -/
theorem kept_iff (hk : h.OwnKeys) (hfresh : Along Fresh now h callback)
    (hreturns : anyTimerFired now h callback = (left, true))
    (hperiod : (h.getTimer f).period = 0) (hid : leftId callback f ≠ nullTimerId) :
    ((left.finishTimeout f).Rearmed f ∧ (left.finishTimeout f).FiresNext f ∧
        (left.finishTimeout f).timers = left.timers ∧
        (left.finishTimeout f).activeTimers = left.activeTimers ∧
        (left.finishTimeout f).queue = left.queue) ↔
      leftPeriod callback f 0 ≠ 0 ∧ KeepsArming h now f callback := by
  have hleft : (left.getTimer f).period = leftPeriod callback f 0 := by
    rw [period_anyTimerFired hreturns, hperiod]
  constructor
  · rintro ⟨ha, -, -, -, hqueue⟩
    have hne : leftPeriod callback f 0 ≠ 0 := by
      intro hzero
      have hactive := ha.active
      rw [(retired_finishTimeout (hleft.trans hzero)).1] at hactive
      cases hactive
    refine ⟨hne, keepsArming_of_pending hreturns hid ?_⟩
    have hpending := ha.pending
    rwa [finishTimeout_of_period (hleft ▸ hne)] at hpending
  · rintro ⟨hne, hkeeps⟩
    have ha := hkeeps.rearmed hk hfresh hreturns
    have hkeys := hk.anyTimerFired hfresh
    rw [hreturns] at hkeys
    have hfinished : (left.finishTimeout f).Rearmed f := by
      rw [finishTimeout_of_period (hleft ▸ hne)]
      exact ha.congr rfl rfl fun n hn href _ => ⟨n, hn, href, rfl⟩
    refine ⟨hfinished, hfinished.firesNext hkeys.finishTimeout, ?_⟩
    rw [finishTimeout_of_period (hleft ▸ hne)]
    exact ⟨rfl, rfl, rfl⟩

/-- An upcall keeps a timer that its callback schedules again if and only if the callback leaves it
with another period than zero and leaves its last arming alone. -/
theorem OwnKeys.kept_iff_rearmsPeriodic (hk : h.OwnKeys) {event : ReactorEvent E}
    (hassumed : h.AssumedFresh now event) :
    KeepsRearmed ⟨.running h, (now, event), h.afterEvent now event⟩ ↔
      RearmsPeriodic ⟨.running h, (now, event), h.afterEvent now event⟩ := by
  have hget : ∀ n (f : TimerRef E), (h.getTimer f).period = 0 →
      (((h.dispatch n).calledBack n.ref f).getTimer f).period = 0 := by
    intro n f hperiod
    rwa [getTimer_calledBack]
  constructor
  · rintro hkeeps _ n callback f ⟨⟩ rfl hfor hperiod hid hreturns
    cases hrun : TimerHandler.anyTimerFired now ((h.dispatch n).calledBack n.ref f) callback with
    | mk left returned =>
      cases returned with
      | false => exact absurd (by rw [afterEvent_upcall hfor, hrun]) hreturns
      | true =>
        have htarget : h.afterEvent now (.upcall n callback) = .running (left.finishTimeout f) := by
          rw [afterEvent_upcall hfor, hrun]
        obtain ⟨ha, hnext, hcleanUp⟩ := hkeeps h n callback f _ rfl rfl hfor hperiod hid htarget
        exact (kept_iff (hk.congr timers_calledBack) (hassumed.2 f hfor) hrun (hget n f hperiod)
          hid).mp ⟨ha, hnext, hcleanUp left hrun⟩
  · rintro hrearms _ n callback f h' ⟨⟩ rfl hfor hperiod hid htarget
    replace htarget : h.afterEvent now (.upcall n callback) = .running h' := htarget
    have hleaves := hrearms h n callback f rfl rfl hfor hperiod hid
      (fun hended => by cases htarget.symm.trans hended)
    obtain ⟨hnone, -⟩ | ⟨fired, left, hfired, hrun, rfl⟩ := afterEvent_upcall_cases htarget
    · exact absurd (hnone.symm.trans hfor) (Option.some_ne_none f).symm
    · obtain rfl : fired = f := Option.some.inj (hfired.symm.trans hfor)
      obtain ⟨ha, hnext, hcleanUp⟩ := (kept_iff (hk.congr timers_calledBack)
        (hassumed.2 fired hfor) hrun (hget n fired hperiod) hid).mpr hleaves
      refine ⟨ha, hnext, fun left' hleft => ?_⟩
      obtain rfl : left = left' := congrArg Prod.fst (hrun.symm.trans hleft)
      exact hcleanUp

end Upcalls

/-! ### Runs -/

/-- The keys hold in every run. -/
theorem IsFreshRun.ownKeys {tr : List (Transition (Process E) (ℤ × ReactorEvent E))}
    {p : Process E} (hrun : IsFreshRun tr p) : ∀ h, p = .running h → h.OwnKeys := by
  refine hrun.invariant (P := fun p => ∀ h, p = .running h → h.OwnKeys) ?_ ?_
  · rintro h ⟨⟩
    exact .init
  · rintro p l p' hp ⟨h, rfl, hassumed, rfl⟩ h' hh'
    exact (hp h rfl).afterEvent hassumed hh'

/-- **Timers that fire again.** In every run, whatever the callbacks do: when the callback of a
one-shot timer schedules this timer again, then after `handle_timeout` the timer is active,
registered and on the queue, its next timeout finds it, and the clean-up has removed nothing else,
if and only if the callback leaves the timer with another period than zero and leaves its last
arming alone. -/
theorem keepsRearmed_iff {tr : List (Transition (Process E) (ℤ × ReactorEvent E))} {p : Process E}
    (hrun : IsFreshRun tr p) : ∀ t ∈ tr, KeepsRearmed t ↔ RearmsPeriodic t := by
  rintro ⟨source, ⟨now, event⟩, target⟩ ht
  obtain ⟨pre, hbefore, h, hsource, hassumed, htarget⟩ := IsRun.of_mem hrun ht
  obtain rfl : source = .running h := hsource
  obtain rfl : target = h.afterEvent now event := htarget
  exact (IsFreshRun.ownKeys hbefore h rfl).kept_iff_rearmsPeriodic hassumed

/-- A missed heartbeat whose callback schedules the same timer again; then the timer fires again. -/
def repeated (callback : List (Op SelectorEvent)) (interval : Duration) :
    List (ℤ × ReactorEvent SelectorEvent) :=
  [(0, .perform (.scheduleWith (heartbeatOf "") 0 (Sec 3) 1)),
    (Sec 3, .upcall ⟨1, heartbeatOf "", Sec 3, 0⟩ callback),
    (Sec 6, .upcall ⟨2, heartbeatOf "", Sec 6, interval⟩ [])]

/-- The callback cancels the timer and schedules it as a periodic one. -/
theorem keepsRearmed_of_period : ∃ (tr : List (Transition (Process SelectorEvent)
      (ℤ × ReactorEvent SelectorEvent))) (p : Process SelectorEvent), IsFreshRun tr p ∧
    tr.map (·.label) = repeated [.cancel (heartbeatOf ""),
      .scheduleWith (heartbeatOf "") (Sec 3) (Sec 3) 2] (Sec 3) ∧ ∀ t ∈ tr, KeepsRearmed t := by
  let rearms : List (Op SelectorEvent) :=
    [.cancel (heartbeatOf ""), .scheduleWith (heartbeatOf "") (Sec 3) (Sec 3) 2]
  have hrun := isRun_of_follow Process.freshStep_of_nextFresh? (s := .running {})
    (repeated rearms (Sec 3)) rfl
  have hrearms : ∀ l ∈ repeated rearms (Sec 3), ∀ p p', RearmsPeriodic ⟨p, l, p'⟩ := by
    simp only [repeated, List.forall_mem_cons]
    refine ⟨?_, ?_, ?_, nofun⟩
    · rintro p p' h n callback f - ⟨⟩
    · rintro p p' h n callback f - ⟨⟩ - - hid -
      have hf : f = heartbeatOf "" := by
        by_contra hne
        simp [rearms, leftId, Op.idAfter, hne] at hid
      subst hf
      exact ⟨by decide, [.cancel (heartbeatOf "")], _, [], rfl, rfl, trivial⟩
    · rintro p p' h n callback f - ⟨⟩ - - hid -
      exact absurd rfl hid
  refine ⟨_, _, hrun, rfl, fun t ht => (keepsRearmed_iff hrun t ht).mpr ?_⟩
  exact hrearms t.label (List.mem_map_of_mem ht) t.source t.target

/-- The callback reschedules the timer, which is retired after the callback; its next timeout finds
a null pointer. -/
theorem retired_after_reschedule : ∃ (tr : List (Transition (Process SelectorEvent)
      (ℤ × ReactorEvent SelectorEvent))) (p : Process SelectorEvent), IsFreshRun tr p ∧
    tr.map (·.label) = repeated [.reschedule (heartbeatOf "") 2] 0 ∧
      (∃ t ∈ tr, ¬KeepsRearmed t) ∧ ∃ t ∈ tr, ¬FindsTimer t := by
  have hrun := isRun_of_follow Process.freshStep_of_nextFresh? (s := .running {})
    (repeated [.reschedule (heartbeatOf "") 2] 0) rfl
  refine ⟨_, _, hrun, rfl, ⟨_, List.mem_cons_of_mem _ List.mem_cons_self, fun hkeeps => ?_⟩,
    _, List.mem_of_getLast? rfl, fun hfinds => ?_⟩
  · have hkept := hkeeps _ _ _ (heartbeatOf "") _ rfl rfl rfl rfl (by decide) rfl
    exact absurd hkept.1.active (by decide)
  · exact absurd (hfinds _ _ _ rfl rfl) (by decide)

end TimerHandler

end TacticalMicrogrid
