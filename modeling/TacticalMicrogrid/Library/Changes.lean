import Mathlib.Data.List.Destutter

/-!
# The changes of a value

A value is set again and again. What has changed it, one after the other, is the sequence without
the repetitions, which is Mathlib's `List.destutter (· ≠ ·)`. Here the sequence passes through a
queue: it grows at the end of the queue, and someone takes the values out in their order, sets each,
and may tell others of those that change it.

## Main definitions

* `Changes.Tracks`: a value is the last one that has been taken out.
* `Changes.Emits`: the changes have been told of what has been taken out.

## Main results

* `Changes.destutter_concat`: one more value is a change if it differs from the last one.
* `Changes.Tracks.step`, `Changes.Emits.step`: the queue moves on.
* `Changes.Emits.prefix_changes`, `Changes.Emits.eq_changes`: what has been told are the first
  changes of the sequence, and all of them when the queue is empty.
-/

namespace Changes

variable {α : Type*} [DecidableEq α] {a : α} {l l' : List α}

/-- One more value is a change if it differs from the last one. -/
theorem destutter_concat (a b : α) (l : List α) :
    (a :: (l ++ [b])).destutter (· ≠ ·) =
      (a :: l).destutter (· ≠ ·) ++ if l.getLastD a = b then [] else [b] := by
  rw [List.destutter_cons', List.destutter_cons']
  induction l generalizing a with
  | nil =>
    rw [List.nil_append, List.destutter'_singleton, List.getLastD_nil, List.destutter'_nil]
    by_cases hab : a = b
    · rw [if_neg (not_not.mpr hab), if_pos hab, List.append_nil]
    · rw [if_pos hab, if_neg hab, List.singleton_append]
  | cons c l ih =>
    rw [List.cons_append, List.getLastD_cons]
    by_cases hac : a = c
    · subst hac
      rw [List.destutter'_cons_neg _ (not_not.mpr rfl),
        List.destutter'_cons_neg _ (not_not.mpr rfl)]
      exact ih a
    · rw [List.destutter'_cons_pos _ hac, List.destutter'_cons_pos _ hac, ih c, List.cons_append]

/-- The last change is the last value. -/
theorem getLastD_destutter (a : α) (l : List α) :
    ((a :: l).destutter (· ≠ ·)).getLastD a = l.getLastD a := by
  induction l using List.reverseRecOn with
  | nil => rfl
  | append_singleton l b ih =>
    rw [destutter_concat, List.getLastD_concat]
    split_ifs with hlast
    · rw [List.append_nil, ih, hlast]
    · rw [List.getLastD_concat]

/-- A sequence that goes on keeps its changes. -/
theorem destutter_prefix (a : α) (l more : List α) :
    (a :: l).destutter (· ≠ ·) <+: (a :: (l ++ more)).destutter (· ≠ ·) := by
  induction more using List.reverseRecOn with
  | nil =>
    refine ⟨[], ?_⟩
    rw [List.append_nil, List.append_nil]
  | append_singleton more b ih =>
    rw [← List.append_assoc, destutter_concat]
    exact ih.trans (List.prefix_append _ _)

/-! ### Queues -/

variable {all queue queue' new now out : List α} {value : α}

omit [DecidableEq α] in
/-- Of all values, some have been taken out of the queue, and `value` is the last one of them, or
the first value `a` if there is none. -/
def Tracks (a : α) (all queue : List α) (value : α) : Prop :=
  ∃ taken, taken ++ queue = all ∧ value = taken.getLastD a

/-- Of all values, some have been taken out of the queue, and `out` are those of them that have
changed the value. -/
def Emits (a : α) (all queue out : List α) : Prop :=
  ∃ taken, taken ++ queue = all ∧ a :: out = (a :: taken).destutter (· ≠ ·)

omit [DecidableEq α] in
theorem Tracks.nil (a : α) : Tracks a [] [] a := ⟨[], rfl, rfl⟩

theorem Emits.nil (a : α) : Emits a [] [] [] := ⟨[], rfl, rfl⟩

omit [DecidableEq α] in
/-- New values come into the queue, and others are taken out. -/
theorem Tracks.step (h : Tracks a all queue value) (hqueue : queue ++ new = now ++ queue') :
    Tracks a (all ++ new) queue' (now.getLastD value) := by
  obtain ⟨taken, rfl, rfl⟩ := h
  refine ⟨taken ++ now, ?_, ?_⟩
  · rw [List.append_assoc, ← hqueue, List.append_assoc]
  · rw [List.getLastD_eq_getLast?, List.getLastD_eq_getLast?, List.getLastD_eq_getLast?,
      List.getLast?_append]
    cases now.getLast? <;> rfl

omit [DecidableEq α] in
/-- When the queue is empty, the value is the last one. -/
theorem Tracks.eq_last (h : Tracks a all [] value) : value = all.getLastD a := by
  obtain ⟨taken, rfl, rfl⟩ := h
  rw [List.append_nil]

omit [DecidableEq α] in
/-- What is in the queue is among all values. -/
theorem Tracks.queue_subset (h : Tracks a all queue value) : queue ⊆ all := by
  obtain ⟨taken, rfl, -⟩ := h
  exact List.subset_append_right taken queue

/-- New values come into the queue, and none is taken out. -/
theorem Emits.put (h : Emits a all queue out) (new : List α) :
    Emits a (all ++ new) (queue ++ new) out := by
  obtain ⟨taken, rfl, hout⟩ := h
  exact ⟨taken, (List.append_assoc ..).symm, hout⟩

/-- New values come into the queue, and one at most is taken out, which is told if it changes the
value. -/
theorem Emits.step (h : Emits a all queue out) (hvalue : Tracks a all queue value)
    (hqueue : queue ++ new = now ++ queue') (hone : now.length ≤ 1) :
    Emits a (all ++ new) queue' (out ++ now.filter (value ≠ ·)) := by
  obtain ⟨taken, rfl, hout⟩ := h
  obtain ⟨taken', heq, rfl⟩ := hvalue
  obtain rfl := List.append_cancel_right heq
  refine ⟨taken' ++ now, ?_, ?_⟩
  · rw [List.append_assoc, ← hqueue, List.append_assoc]
  · rw [← List.cons_append, hout]
    rcases now with _ | ⟨b, _ | ⟨_, _⟩⟩
    · rw [List.filter_nil, List.append_nil, List.append_nil]
    · rw [destutter_concat]
      split_ifs with hb
      · rw [List.filter_cons_of_neg (by simpa using hb), List.filter_nil]
      · rw [List.filter_cons_of_pos (by simpa using hb), List.filter_nil]
    · simp at hone

/-- What has been told are the first changes. -/
theorem Emits.prefix_changes (h : Emits a all queue out) :
    a :: out <+: (a :: all).destutter (· ≠ ·) := by
  obtain ⟨taken, rfl, hout⟩ := h
  rw [hout]
  exact destutter_prefix a taken queue

/-- When the queue is empty, all changes have been told. -/
theorem Emits.eq_changes (h : Emits a all [] out) : a :: out = (a :: all).destutter (· ≠ ·) := by
  obtain ⟨taken, rfl, hout⟩ := h
  rw [List.append_nil, hout]

/-- When the queue is empty, the last change that has been told is the last value. -/
theorem Emits.getLastD_eq (h : Emits a all [] out) : out.getLastD a = all.getLastD a := by
  rw [← getLastD_destutter a all, ← h.eq_changes, List.getLastD_cons]

end Changes
