import Mathlib.Data.List.Basic
import Mathlib.Data.List.Induction
import Mathlib.Tactic.Common

/-!
# Interleavings of two sequences

Two sequences of messages arrive over two channels, each in its own order and in no order between
them. An interleaving is the sequence of both, as a list over the sum of the two message types.

## Main definitions

* `IsInterleaving`.

## Main results

* `IsInterleaving.foldl_invariant`: the induction over an interleaving.
* `isInterleaving_left_right`, `isInterleaving_right_left`: one sequence may come before the other.
-/

variable {α β σ : Type*}

/-- The sequence `w` is made of `xs` and `ys`, each in its order. -/
def IsInterleaving (xs : List α) (ys : List β) (w : List (α ⊕ β)) : Prop :=
  w.filterMap Sum.getLeft? = xs ∧ w.filterMap Sum.getRight? = ys

theorem isInterleaving_left_right (xs : List α) (ys : List β) :
    IsInterleaving xs ys (xs.map Sum.inl ++ ys.map Sum.inr) := by
  simp [IsInterleaving, List.filterMap_append, Function.comp_def]

theorem isInterleaving_right_left (xs : List α) (ys : List β) :
    IsInterleaving xs ys (ys.map Sum.inr ++ xs.map Sum.inl) := by
  simp [IsInterleaving, List.filterMap_append, Function.comp_def]

/-- A property of what has come over each channel and of the state, which holds at the start and
which every message keeps, holds after every interleaving. -/
theorem IsInterleaving.foldl_invariant {f : σ → α ⊕ β → σ} {s₀ : σ}
    {P : List α → List β → σ → Prop} (hstart : P [] [] s₀)
    (hleft : ∀ xs ys s x, P xs ys s → P (xs ++ [x]) ys (f s (.inl x)))
    (hright : ∀ xs ys s y, P xs ys s → P xs (ys ++ [y]) (f s (.inr y)))
    {xs : List α} {ys : List β} {w : List (α ⊕ β)} (h : IsInterleaving xs ys w) :
    P xs ys (w.foldl f s₀) := by
  obtain ⟨rfl, rfl⟩ := h
  induction w using List.reverseRecOn with
  | nil => exact hstart
  | append_singleton w e ih =>
    rw [List.foldl_append, List.filterMap_append, List.filterMap_append]
    cases e with
    | inl x =>
      change P (_ ++ [x]) (_ ++ []) _
      rw [List.append_nil]
      exact hleft _ _ _ x ih
    | inr y =>
      change P (_ ++ []) (_ ++ [y]) _
      rw [List.append_nil]
      exact hright _ _ _ y ih
