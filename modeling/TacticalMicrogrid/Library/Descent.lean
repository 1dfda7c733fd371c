import Mathlib.Data.Set.Finite.List
import Mathlib.Data.List.Basic

/-!
# Descendants

Every element has a list of children. The generations of an element are the element itself, its
children, the children of its children and so on, each with its multiplicity.

## Main definitions

* `Descent.generation`, `Descent.Descends`.

## Main results

* `Descent.Descends.induction_on`: the induction over descendants.
* `Descent.finite_descendants`: an element with an empty generation has finitely many descendants.
-/

namespace Descent

variable {α : Type*} {children : α → List α} {a b c : α} {n : ℕ}

/-- The descendants of an element in a generation. -/
def generation (children : α → List α) (a : α) : ℕ → List α
  | 0 => [a]
  | n + 1 => (generation children a n).flatMap children

/-- The second element is in a generation of the first. -/
def Descends (children : α → List α) (a b : α) : Prop :=
  ∃ n, b ∈ generation children a n

theorem mem_generation_succ :
    c ∈ generation children a (n + 1) ↔ ∃ b ∈ generation children a n, c ∈ children b :=
  List.mem_flatMap

theorem Descends.refl : Descends children a a :=
  ⟨0, List.mem_singleton_self a⟩

theorem Descends.step (h : Descends children a b) (hc : c ∈ children b) :
    Descends children a c := by
  obtain ⟨n, hn⟩ := h
  exact ⟨n + 1, mem_generation_succ.mpr ⟨b, hn, hc⟩⟩

/-- A property of an element that children inherit holds for its descendants. -/
theorem Descends.induction_on {P : α → Prop} (h : Descends children a b) (ha : P a)
    (hstep : ∀ b c, Descends children a b → P b → c ∈ children b → P c) : P b := by
  obtain ⟨n, hn⟩ := h
  induction n generalizing b with
  | zero => rwa [List.mem_singleton.mp hn]
  | succ n ih =>
    obtain ⟨b', hb', hb⟩ := mem_generation_succ.mp hn
    exact hstep b' b ⟨n, hb'⟩ (ih hb') hb

/-- A generation without children is the last one. -/
theorem generation_eq_nil_of_forall (h : ∀ b ∈ generation children a n, children b = []) :
    generation children a (n + 1) = [] :=
  List.flatMap_eq_nil_iff.mpr h

/-- No generation follows an empty one. -/
theorem generation_eq_nil_of_le (h : generation children a n = []) {m : ℕ} (hm : n ≤ m) :
    generation children a m = [] := by
  induction m, hm using Nat.le_induction with
  | base => exact h
  | succ m _ ih => rw [generation, ih, List.flatMap_nil]

/-- An element with an empty generation has finitely many descendants. -/
theorem finite_descendants (h : generation children a n = []) :
    {b | Descends children a b}.Finite := by
  refine ((List.range n).flatMap (generation children a)).finite_toSet.subset ?_
  rintro b ⟨m, hm⟩
  refine List.mem_flatMap.mpr ⟨m, List.mem_range.mpr ?_, hm⟩
  by_contra hle
  rw [generation_eq_nil_of_le h (not_lt.mp hle)] at hm
  exact List.not_mem_nil hm

end Descent
