import TacticalMicrogrid.Library.Run

/-!
# Components of a system

A component of a system has a state of its own in the state of the system. A step of the system is
a step of the component, with a label of its own, or it leaves the component as it is. So a run of
the system is a run of the component, with fewer steps: what is known about the runs of the
component alone holds of it in the system.

## Main definitions

* `TransitionSystem.Component`, `TransitionSystem.Component.trace`.
* `TransitionSystem.Component.Follows`: the component takes its own steps only.

## Main results

* `TransitionSystem.IsRun.component`: the run of a component in a run of the system.
* `TransitionSystem.Component.forall_mem_trace`: what holds of its steps.
-/

namespace TransitionSystem

/-- How a component is seen in a system: its state, and the label of its own step, if it takes
one. -/
structure Component (σ ℓ τ κ : Type*) where
  state : σ → τ
  label : ℓ → Option κ

variable {σ ℓ τ κ : Type*}

namespace Component

variable (p : Component σ ℓ τ κ)

/-- The transition that the component takes in a transition of the system. -/
def transition (t : Transition σ ℓ) : Option (Transition τ κ) :=
  (p.label t.label).map fun k => ⟨p.state t.source, k, p.state t.target⟩

/-- The transitions that the component takes in those of the system. -/
def trace (tr : List (Transition σ ℓ)) : List (Transition τ κ) := tr.filterMap p.transition

/-- A step of the system is a step of the component or leaves it as it is. -/
structure Follows (step : σ → ℓ → σ → Prop) (step' : τ → κ → τ → Prop) : Prop where
  moves : ∀ s l s' k, step s l s' → p.label l = some k → step' (p.state s) k (p.state s')
  stays : ∀ s l s', step s l s' → p.label l = none → p.state s' = p.state s

theorem trace_append (tr tr' : List (Transition σ ℓ)) :
    p.trace (tr ++ tr') = p.trace tr ++ p.trace tr' := List.filterMap_append

theorem trace_snoc (tr : List (Transition σ ℓ)) (t : Transition σ ℓ) :
    p.trace (tr ++ [t]) = p.trace tr ++ (p.transition t).toList := by
  rw [trace_append]
  cases ht : p.transition t <;> simp [ht, trace]

variable {p}

/-- A transition of the system in which the component moves is one of the component. -/
theorem mem_trace {tr : List (Transition σ ℓ)} {t : Transition σ ℓ} (ht : t ∈ tr) {k : κ}
    (hk : p.label t.label = some k) : ⟨p.state t.source, k, p.state t.target⟩ ∈ p.trace tr :=
  List.mem_filterMap.mpr ⟨t, ht, by rw [transition, hk]; rfl⟩

/-- What holds of the transitions of the system in which the component moves holds of its own. -/
theorem forall_mem_trace {Q : Transition τ κ → Prop} {tr : List (Transition σ ℓ)}
    (h : ∀ t ∈ tr, ∀ k, p.label t.label = some k → Q ⟨p.state t.source, k, p.state t.target⟩) :
    ∀ u ∈ p.trace tr, Q u := by
  intro u hu
  obtain ⟨t, ht, heq⟩ := List.mem_filterMap.mp hu
  obtain ⟨k, hk, rfl⟩ := Option.map_eq_some_iff.mp heq
  exact h t ht k hk

/-- If two systems show a component by the same labels, and their states correspond, then so do the
transitions that the component takes. -/
theorem trace_map {σ' τ' : Type*} {q : Component σ' ℓ τ' κ} {f : σ → σ'} {g : τ → τ'}
    (hlabel : ∀ l, q.label l = p.label l) (hstate : ∀ s, q.state (f s) = g (p.state s))
    (tr : List (Transition σ ℓ)) :
    q.trace (tr.map (Transition.map f)) = (p.trace tr).map (Transition.map g) := by
  rw [trace, trace, List.filterMap_map, List.map_filterMap]
  refine List.filterMap_congr fun t _ => ?_
  simp only [Function.comp_apply, transition, Transition.map, hlabel, hstate, Option.map_map]
  rfl

end Component

/-- A run of the system is a run of the component. -/
theorem IsRun.component {p : Component σ ℓ τ κ} {step : σ → ℓ → σ → Prop}
    {step' : τ → κ → τ → Prop} (hp : p.Follows step step') {s₀ s : σ}
    {tr : List (Transition σ ℓ)} (h : IsRun step s₀ tr s) :
    IsRun step' (p.state s₀) (p.trace tr) (p.state s) := by
  induction h with
  | nil => exact .nil
  | @snoc tr s l s' hrun hstep ih =>
    rw [p.trace_snoc, Component.transition]
    cases hl : p.label l with
    | none =>
      rw [hp.stays s l s' hstep hl, Option.map_none, Option.toList_none, List.append_nil]
      exact ih
    | some k => exact .snoc ih (hp.moves s l s' k hstep hl)

end TransitionSystem
