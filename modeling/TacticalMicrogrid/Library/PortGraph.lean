import Mathlib.Combinatorics.SimpleGraph.Operations

/-!
# Graphs with single-port vertices

Vertices are joined by cables. Some vertices have one port only, so that at most one cable may end
there; a cable may be laid between two vertices as long as neither is a single-port vertex with a
cable.

## Main definitions

* `PortGraph.PortBounded`.

## Main results

* `PortGraph.PortBounded.sup_edge`: a cable between two vertices that may have one keeps the bound.
-/

namespace PortGraph

variable {V : Type*} {G : SimpleGraph V} {single : V → Prop} {a b : V}

/-- Every single-port vertex has at most one neighbour. -/
def PortBounded (G : SimpleGraph V) (single : V → Prop) : Prop :=
  ∀ a, single a → ∀ b c, G.Adj a b → G.Adj a c → b = c

theorem portBounded_bot : PortBounded (⊥ : SimpleGraph V) single :=
  fun _ _ _ _ h => h.elim

theorem PortBounded.congr {single' : V → Prop} (h : PortBounded G single)
    (hsingle : ∀ a b, G.Adj a b → single' a → single a) : PortBounded G single' :=
  fun a ha b c hb hc => h a (hsingle a b hb ha) b c hb hc

/-- A new cable between two vertices with a free port keeps the bound. -/
theorem PortBounded.sup_edge (h : PortBounded G single) (ha : single a → ∀ x, ¬G.Adj a x)
    (hb : single b → ∀ x, ¬G.Adj b x) : PortBounded (G ⊔ SimpleGraph.edge a b) single := by
  intro x hx y z hy hz
  rw [SimpleGraph.sup_adj, SimpleGraph.edge_adj] at hy hz
  rcases hy with hy | ⟨⟨rfl, rfl⟩ | ⟨rfl, rfl⟩, hne⟩
  · rcases hz with hz | ⟨⟨rfl, rfl⟩ | ⟨rfl, rfl⟩, -⟩
    · exact h x hx y z hy hz
    · exact absurd hy (ha hx y)
    · exact absurd hy (hb hx y)
  · rcases hz with hz | ⟨⟨-, heq⟩ | ⟨heq, -⟩, -⟩
    · exact absurd hz (ha hx z)
    · exact heq.symm
    · exact absurd heq hne
  · rcases hz with hz | ⟨⟨heq, -⟩ | ⟨-, heq⟩, -⟩
    · exact absurd hz (hb hx z)
    · exact absurd heq hne
    · exact heq.symm

end PortGraph
