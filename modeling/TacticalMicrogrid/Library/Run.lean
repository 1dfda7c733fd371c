import Mathlib.Data.List.Basic
import Mathlib.Data.List.Infix
import Mathlib.Tactic.Common

/-!
# Runs of a labelled transition relation

A transition relation `step : σ → ℓ → σ → Prop` says which states a state leads to under a
label. `IsRun step s₀ tr s` says that the transitions listed in `tr`, the oldest first, lead from
`s₀` to `s`. The list keeps the state before and after every transition, so that a property of
the history (a signal seen earlier, the last value written) is a property of the list.

## Main definitions

* `TransitionSystem.Transition`, `TransitionSystem.IsRun`.
* `TransitionSystem.Since`: something has happened, and something else has held ever since.
* `TransitionSystem.follow`: the run of a computable step function along a list of inputs.

## Main results

* `TransitionSystem.IsRun.invariant`, `TransitionSystem.IsRun.traceInvariant`: a property that
  holds at the start and is kept by every transition holds at the end of every run.
* `TransitionSystem.IsRun.invariant_of_forall`: the same when only the transitions that meet a
  condition keep the property.
* `TransitionSystem.IsRun.forall_mem_of_forall`, `TransitionSystem.IsRun.forall_mem_of_keep`: what
  holds of the transitions of such a run.
* `TransitionSystem.IsRun.forall_mem_iff`: all transitions of a run have a property exactly when all
  meet a condition, if that is so for the transitions out of good states, and the condition leads
  to good states.
* `TransitionSystem.IsRun.forall_prefix_iff`: if a transition out of a good state leads to a good
  state exactly when it meets a condition, then a run visits good states only exactly when every
  transition of it meets the condition.
* `TransitionSystem.IsRun.of_prefix_snoc`, `TransitionSystem.IsRun.of_mem`: the run before a
  transition of a run.
* `TransitionSystem.IsRun.map`: a run seen through a function that takes its steps to steps.
* `TransitionSystem.isRun_of_follow`, `TransitionSystem.exists_isRun_of_follow`: a computed run is a
  run. `TransitionSystem.of_guard_eq_some` is for step functions with a guard.
-/

namespace TransitionSystem

/-- One transition of a run: the state it leaves, its label and the state it reaches. -/
structure Transition (σ ℓ : Type*) where
  source : σ
  label : ℓ
  target : σ

/-- The transitions `tr`, the oldest first, lead from `s₀` to the state of the last argument. -/
inductive IsRun {σ ℓ : Type*} (step : σ → ℓ → σ → Prop) (s₀ : σ) :
    List (Transition σ ℓ) → σ → Prop
  | nil : IsRun step s₀ [] s₀
  | snoc {tr s l s'} (hrun : IsRun step s₀ tr s) (hstep : step s l s') :
      IsRun step s₀ (tr ++ [⟨s, l, s'⟩]) s'

/-- A transition with its states seen through a function. -/
def Transition.map {σ ℓ σ' : Type*} (f : σ → σ') (t : Transition σ ℓ) : Transition σ' ℓ :=
  ⟨f t.source, t.label, f t.target⟩

namespace IsRun

variable {σ ℓ : Type*} {step : σ → ℓ → σ → Prop} {s₀ s : σ} {tr : List (Transition σ ℓ)}

/-! ### Invariants -/

/-- A property of the history and the state that holds at the start and that every transition
of a run keeps holds at the end of the run. -/
theorem traceInvariant {P : List (Transition σ ℓ) → σ → Prop} (h : IsRun step s₀ tr s)
    (hstart : P [] s₀)
    (hkeep : ∀ tr s l s', IsRun step s₀ tr s → P tr s → step s l s' →
      P (tr ++ [⟨s, l, s'⟩]) s') : P tr s := by
  induction h with
  | nil => exact hstart
  | snoc hrun hstep ih => exact hkeep _ _ _ _ hrun ih hstep

/-- A property of the state that holds at the start and that every transition keeps holds at the
end of every run. -/
theorem invariant {P : σ → Prop} (h : IsRun step s₀ tr s) (hstart : P s₀)
    (hkeep : ∀ s l s', P s → step s l s' → P s') : P s :=
  h.traceInvariant (P := fun _ s => P s) hstart fun _ s l s' _ hs hstep => hkeep s l s' hs hstep

/-- The empty run ends where it starts. -/
@[simp] theorem nil_iff : IsRun step s₀ [] s ↔ s = s₀ := by
  constructor
  · intro h
    generalize htr : ([] : List (Transition σ ℓ)) = tr at h
    cases h with
    | nil => rfl
    | snoc _ _ => simp at htr
  · rintro rfl
    exact .nil

/-- The last transition of a run leaves the state that the run before it reaches. -/
theorem snoc_iff {t : Transition σ ℓ} :
    IsRun step s₀ (tr ++ [t]) s ↔
      IsRun step s₀ tr t.source ∧ step t.source t.label t.target ∧ t.target = s := by
  constructor
  · intro h
    generalize htr : tr ++ [t] = tr' at h
    cases h with
    | nil => simp at htr
    | snoc hrun hstep =>
      obtain ⟨rfl, ht⟩ := List.append_inj' htr rfl
      obtain rfl := List.singleton_injective ht
      exact ⟨hrun, hstep, rfl⟩
  · rintro ⟨hrun, hstep, rfl⟩
    exact .snoc hrun hstep

/-- A run and a run from where it ends are a run. -/
theorem append (h : IsRun step s₀ tr s) {tr' : List (Transition σ ℓ)} {s' : σ}
    (h' : IsRun step s tr' s') : IsRun step s₀ (tr ++ tr') s' := by
  induction h' with
  | nil => rwa [List.append_nil]
  | snoc _ hstep ih =>
    rw [← List.append_assoc]
    exact .snoc ih hstep

/-- The transitions of a run up to any point of it are a run. -/
theorem exists_of_prefix (h : IsRun step s₀ tr s) {pre : List (Transition σ ℓ)}
    (hpre : pre <+: tr) : ∃ r, IsRun step s₀ pre r := by
  induction h with
  | nil => exact ⟨s₀, List.prefix_nil.mp hpre ▸ .nil⟩
  | snoc hrun hstep ih =>
    rcases List.prefix_concat_iff.mp hpre with rfl | hpre
    · exact ⟨_, .snoc hrun hstep⟩
    · exact ih hpre

/-- Every transition of a run is taken from the state that the run before it reaches. -/
theorem of_prefix_snoc (h : IsRun step s₀ tr s) {pre : List (Transition σ ℓ)}
    {t : Transition σ ℓ} (hpre : pre ++ [t] <+: tr) :
    IsRun step s₀ pre t.source ∧ step t.source t.label t.target := by
  obtain ⟨r, hr⟩ := h.exists_of_prefix hpre
  obtain ⟨hrun, hstep, -⟩ := snoc_iff.mp hr
  exact ⟨hrun, hstep⟩

/-- **Functional refinement.** A run whose transitions are all seen as steps of another system is
seen as a run of that system, with the same labels. -/
theorem map {σ' : Type*} {step' : σ' → ℓ → σ' → Prop} {f : σ → σ'} (h : IsRun step s₀ tr s)
    (hstep : ∀ t ∈ tr, step' (f t.source) t.label (f t.target)) :
    IsRun step' (f s₀) (tr.map (Transition.map f)) (f s) := by
  induction h with
  | nil => exact .nil
  | @snoc tr s l s' hrun _ ih =>
    rw [List.map_append]
    refine .snoc (ih fun t ht => hstep t (List.mem_append_left _ ht)) ?_
    exact hstep ⟨s, l, s'⟩ (List.mem_append_right _ List.mem_cons_self)

/-- A property that only the transitions meeting the condition `C` keep holds at the end of every
run all of whose transitions meet `C`. -/
theorem invariant_of_forall {P : σ → Prop} {C : σ → ℓ → Prop} (h : IsRun step s₀ tr s)
    (hC : ∀ t ∈ tr, C t.source t.label) (hstart : P s₀)
    (hkeep : ∀ s l s', P s → C s l → step s l s' → P s') : P s := by
  induction h with
  | nil => exact hstart
  | @snoc tr s l s' hrun hstep ih =>
    have hs := ih fun t ht => hC t (List.mem_append_left _ ht)
    exact hkeep s l s' hs (hC ⟨s, l, s'⟩ (List.mem_append_right _ List.mem_cons_self)) hstep

/-- If a transition taken from a good state has the property `K` exactly when it meets the
condition `C`, and then leads to a good state, then all transitions of a run have the property
exactly when all of them meet the condition. -/
theorem forall_mem_iff {I : σ → Prop} {K C : Transition σ ℓ → Prop} (h : IsRun step s₀ tr s)
    (hstart : I s₀) (hkeep : ∀ s l s', I s → step s l s' →
      (K ⟨s, l, s'⟩ ↔ C ⟨s, l, s'⟩) ∧ (C ⟨s, l, s'⟩ → I s')) :
    (∀ t ∈ tr, K t) ↔ ∀ t ∈ tr, C t := by
  have hboth : ((∀ t ∈ tr, K t) ↔ ∀ t ∈ tr, C t) ∧ ((∀ t ∈ tr, C t) → I s) := by
    induction h with
    | nil => exact ⟨by simp, fun _ => hstart⟩
    | @snoc tr s l s' hrun hstep ih =>
      simp only [List.forall_mem_append, List.forall_mem_singleton, ih.1]
      refine ⟨and_congr_right fun hC => (hkeep s l s' (ih.2 hC) hstep).1, fun hC => ?_⟩
      exact (hkeep s l s' (ih.2 hC.1) hstep).2 hC.2
  exact hboth.1

/-! ### Runs through good states only -/

/-- If a transition taken from a good state leads to a good state exactly when it meets the
condition `C`, then a run visits good states only exactly when all its transitions meet `C`.
Both the property and the condition may look at the history. -/
theorem forall_prefix_iff {P : List (Transition σ ℓ) → σ → Prop}
    {C : List (Transition σ ℓ) → σ → ℓ → Prop} (h : IsRun step s₀ tr s) (hstart : P [] s₀)
    (hkeep : ∀ tr s l s', IsRun step s₀ tr s → P tr s → step s l s' →
      (P (tr ++ [⟨s, l, s'⟩]) s' ↔ C tr s l)) :
    (∀ pre r, pre <+: tr → IsRun step s₀ pre r → P pre r) ↔
      ∀ pre t, pre ++ [t] <+: tr → C pre t.source t.label := by
  induction h with
  | nil =>
    constructor
    · intro _ pre t hpre
      simp at hpre
    · intro _ pre r hpre hr
      obtain rfl := List.prefix_nil.mp hpre
      obtain rfl := nil_iff.mp hr
      exact hstart
  | @snoc tr s l s' hrun hstep ih =>
    constructor
    · intro hP pre t hpre
      have hgood := ih.mp fun pre r hpre => hP pre r (hpre.trans (List.prefix_append ..))
      rcases List.prefix_concat_iff.mp hpre with heq | hpre
      · obtain ⟨rfl, ht⟩ := List.append_inj' heq rfl
        obtain rfl := List.singleton_injective ht
        have hs := hP pre s (List.prefix_append ..) hrun
        exact (hkeep pre s l s' hrun hs hstep).mp
          (hP _ s' List.prefix_rfl (.snoc hrun hstep))
      · exact hgood pre t hpre
    · intro hC pre r hpre hr
      have hgood := ih.mpr fun pre t hpre => hC pre t (hpre.trans (List.prefix_append ..))
      rcases List.prefix_concat_iff.mp hpre with rfl | hpre
      · obtain ⟨-, -, rfl⟩ := snoc_iff.mp hr
        have hs := hgood tr s List.prefix_rfl hrun
        exact (hkeep tr s l s' hrun hs hstep).mpr (hC tr ⟨s, l, s'⟩ List.prefix_rfl)
      · exact hgood pre r hpre hr

end IsRun

/-- Every element of a list ends a prefix of it. -/
theorem exists_prefix_snoc_of_mem {α : Type*} {l : List α} {a : α} (h : a ∈ l) :
    ∃ pre, pre ++ [a] <+: l := by
  obtain ⟨before, after, rfl⟩ := List.append_of_mem h
  exact ⟨before, after, by rw [List.append_assoc, List.singleton_append]⟩

/-- Every transition of a run is taken from a state that a run reaches. -/
theorem IsRun.of_mem {σ ℓ : Type*} {step : σ → ℓ → σ → Prop} {s₀ s : σ}
    {tr : List (Transition σ ℓ)} (h : IsRun step s₀ tr s) {t : Transition σ ℓ} (ht : t ∈ tr) :
    ∃ pre, IsRun step s₀ pre t.source ∧ step t.source t.label t.target := by
  obtain ⟨pre, hpre⟩ := exists_prefix_snoc_of_mem ht
  exact ⟨pre, h.of_prefix_snoc hpre⟩

/-- If the transitions that meet the condition `C` keep the states good, and every transition taken
from a good state has the property `Q`, then all transitions of a run that all meet `C` have it. -/
theorem IsRun.forall_mem_of_forall {σ ℓ : Type*} {step : σ → ℓ → σ → Prop} {s₀ s : σ}
    {tr : List (Transition σ ℓ)} {P : σ → Prop} {C : σ → ℓ → Prop} {Q : Transition σ ℓ → Prop}
    (h : IsRun step s₀ tr s) (hC : ∀ t ∈ tr, C t.source t.label) (hstart : P s₀)
    (hkeep : ∀ s l s', P s → C s l → step s l s' → P s')
    (hQ : ∀ s l s', P s → step s l s' → Q ⟨s, l, s'⟩) : ∀ t ∈ tr, Q t := by
  intro t ht
  obtain ⟨pre, hpre⟩ := exists_prefix_snoc_of_mem ht
  obtain ⟨hbefore, hstep⟩ := h.of_prefix_snoc hpre
  have hgood := hbefore.invariant_of_forall
    (fun u hu => hC u (hpre.subset (List.mem_append_left _ hu))) hstart hkeep
  exact hQ t.source t.label t.target hgood hstep

/-- If the transitions that meet the condition `C` keep a property, then a run whose transitions all
meet `C` has it before and after each of them. -/
theorem IsRun.forall_mem_of_keep {σ ℓ : Type*} {step : σ → ℓ → σ → Prop} {s₀ s : σ}
    {tr : List (Transition σ ℓ)} {P : σ → Prop} {C : σ → ℓ → Prop} (h : IsRun step s₀ tr s)
    (hC : ∀ t ∈ tr, C t.source t.label) (hstart : P s₀)
    (hkeep : ∀ s l s', P s → C s l → step s l s' → P s') :
    ∀ t ∈ tr, P t.source ∧ P t.target := by
  intro t ht
  obtain ⟨pre, hpre⟩ := exists_prefix_snoc_of_mem ht
  obtain ⟨hbefore, hstep⟩ := h.of_prefix_snoc hpre
  have hsource := hbefore.invariant_of_forall
    (fun u hu => hC u (hpre.subset (List.mem_append_left _ hu))) hstart hkeep
  exact ⟨hsource, hkeep t.source t.label t.target hsource (hC t ht) hstep⟩

theorem forall_prefix_snoc_iff {α : Type*} {l : List α} {Q : α → Prop} :
    (∀ pre a, pre ++ [a] <+: l → Q a) ↔ ∀ a ∈ l, Q a := by
  constructor
  · intro h a ha
    obtain ⟨pre, hpre⟩ := exists_prefix_snoc_of_mem ha
    exact h pre a hpre
  · intro h pre a hpre
    exact h a (hpre.subset (List.mem_append_right _ List.mem_cons_self))

/-- A property of the elements of a list and what comes before them, position by position. -/
theorem forall_prefix_snoc_iff_getElem {α : Type*} {l : List α} {Q : List α → α → Prop} :
    (∀ pre a, pre ++ [a] <+: l → Q pre a) ↔ ∀ i (hi : i < l.length), Q (l.take i) l[i] := by
  constructor
  · intro h i hi
    refine h _ _ ?_
    rw [List.take_append_getElem hi]
    exact List.take_prefix ..
  · rintro h pre a ⟨post, rfl⟩
    simpa using h pre.length (by simp)

/-- What comes before and after a position of a list. -/
theorem eq_take_append_getElem_append_drop {α : Type*} (l : List α) (i : ℕ) (hi : i < l.length) :
    l = l.take i ++ [l[i]] ++ l.drop (i + 1) := by
  rw [List.take_append_getElem hi, List.take_append_drop]

/-! ### What has happened since -/

section Since

variable {α : Type*} {A B : α → Prop} {l : List α} {a : α}

/-- An element of the list satisfies `A`, and all elements after it satisfy `B`. -/
def Since (A B : α → Prop) (l : List α) : Prop :=
  ∃ pre a post, l = pre ++ a :: post ∧ A a ∧ ∀ b ∈ post, B b

theorem not_since_nil : ¬Since A B [] := by
  rintro ⟨pre, a, post, heq, -⟩
  simp at heq

theorem since_snoc : Since A B (l ++ [a]) ↔ A a ∨ Since A B l ∧ B a := by
  constructor
  · rintro ⟨pre, b, post, heq, hb, hpost⟩
    rcases List.eq_nil_or_concat post with rfl | ⟨post, d, rfl⟩
    · obtain ⟨-, ha⟩ := List.append_inj' heq rfl
      obtain rfl := List.singleton_injective ha
      exact Or.inl hb
    · rw [List.concat_eq_append, ← List.cons_append, ← List.append_assoc] at heq
      obtain ⟨rfl, ha⟩ := List.append_inj' heq rfl
      obtain rfl := List.singleton_injective ha
      rw [List.concat_eq_append] at hpost
      exact Or.inr ⟨⟨pre, b, post, rfl, hb, fun x hx => hpost x (List.mem_append_left _ hx)⟩,
        hpost a (List.mem_append_right _ List.mem_cons_self)⟩
  · rintro (ha | ⟨⟨pre, b, post, rfl, hb, hpost⟩, ha⟩)
    · exact ⟨l, a, [], rfl, ha, by simp⟩
    · refine ⟨pre, b, post ++ [a], by simp, hb, fun x hx => ?_⟩
      rcases List.mem_append.mp hx with hx | hx
      · exact hpost x hx
      · rwa [List.mem_singleton.mp hx]

theorem Since.exists_mem (h : Since A B l) : ∃ a ∈ l, A a := by
  obtain ⟨pre, a, post, rfl, ha, -⟩ := h
  exact ⟨a, List.mem_append_right _ List.mem_cons_self, ha⟩

end Since

/-! ### Computed runs -/

section Follow

variable {σ ι ℓ : Type*} (next : σ → ι → Option (ℓ × σ))

/-- The transitions of a step function along a list of inputs and the state they reach, if every
input can be taken. -/
def follow (s : σ) : List ι → Option (List (Transition σ ℓ) × σ)
  | [] => some ([], s)
  | i :: is =>
    match next s i with
    | none => none
    | some (l, s') => (follow s' is).map fun r => (⟨s, l, s'⟩ :: r.1, r.2)

variable {next} {step : σ → ℓ → σ → Prop}

/-- A run goes on with the transitions that a step function takes from its end. -/
theorem IsRun.append_follow (hnext : ∀ s i l s', next s i = some (l, s') → step s l s')
    {s₀ s s' : σ} {tr tr' : List (Transition σ ℓ)} (h : IsRun step s₀ tr s) (is : List ι)
    (hfollow : follow next s is = some (tr', s')) : IsRun step s₀ (tr ++ tr') s' := by
  induction is generalizing tr s tr' with
  | nil =>
    obtain ⟨rfl, rfl⟩ := Prod.mk.inj (Option.some.inj hfollow)
    rwa [List.append_nil]
  | cons i is ih =>
    rw [follow] at hfollow
    split at hfollow
    · simp at hfollow
    · next l r hr =>
      obtain ⟨⟨tr'', s''⟩, hrest, heq⟩ := Option.map_eq_some_iff.mp hfollow
      obtain ⟨rfl, rfl⟩ := Prod.mk.inj heq
      have hstep := IsRun.snoc h (hnext s i l r hr)
      simpa only [List.append_assoc, List.singleton_append] using ih hstep hrest

/-- The transitions a step function takes along a list of inputs are a run. -/
theorem isRun_of_follow (hnext : ∀ s i l s', next s i = some (l, s') → step s l s')
    {s s' : σ} {tr : List (Transition σ ℓ)} (is : List ι)
    (hfollow : follow next s is = some (tr, s')) : IsRun step s tr s' :=
  IsRun.append_follow hnext .nil is hfollow

/-- A step function with a guard takes a step if the guard holds, and says which one. -/
theorem of_guard_eq_some {p : Prop} [Decidable p] {l l' : ℓ} {s s' : σ}
    (h : (if p then some (l, s) else none) = some (l', s')) : p ∧ l' = l ∧ s' = s := by
  split_ifs at h with hp
  obtain ⟨rfl, rfl⟩ := Prod.mk.inj (Option.some.inj h)
  exact ⟨hp, rfl, rfl⟩

/-- A computed run that passes a test is a run with what is tested. -/
theorem exists_isRun_of_follow (hnext : ∀ s i l s', next s i = some (l, s') → step s l s')
    {s : σ} (is : List ι) {P : List (Transition σ ℓ) → σ → Prop} [∀ tr s, Decidable (P tr s)]
    (h : (follow next s is).any (fun r => P r.1 r.2) = true) :
    ∃ tr s', IsRun step s tr s' ∧ P tr s' := by
  obtain ⟨⟨tr, s'⟩, hfollow, hP⟩ := (Option.any_eq_true _ _).mp h
  exact ⟨tr, s', isRun_of_follow hnext is hfollow, of_decide_eq_true hP⟩

/-- Two computed runs, one after the other, that pass a test. -/
theorem exists_isRun_of_follow_follow
    (hnext : ∀ s i l s', next s i = some (l, s') → step s l s') {s : σ} (is is' : List ι)
    {P : List (Transition σ ℓ) → σ → List (Transition σ ℓ) → σ → Prop}
    [∀ tr s tr' s', Decidable (P tr s tr' s')]
    (h : (follow next s is).any (fun r =>
      (follow next r.2 is').any fun r' => P r.1 r.2 r'.1 r'.2) = true) :
    ∃ tr s' tr' s'', IsRun step s tr s' ∧ IsRun step s' tr' s'' ∧ P tr s' tr' s'' := by
  obtain ⟨⟨tr, s'⟩, hfollow, hsecond⟩ := (Option.any_eq_true _ _).mp h
  obtain ⟨tr', s'', hrun, hP⟩ := exists_isRun_of_follow hnext (P := P tr s') is' hsecond
  exact ⟨tr, s', tr', s'', isRun_of_follow hnext is hfollow, hrun, hP⟩

end Follow

end TransitionSystem
