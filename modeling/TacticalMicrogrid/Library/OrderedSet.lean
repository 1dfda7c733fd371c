import Mathlib.Data.List.Sort
import Mathlib.Order.Bounds.Basic

/-!
# Ordered sets

A finite set of a linear order, kept as the list of its elements in increasing order, as an
ordered container keeps it. The list carries the proof that it is increasing, so no element is
listed twice and a walk along the list meets the least element of any subset first.

## Main definitions

* `OrderedSet`, `OrderedSet.insert`, `OrderedSet.ofList`, `OrderedSet.first?`.
* `OrderedSet.walk`: the elements that a walk to the first one that satisfies a predicate meets.

## Main results

* `OrderedSet.mem_insert`.
* `OrderedSet.first?_eq_some_iff`, `OrderedSet.first?_eq_none_iff`: the first element that
  satisfies a predicate is the least such element.
* `OrderedSet.mem_walk`: the walk meets an element if no lesser one satisfies the predicate.
* `OrderedSet.first?_congr`: what is found depends on the elements that the walk meets only.
-/

/-- A finite set kept as the increasing list of its elements. -/
structure OrderedSet (α : Type*) [LinearOrder α] where
  toList : List α
  sorted : toList.Pairwise (· < ·)

namespace OrderedSet

variable {α : Type*} [LinearOrder α]

instance : EmptyCollection (OrderedSet α) := ⟨⟨[], .nil⟩⟩

instance : Membership α (OrderedSet α) := ⟨fun s a => a ∈ s.toList⟩

theorem mem_toList {s : OrderedSet α} {a : α} : a ∈ s.toList ↔ a ∈ s := Iff.rfl

@[simp] theorem notMem_empty (a : α) : a ∉ (∅ : OrderedSet α) := List.not_mem_nil

private theorem pairwise_lt_orderedInsert {a : α} {l : List α} (hl : l.Pairwise (· < ·))
    (ha : a ∉ l) : (l.orderedInsert (· ≤ ·) a).Pairwise (· < ·) := by
  have hle : (l.orderedInsert (· ≤ ·) a).Pairwise (· ≤ ·) :=
    List.Pairwise.orderedInsert a l (hl.imp le_of_lt)
  have hne : (l.orderedInsert (· ≤ ·) a).Nodup :=
    (List.perm_orderedInsert (· ≤ ·) a l).nodup_iff.mpr (List.nodup_cons.mpr ⟨ha, hl.imp ne_of_lt⟩)
  exact hle.imp₂ (fun _ _ h hn => lt_of_le_of_ne h hn) hne

/-- Adds an element at its place; nothing changes if it is there. -/
def insert (s : OrderedSet α) (a : α) : OrderedSet α :=
  if h : a ∈ s.toList then s
  else ⟨s.toList.orderedInsert (· ≤ ·) a, pairwise_lt_orderedInsert s.sorted h⟩

@[simp] theorem mem_insert {s : OrderedSet α} {a b : α} : b ∈ s.insert a ↔ b = a ∨ b ∈ s := by
  rw [insert]
  split_ifs with h
  · constructor
    · exact Or.inr
    · rintro (rfl | hb)
      exacts [h, hb]
  · exact List.mem_orderedInsert (· ≤ ·)

theorem perm_insert {s : OrderedSet α} {a : α} (h : a ∉ s.toList) :
    (s.insert a).toList.Perm (a :: s.toList) := by
  rw [insert, dif_neg h]
  exact List.perm_orderedInsert ..

/-- The set of the elements of a list. -/
def ofList (l : List α) : OrderedSet α := l.foldl insert ∅

theorem mem_ofList {l : List α} {a : α} : a ∈ ofList l ↔ a ∈ l := by
  have hfold : ∀ (l : List α) (s : OrderedSet α), a ∈ l.foldl insert s ↔ a ∈ l ∨ a ∈ s := by
    intro l
    induction l with
    | nil => simp
    | cons b l ih =>
      intro s
      rw [List.foldl_cons, ih, mem_insert, List.mem_cons, or_left_comm, or_assoc]
  rw [ofList, hfold, or_iff_left (notMem_empty a)]

/-- The first element along the list that satisfies `p`. -/
def first? (s : OrderedSet α) (p : α → Bool) : Option α := s.toList.find? p

theorem first?_eq_none_iff {s : OrderedSet α} {p : α → Bool} :
    s.first? p = none ↔ ∀ a ∈ s, p a = false := by
  simp only [first?, List.find?_eq_none, Bool.not_eq_true, mem_toList]

private theorem isLeast_of_first? {s : OrderedSet α} {p : α → Bool} {a : α}
    (h : s.first? p = some a) : IsLeast {b | b ∈ s ∧ p b = true} a := by
  obtain ⟨hp, before, after, heq, hnot⟩ := List.find?_eq_some_iff_append.mp h
  have ha : a ∈ s := by
    rw [← mem_toList, heq]
    exact List.mem_append_right _ List.mem_cons_self
  have hafter : ∀ b ∈ after, a < b :=
    (List.pairwise_cons.mp (List.pairwise_append.mp (heq ▸ s.sorted)).2.1).1
  refine ⟨⟨ha, hp⟩, ?_⟩
  rintro b ⟨hb, hpb⟩
  rw [← mem_toList, heq, List.mem_append, List.mem_cons] at hb
  rcases hb with hb | rfl | hb
  · exact absurd hpb (by simpa using hnot b hb)
  · exact le_rfl
  · exact (hafter b hb).le

/-- The walk along an ordered set stops at the least element that satisfies the predicate. -/
theorem first?_eq_some_iff {s : OrderedSet α} {p : α → Bool} {a : α} :
    s.first? p = some a ↔ IsLeast {b | b ∈ s ∧ p b = true} a := by
  constructor
  · exact isLeast_of_first?
  · intro ha
    cases h : s.first? p with
    | none => exact absurd ha.1.2 (by simp [first?_eq_none_iff.mp h a ha.1.1])
    | some b => rw [(isLeast_of_first? h).unique ha]

/-! ### Walks -/

/-- The part of a list up to the first element that satisfies `p`. -/
def walkTo (p : α → Bool) : List α → List α
  | [] => []
  | a :: l => a :: if p a then [] else walkTo p l

/-- The elements that are met on the way to the first one that satisfies `p`. -/
def walk (s : OrderedSet α) (p : α → Bool) : List α := walkTo p s.toList

/-- An element is met if no lesser one satisfies the predicate. -/
theorem mem_walk {s : OrderedSet α} {p : α → Bool} {a : α} :
    a ∈ s.walk p ↔ a ∈ s ∧ ∀ b ∈ s, b < a → p b = false := by
  obtain ⟨l, hl⟩ := s
  change a ∈ walkTo p l ↔ a ∈ l ∧ ∀ b ∈ l, b < a → p b = false
  induction l with
  | nil => simp [walkTo]
  | cons c l ih =>
    obtain ⟨hc, hl⟩ := List.pairwise_cons.mp hl
    rw [walkTo, List.mem_cons, List.mem_cons, List.forall_mem_cons]
    by_cases ha : a = c
    · subst ha
      exact iff_of_true (Or.inl rfl)
        ⟨Or.inl rfl, fun h => absurd h (lt_irrefl a), fun b hb h => absurd h (hc b hb).not_gt⟩
    · rw [or_iff_right ha, or_iff_right ha]
      cases hp : p c with
      | false =>
        rw [if_neg Bool.false_ne_true, ih hl]
        exact and_congr_right fun _ => ⟨fun h => ⟨fun _ => rfl, h⟩, fun h => h.2⟩
      | true =>
        rw [if_pos rfl]
        refine iff_of_false List.not_mem_nil ?_
        rintro ⟨hmem, hlt, -⟩
        exact Bool.false_ne_true (hlt (hc a hmem)).symm

/-- The walk ends with what it looks for. -/
theorem mem_walk_of_first? {s : OrderedSet α} {p : α → Bool} {a : α}
    (h : s.first? p = some a) : a ∈ s.walk p := by
  obtain ⟨⟨ha, -⟩, hle⟩ := first?_eq_some_iff.mp h
  refine mem_walk.mpr ⟨ha, fun b hb hlt => ?_⟩
  by_contra hp
  exact (hle ⟨hb, Bool.not_eq_false _ ▸ hp⟩).not_gt hlt

/-- An element that is met and looked for is the one that is found. -/
theorem first?_of_mem_walk {s : OrderedSet α} {p : α → Bool} {a : α} (h : a ∈ s.walk p)
    (ha : p a = true) : s.first? p = some a := by
  obtain ⟨hmem, hbefore⟩ := mem_walk.mp h
  refine first?_eq_some_iff.mpr ⟨⟨hmem, ha⟩, ?_⟩
  rintro b ⟨hb, hpb⟩
  by_contra hlt
  exact Bool.false_ne_true ((hbefore b hb (not_le.mp hlt)).symm.trans hpb)

/-- Two predicates that agree on the elements that are met find the same element. -/
theorem first?_congr {s : OrderedSet α} {p q : α → Bool} (h : ∀ a ∈ s.walk p, q a = p a) :
    s.first? q = s.first? p := by
  cases hfirst : s.first? p with
  | none =>
    have hnone := first?_eq_none_iff.mp hfirst
    refine first?_eq_none_iff.mpr fun a ha => ?_
    rw [h a (mem_walk.mpr ⟨ha, fun b hb _ => hnone b hb⟩)]
    exact hnone a ha
  | some a =>
    obtain ⟨⟨ha, hpa⟩, hle⟩ := first?_eq_some_iff.mp hfirst
    have hbefore : ∀ b ∈ s, b < a → p b = false := fun b hb hlt => by
      by_contra hp
      exact (hle ⟨hb, Bool.not_eq_false _ ▸ hp⟩).not_gt hlt
    refine first?_eq_some_iff.mpr ⟨⟨ha, (h a (mem_walk_of_first? hfirst)).trans hpa⟩, ?_⟩
    rintro b ⟨hb, hqb⟩
    by_contra hlt
    have hlt := not_le.mp hlt
    have hwalk : b ∈ s.walk p :=
      mem_walk.mpr ⟨hb, fun b' hb' hlt' => hbefore b' hb' (hlt'.trans hlt)⟩
    exact Bool.false_ne_true ((hbefore b hb hlt).symm.trans ((h b hwalk).symm.trans hqb))

/-- If every element of one kind stops a walk, and so does every one of another kind, then the walk
meets none of the first kind exactly if one of the second kind is before each of them. -/
theorem forall_walk_not_iff {s : OrderedSet α} {p : α → Bool} {P Q : α → Prop}
    (hp : ∀ a ∈ s, p a = true ↔ P a ∨ Q a) :
    (∀ a ∈ s.walk p, ¬P a) ↔ ∀ a ∈ s, P a → ∃ b ∈ s, b < a ∧ Q b := by
  constructor
  · intro hwalk a ha hP
    have hpa : p a = true := (hp a ha).mpr (Or.inl hP)
    cases hfirst : s.first? p with
    | none => exact absurd hpa (by simp [first?_eq_none_iff.mp hfirst a ha])
    | some b =>
      obtain ⟨⟨hb, hpb⟩, hle⟩ := first?_eq_some_iff.mp hfirst
      have hnot := hwalk b (mem_walk_of_first? hfirst)
      refine ⟨b, hb, lt_of_le_of_ne (hle ⟨ha, hpa⟩) ?_, ((hp b hb).mp hpb).resolve_left hnot⟩
      rintro rfl
      exact hnot hP
  · intro hbefore a hmem hP
    obtain ⟨ha, hnone⟩ := mem_walk.mp hmem
    obtain ⟨b, hb, hlt, hQ⟩ := hbefore a ha hP
    exact Bool.false_ne_true ((hnone b hb hlt).symm.trans ((hp b hb).mpr (Or.inr hQ)))

end OrderedSet
